import CommandLine.Declaration.ArgumentType
import CommandLine.Proofs.NotANumber
import CommandLine.Proofs.Shown
import CommandLine.Proofs.ValueTypes

/-!
# Comparing outcomes

Outcomes are compared by what they hold, and fields by the equality of their own types. All of
these are reflexive but the one of floating point numbers. So parsing the same arguments twice gives
the same outcome, unless a field holds what is not a number; `parse_same_parse_iff` says for which
arguments it does.
-/

namespace CommandLine

/-! ### Values -/

def Scalar.isNaN : Scalar → Bool
  | .float x => x.isNaN
  | _ => false

/-- What is inside of all structures is no number. -/
def TypedValue.isNaN : TypedValue → Bool
  | .scalar value => value.isNaN
  | .wrapped value => value.isNaN

@[simp] lemma Scalar.same_self (x : Scalar) : x.same x = !x.isNaN := by
  cases x <;> simp [same, isNaN]

@[simp] lemma TypedValue.same_self (x : TypedValue) : x.same x = !x.isNaN := by
  induction x with
  | scalar value => simp [same, isNaN]
  | wrapped value ih => simp [same, isNaN, ih]

/-- A value of the field is no number. -/
def FieldValue.HoldsNaN (value : FieldValue TypedValue) : Prop :=
  ∃ x ∈ value.members, x.isNaN = true

/-! ### Outcomes -/

lemma SpecialCommand.same_self (command : SpecialCommand) : command.same command = true := by
  simp [same]

/-- Errors and commands are the same as themselves. -/
lemma Outcome.same_self_iff {α : Type} {same : α → α → Bool} {outcome : Outcome α} :
    outcome.same same outcome = true ↔
      ∀ options, outcome = .options options → same options options = true := by
  cases outcome with
  | options options => simp [Outcome.same]
  | errors errors => simp [Outcome.same]
  | command command => simp [Outcome.same, SpecialCommand.same_self]

lemma Outcome.same_self_iff_not_holdsNaN {outcome : Outcome (Record TypedValue)} :
    outcome.same (Record.same TypedValue.same) outcome = true ↔
      ∀ record, outcome = .options record → ∀ field ∈ record, ¬ field.2.HoldsNaN := by
  simp [same_self_iff, Record.same_self_iff, FieldValue.HoldsNaN]

/-! ### Types -/

/-- No text is read as a floating point value that is not a number. -/
def Decoder.NeverNaN (decoder : Decoder Scalar) : Prop :=
  ∀ text value, decoder.decode text = .ok value → value.isNaN = false

namespace Decoder

lemma neverNaN_ofReader {β ε : Type} {kind : ScalarKind} {read : List Char → Except ε β}
    {wording : ε → String} {value : β → Scalar} {initial : Scalar}
    (h : ∀ x, (value x).isNaN = false) : (ofReader kind read wording value initial).NeverNaN := by
  intro text found hfound
  obtain ⟨x, -, rfl⟩ := decode_ofReader_eq_ok_iff.mp hfound
  exact h x

lemma neverNaN_bool : bool.NeverNaN := by
  intro text value h
  unfold bool at h
  cases htruth : truth? text with
  | none => simp [htruth] at h
  | some found =>
    simp only [htruth] at h
    obtain rfl := Except.ok.inj h
    rfl

lemma neverNaN_char : char.NeverNaN := by
  intro text value h
  unfold char at h
  dsimp only at h
  split at h
  · obtain rfl := Except.ok.inj h
    rfl
  · exact nomatch h

lemma neverNaN_text : text.NeverNaN := by
  rintro _ _ ⟨⟩
  rfl

lemma neverNaN_path : path.NeverNaN := by
  rintro _ _ ⟨⟩
  rfl

lemma neverNaN_duration : duration.NeverNaN := by
  intro text value h
  obtain ⟨span, -, rfl⟩ := Except.map_eq_ok_iff.mp h
  rfl

lemma neverNaN_enumeration (members : List (String × String)) :
    (enumeration members).NeverNaN := by
  intro text value h
  unfold enumeration at h
  dsimp only at h
  split at h
  · obtain rfl := Except.ok.inj h
    rfl
  · exact nomatch h

end Decoder

namespace ArgumentType

lemma isNaN_iff_of_neverNaN {decoder : Decoder Scalar} (hnever : decoder.NeverNaN) {text : String}
    {value : TypedValue} (h : (decoder.map .scalar).decode text = .ok value) :
    value.isNaN = true ↔ false = true ∧ SpellsNaN text.toList := by
  rw [Decoder.decode_map] at h
  obtain ⟨x, hx, rfl⟩ := Except.map_eq_ok_iff.mp h
  simp [TypedValue.isNaN, hnever text x hx]

/-- A value is no number exactly if its type is one of floating point numbers and its text is the
name of such a value. -/
theorem isNaN_iff_of_decode {type : ArgumentType} {text : String} {value : TypedValue}
    (h : type.decoder.decode text = .ok value) :
    value.isNaN = true ↔ type.isFloat = true ∧ SpellsNaN text.toList := by
  induction type generalizing value with
  | newtype inner ih =>
    rw [decoder, Decoder.decode_map] at h
    obtain ⟨x, hx, rfl⟩ := Except.map_eq_ok_iff.mp h
    simpa [TypedValue.isNaN, isFloat] using ih hx
  | float format precise =>
    rw [decoder, Decoder.decode_map] at h
    obtain ⟨_, hfloat, rfl⟩ := Except.map_eq_ok_iff.mp h
    obtain ⟨x, hx, rfl⟩ := Decoder.decode_ofReader_eq_ok_iff.mp hfloat
    exact (Decoder.isNaN_iff_of_grouped precise hx).trans (by simp [isFloat])
  | bool => exact isNaN_iff_of_neverNaN Decoder.neverNaN_bool h
  | char => exact isNaN_iff_of_neverNaN Decoder.neverNaN_char h
  | text => exact isNaN_iff_of_neverNaN Decoder.neverNaN_text h
  | path => exact isNaN_iff_of_neverNaN Decoder.neverNaN_path h
  | duration => exact isNaN_iff_of_neverNaN Decoder.neverNaN_duration h
  | enumeration members => exact isNaN_iff_of_neverNaN (Decoder.neverNaN_enumeration members) h
  | integer | ipv4 | ipv6 | ip | socketV4 | socketV6 | socket | date | clock | dateTime
  | offsetDateTime | utcDateTime =>
    exact isNaN_iff_of_neverNaN (Decoder.neverNaN_ofReader fun _ => rfl) h

end ArgumentType

/-! ### Fields -/

namespace FieldBase

variable {base : FieldBase} {environment : Environment TypedValue} {values : List TypedValue}

/-- A field that is given some values shows one that is no number exactly if it is given one.
Collections that are no lists are given none. -/
lemma holdsNaN_shown_iff (hne : values ≠ [])
    (hsize : base.shape.wrapper = .sequence ∨ values.length ≤ 1)
    (hlist : ∀ collection, base.shape.wrapping = some (.sequence collection) →
      collection = .list ∨ ∀ value ∈ values, value.isNaN = false) :
    (base.shown environment values).HoldsNaN ↔ ∃ value ∈ values, value.isNaN = true := by
  have hshows : base.Shows environment values (base.shown environment values) :=
    shows_shown hsize fun hnil => absurd hnil hne
  generalize base.shown environment values = shown at hshows
  cases hshows with
  | single hwrapper value => simp [FieldValue.HoldsNaN, FieldValue.members]
  | nullable hwrapper value => simp [FieldValue.HoldsNaN, FieldValue.members]
  | sequence hwrapping hvalues hmembers =>
    rcases hlist _ hwrapping with rfl | hnone
    · obtain rfl := hmembers
      simp [FieldValue.HoldsNaN, FieldValue.members]
    · constructor
      · rintro ⟨value, hvalue, hnan⟩
        exact ⟨value, hmembers.given hvalue, hnan⟩
      · rintro ⟨value, hvalue, hnan⟩
        rw [hnone value hvalue] at hnan
        exact absurd hnan Bool.false_ne_true
  | declared | initial | absent | empty => exact absurd rfl hne

end FieldBase

/-! ### Parsing twice -/

namespace Interface

variable {interface : Interface} {environment : Environment TypedValue}
  {types : TypeExpr → ArgumentType}

/-- The fields of an interface can be compared: their types come with decoders, and sets and heaps
have members of types whose equality is reflexive. -/
structure Comparable (interface : Interface) (environment : Environment TypedValue)
    (types : TypeExpr → ArgumentType) : Prop where
  decodes : ∀ slot base, (slot, base) ∈ interface.fields →
    (environment.decoder base.shape.scalar).decode = (types base.shape.scalar).decoder.decode
  members : ∀ slot base collection, (slot, base) ∈ interface.fields →
    base.shape.wrapping = some (.sequence collection) →
      collection = .list ∨ (types base.shape.scalar).isFloat = false

/-- A field holds what is not a number: it is one of floating point numbers and is given the name of
such a value, or it is given nothing and has such a default. -/
def FieldGivesNaN (environment : Environment TypedValue) (types : TypeExpr → ArgumentType)
    (base : FieldBase) (texts : List String) : Prop :=
  (types base.shape.scalar).isFloat = true ∧ (∃ text ∈ texts, SpellsNaN text.toList) ∨
    texts = [] ∧ (base.shown environment []).HoldsNaN

def GivesNaN (interface : Interface) (environment : Environment TypedValue)
    (types : TypeExpr → ArgumentType) (arguments : List String) : Prop :=
  ∃ slot base, (slot, base) ∈ interface.fields ∧
    FieldGivesNaN environment types base ((interface.model environment).given arguments slot)

/-- The values that a field is given come from the texts that it is given. -/
lemma exists_isNaN_values_iff (comparable : interface.Comparable environment types)
    {arguments : List String} {slot : Slot} {base : FieldBase}
    (hfield : (slot, base) ∈ interface.fields)
    (hdecoded : ∀ text ∈ (interface.model environment).given arguments slot,
      (interface.decode? environment slot text).isSome = true) :
    (∃ value ∈ interface.values environment arguments slot, value.isNaN = true) ↔
      (types base.shape.scalar).isFloat = true ∧
        ∃ text ∈ (interface.model environment).given arguments slot, SpellsNaN text.toList := by
  have hdecode {text : String} {value : TypedValue}
      (h : interface.decode? environment slot text = some value) :
      value.isNaN = true ↔ (types base.shape.scalar).isFloat = true ∧ SpellsNaN text.toList := by
    rw [decode?, base?_of_mem_fields hfield, Option.bind_some,
      comparable.decodes slot base hfield] at h
    cases hfound : (types base.shape.scalar).decoder.decode text with
    | error fault => simp [hfound, Except.toOption] at h
    | ok found =>
      obtain rfl : found = value := by simpa [hfound, Except.toOption] using h
      exact ArgumentType.isNaN_iff_of_decode hfound
  simp only [values, List.mem_filterMap]
  constructor
  · rintro ⟨value, ⟨text, htext, hvalue⟩, hnan⟩
    obtain ⟨hfloat, hspells⟩ := (hdecode hvalue).mp hnan
    exact ⟨hfloat, text, htext, hspells⟩
  · rintro ⟨hfloat, text, htext, hspells⟩
    obtain ⟨value, hvalue⟩ := Option.isSome_iff_exists.mp (hdecoded text htext)
    exact ⟨value, ⟨text, htext, hvalue⟩, (hdecode hvalue).mpr ⟨hfloat, hspells⟩⟩

/-- Where no error is found, a field shows what is not a number exactly if it is given such a value,
or is given nothing and has such a default. -/
lemma holdsNaN_shown_values_iff (hsound : interface.Sound)
    (comparable : interface.Comparable environment types) {arguments : List String}
    (hflawless : ∀ event ∈ (interface.model environment).account arguments,
      interface.Flawless environment event)
    {slot : Slot} {base : FieldBase} (hfield : (slot, base) ∈ interface.fields) :
    (base.shown environment (interface.values environment arguments slot)).HoldsNaN ↔
      FieldGivesNaN environment types base
        ((interface.model environment).given arguments slot) := by
  obtain ⟨-, hdecoded, hsize⟩ :=
    stored_eq_values hsound hflawless (base?_of_mem_fields hfield)
  have hvalues := exists_isNaN_values_iff comparable hfield hdecoded
  by_cases hnil : (interface.model environment).given arguments slot = []
  · simp [FieldGivesNaN, values, hnil]
  · have hne : interface.values environment arguments slot ≠ [] := by
      intro hempty
      obtain ⟨text, htext⟩ := List.exists_mem_of_ne_nil _ hnil
      have hsome := hdecoded text htext
      rw [List.filterMap_eq_nil_iff.mp hempty text htext] at hsome
      exact absurd hsome Bool.false_ne_true
    rw [FieldBase.holdsNaN_shown_iff hne
      (hsize.imp_right (Nat.le_trans (List.length_filterMap_le _ _))), hvalues]
    · simp [FieldGivesNaN, hnil]
    · intro collection hwrapping
      refine (comparable.members slot base collection hfield hwrapping).imp_right ?_
      intro hnofloat value hvalue
      by_contra hnan
      have hfloat := (hvalues.mp ⟨value, hvalue, by simpa using hnan⟩).1
      rw [hnofloat] at hfloat
      exact absurd hfloat Bool.false_ne_true

/-- The outcomes of parsing the same arguments twice are the same, be they options, errors or a
command, unless they are options and some field holds what is not a number. This is so exactly if a
field of floating point numbers, which may be inside of structures, is given the name of such a
value, or if a field that is given nothing has such a default. -/
theorem parse_same_parse_iff {declaration : Declaration}
    (accepted : Interface.ofDeclaration declaration = .ok interface)
    (comparable : interface.Comparable environment types) (arguments : List String) :
    ((interface.program environment).parse arguments).same (Record.same TypedValue.same)
        ((interface.program environment).parse arguments) = true ↔
      ¬ ((∃ record, (interface.program environment).parse arguments = .options record) ∧
        interface.GivesNaN environment types arguments) := by
  have hsound := sound_of_ofDeclaration accepted
  rw [Outcome.same_self_iff_not_holdsNaN]
  have hrecord (record : Record TypedValue)
      (hoptions : (interface.program environment).parse arguments = .options record) :
      (∃ field ∈ record, field.2.HoldsNaN) ↔ interface.GivesNaN environment types arguments := by
    obtain ⟨-, hflawless, rfl⟩ := (parse_eq_options_iff hsound).mp hoptions
    constructor
    · rintro ⟨_, hmem, hholds⟩
      obtain ⟨⟨slot, base⟩, hfield, rfl⟩ := List.mem_map.mp hmem
      exact ⟨slot, base, hfield,
        (holdsNaN_shown_values_iff hsound comparable hflawless hfield).mp hholds⟩
    · rintro ⟨slot, base, hfield, hgives⟩
      exact ⟨_, List.mem_map_of_mem hfield,
        (holdsNaN_shown_values_iff hsound comparable hflawless hfield).mpr hgives⟩
  constructor
  · rintro hnone ⟨⟨record, hoptions⟩, hgives⟩
    obtain ⟨field, hmem, hholds⟩ := (hrecord record hoptions).mpr hgives
    exact hnone record hoptions field hmem hholds
  · intro hnone record hoptions field hmem hholds
    exact hnone ⟨⟨record, hoptions⟩, (hrecord record hoptions).mp ⟨field, hmem, hholds⟩⟩

lemma comparable_gauges :
    Sample.gaugesInterface.Comparable Sample.gaugesEnvironment Sample.gaugesType where
  decodes _ _ _ := rfl
  members slot base collection hfield hwrapping := by
    have hall : ∀ field ∈ Sample.gaugesInterface.fields,
        field.2.shape.wrapping = some (.sequence .set) ∨
          field.2.shape.wrapping = some (.sequence .heap) →
        (Sample.gaugesType field.2.shape.scalar).isFloat = false := by decide
    cases collection with
    | list => exact .inl rfl
    | set => exact .inr (hall _ hfield (.inl hwrapping))
    | heap => exact .inr (hall _ hfield (.inr hwrapping))

/-- A structure around what is not a number differs from itself, whatever the case and the sign. The
same name as a member of a set of integers is an error, which is the same as itself. -/
theorem parse_same_parse_gauges :
    let same (arguments : List String) :=
      (Sample.gaugesProgram.parse arguments).same (Record.same TypedValue.same)
        (Sample.gaugesProgram.parse arguments)
    Interface.ofDeclaration Sample.gauges = .ok Sample.gaugesInterface ∧
      Sample.gaugesInterface.Comparable Sample.gaugesEnvironment Sample.gaugesType ∧
      same ["--ratio=+NaN", "--marks", "7", "7", "--", "1"] ≠ true ∧
      same ["--ratio=+NaN", "--marks", "7", "nan", "--", "1"] = true ∧
      ¬ Sample.gaugesInterface.GivesNaN Sample.gaugesEnvironment Sample.gaugesType
        ["--", "-inf", "1,000", "0"] := by
  intro same
  have haccepted := Sample.ofDeclaration_gauges
  refine ⟨haccepted, comparable_gauges, ?_, ?_, ?_⟩
  · intro hsame
    apply (parse_same_parse_iff haccepted comparable_gauges _).mp hsame
    refine ⟨⟨_, rfl⟩, .option 0, Sample.base "ratio" (some .nullable) "Share" false, ?_, .inl ?_⟩
    · exact .head _
    · exact ⟨rfl, "+NaN", .head _, ['+'], ['N', 'a', 'N'], .inr (.inl rfl), rfl, rfl⟩
  · apply (parse_same_parse_iff haccepted comparable_gauges _).mpr
    rintro ⟨⟨record, h⟩, -⟩
    exact nomatch h
  · intro hgives
    exact (parse_same_parse_iff haccepted comparable_gauges _).mp rfl ⟨⟨_, rfl⟩, hgives⟩

/-- A number that is not one, as the value of an option: the options differ from themselves. -/
theorem parse_nan_differs :
    Interface.ofDeclaration Sample.gauges = .ok Sample.gaugesInterface ∧
      Sample.gaugesInterface.Comparable Sample.gaugesEnvironment Sample.gaugesType ∧
      Sample.gaugesProgram.parse ["--ratio", "nan", "1"] =
        .options [
          ("ratio", .nullable (some (.wrapped (.scalar (.float ⟨.binary64, 0x7ff8000000000000⟩))))),
          ("marks", .sequence []),
          ("length", .single (.scalar (.float ⟨.binary64, 0x3ff0000000000000⟩))),
          ("rest", .sequence [])] ∧
      (Sample.gaugesProgram.parse ["--ratio", "nan", "1"]).same (Record.same TypedValue.same)
        (Sample.gaugesProgram.parse ["--ratio", "nan", "1"]) = false :=
  ⟨Sample.ofDeclaration_gauges, comparable_gauges, rfl, rfl⟩

end Interface

end CommandLine
