import CommandLine.Proofs.Acceptance
import CommandLine.Sample.Archive

/-!
# Flags by spelling and by kind

A field is checked by the spelling of its type, and there only `bool` is a flag. What a reader takes
for a flag is decided by the kind that comes with the decoder of the type. The rules for flags hold
for every type that is spelled `bool`: an option of such a type is no sequence and not required. A
type of truth values by another name escapes them.
-/

namespace CommandLine

variable {α : Type}

/-! ### Types of truth values -/

/-- Every type of truth values is decoded as a flag. -/
def Environment.KnowsTruth (environment : Environment α) (types : String → Option ValueType) :
    Prop :=
  ∀ type : TypeExpr, type.IsTruth types → (environment.decoder type).kind = .flag

/-- A type that is spelled `bool` is one of truth values, whatever value types there are. -/
lemma TypeExpr.isTruth_of_isBool {types : String → Option ValueType} {type : TypeExpr}
    (h : type.isBool = true) : type.IsTruth types := by
  induction type with
  | path text name =>
    have htext : text = "bool" := by simpa [isBool, stripped] using h
    exact .primitive (by simp [htext, truthPaths])
  | applied text name argument => simp [isBool, stripped] at h
  | paren inner ih => exact .paren (ih h)
  | group inner ih => exact .group (ih h)
  | other text => simp [isBool, stripped] at h

/-! ### Checked options -/

/-- An option that is spelled as a flag passes only if it is no sequence and does not say that it is
required. -/
lemma Field.unsequenced_of_asOption {settings : FieldSettings} {base : FieldBase}
    {field : OptionField} (h : asOption settings base = .ok field)
    (hflag : base.shape.isFlag = true) :
    base.shape.wrapper ≠ .sequence ∧ settings.required = false := by
  simp only [asOption, Except.bind_eq_ok_iff, refuse_eq_ok_iff] at h
  obtain ⟨_, _, _, _, _, hsequence, _, hrequired, _⟩ := h
  exact ⟨by simpa [hflag] using hsequence, by simpa [hflag] using hrequired⟩

/-- An option that is spelled as a flag is no sequence and not required. -/
lemma Interface.unrequired_of_isFlag {declaration : Declaration} {interface : Interface}
    (accepted : ofDeclaration declaration = .ok interface) {field : OptionField}
    (hfield : field ∈ interface.options) (hflag : field.base.shape.isFlag = true) :
    field.base.shape.wrapper ≠ .sequence ∧ field.base.required = false := by
  obtain ⟨source, -, hsource⟩ := exists_field_of_mem_options accepted hfield
  obtain ⟨settings, shape, docs, -, -, hrole⟩ := Field.exists_of_ofDeclaration hsource
  cases hrole with
  | option _ hoption =>
    rw [(Field.sound_of_asOption hoption).1] at hflag ⊢
    obtain ⟨hsequence, hrequired⟩ := Field.unsequenced_of_asOption hoption hflag
    refine ⟨hsequence, ?_⟩
    have hspelled : shape.isFlag = true := hflag
    simp [Field.baseOf, Field.isRequired, hrequired, hspelled]

/-! ### Options of a model -/

namespace Interface

variable {interface : Interface} {environment : Environment α}

/-- Where every type of truth values is decoded as a flag, an option of an accepted declaration
whose values are spelled `bool` is a flag, no sequence and not required. If they are spelled
otherwise, a single value without a default is required, even if the kind of the option is a flag.
-/
theorem flags_by_spelling {declaration : Declaration}
    (accepted : ofDeclaration declaration = .ok interface) {types : String → Option ValueType}
    (knows : environment.KnowsTruth types) {place : Nat} {option : OptionSpec}
    (hoption : (interface.model environment).options[place]? = some option) :
    ∃ field, interface.options[place]? = some field ∧ field.spec environment = option ∧
      (field.base.shape.scalar.isBool = true →
        option.kind.isFlag = true ∧ option.kind.isSequence = false ∧ option.required = false) ∧
      (field.base.shape.scalar.isBool = false → option.kind.wrapper = .single →
        field.base.default = .none → option.required = true) := by
  obtain ⟨field, hfield, rfl⟩ := option_eq_some_iff.mp hoption
  have hmem := List.mem_of_getElem? hfield
  refine ⟨field, hfield, rfl, ?_, ?_⟩
  · intro hspelled
    obtain ⟨hsequence, hrequired⟩ := unrequired_of_isFlag accepted hmem hspelled
    have hkind : (environment.decoder field.base.shape.scalar).kind = .flag :=
      knows _ (TypeExpr.isTruth_of_isBool hspelled)
    refine ⟨?_, ?_, hrequired⟩
    · simp [OptionField.spec, FieldBase.kind, ValueKind.isFlag, hkind]
    · simp [OptionField.spec, FieldBase.kind, ValueKind.isSequence, hsequence]
  · intro hspelled hsingle hdefault
    have hsound := ((sound_of_ofDeclaration accepted).options field hmem).1
    by_contra hrequired
    have hflag : field.base.shape.scalar.isBool = true :=
      hsound hdefault (by simpa [OptionField.spec] using hrequired) hsingle
    rw [hspelled] at hflag
    exact Bool.false_ne_true hflag

end Interface

/-! ### Truth values by other names -/

lemma Sample.knowsTruth_spellings : spellingsEnvironment.KnowsTruth spellingsTypes := by
  intro type htruth
  have htext : type.stripped.text ∈ "Switch" :: "Strict" :: truthPaths := by
    induction htruth with
    | primitive h => exact List.mem_cons_of_mem _ (List.mem_cons_of_mem _ h)
    | @newtype text name inner named h hinner ih =>
      rw [spellingsTypes] at h
      split_ifs at h with hswitch hstrict
      · simp [TypeExpr.stripped, TypeExpr.text, hswitch]
      · simp [TypeExpr.stripped, TypeExpr.text, hstrict]
    | paren h ih => exact ih
    | group h ih => exact ih
  simp only [spellingsEnvironment, if_pos htext]
  rfl

namespace Interface

/-- The rules hold for `bool` itself, and a structure around a truth value is required. -/
theorem flags_by_spelling_spellings :
    let model := Sample.spellingsInterface.model Sample.spellingsEnvironment
    let strict : OptionSpec := ⟨"strict", .long "strict", ⟨.single, .flag⟩, true, ""⟩
    let color : OptionSpec := ⟨"color", .long "color", ⟨.single, .flag⟩, false, ""⟩
    ofDeclaration Sample.spellings = .ok Sample.spellingsInterface ∧
      Sample.spellingsEnvironment.KnowsTruth Sample.spellingsTypes ∧
      model.options[2]? = some strict ∧ model.options[3]? = some color ∧ strict.required = true ∧
      color.kind.isFlag = true ∧ color.kind.isSequence = false ∧ color.required = false := by
  intro model strict color
  have knows := Sample.knowsTruth_spellings
  have hstrict : model.options[2]? = some strict := by decide
  have hcolor : model.options[3]? = some color := by decide
  obtain ⟨_, hstrictField, -, -, hother⟩ :=
    flags_by_spelling Sample.ofDeclaration_spellings knows hstrict
  obtain ⟨_, hcolorField, -, hspelled, -⟩ :=
    flags_by_spelling Sample.ofDeclaration_spellings knows hcolor
  cases hstrictField
  cases hcolorField
  exact ⟨Sample.ofDeclaration_spellings, knows, hstrict, hcolor, hother (by decide) rfl rfl,
    hspelled (by decide)⟩

/-- Truth values by another name are collected into a sequence of flags, and they make flags that
are required, also behind two structures. -/
theorem flags_by_other_names :
    ofDeclaration Sample.spellings = .ok Sample.spellingsInterface ∧
      Sample.spellingsEnvironment.KnowsTruth Sample.spellingsTypes ∧
      ((Sample.spellingsInterface.model Sample.spellingsEnvironment).options.map fun option =>
        (option.kind, option.required)) =
        [(⟨.sequence, .flag⟩, false), (⟨.single, .flag⟩, true), (⟨.single, .flag⟩, true),
         (⟨.single, .flag⟩, false)] :=
  ⟨Sample.ofDeclaration_spellings, Sample.knowsTruth_spellings, by decide⟩

end Interface

end CommandLine
