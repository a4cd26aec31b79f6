import CommandLine.Proofs.Traversal
import CommandLine.Sample.ValueTypes
import Mathlib.Data.List.Basic
import Mathlib.Logic.Function.Iterate

/-!
# Value types, by their names

The members of a declared enumeration and their names determine each other: the declaration is
accepted exactly if the names are different and none is empty, and then every name is read as its
member and nothing else is read. A structure with one field is another type only by its name: it
reads what its field reads, however many structures are inside of each other.
-/

namespace CommandLine

/-! ### Names of members -/

/-- The name that the attributes of a member give it, or else its identifier in kebab case. There
is none if the attributes cannot be read. -/
def VariantDeclaration.IsNamed (variant : VariantDeclaration) (name : String) : Prop :=
  ∃ declared,
    ValueType.reader.readAll none (variant.attributes.map Attribute.entry) = .ok declared ∧
    name = declared.getD (Text.kebabCase (unmarked variant.name))

/-- Without attributes the identifier counts. -/
lemma VariantDeclaration.isNamed_kebabCase (identifier : String) :
    (⟨identifier, true, []⟩ : VariantDeclaration).IsNamed
      (Text.kebabCase (unmarked identifier)) :=
  ⟨none, rfl, rfl⟩

/-- A name that is written down counts. -/
lemma VariantDeclaration.isNamed_text (identifier name : String) :
    (⟨identifier, true, [.ofText "name" name]⟩ : VariantDeclaration).IsNamed name :=
  ⟨some name, rfl, rfl⟩

namespace ValueType

lemma variantName_eq_ok_iff {variant : VariantDeclaration} {name found : String}
    (hname : variant.IsNamed name) :
    variantName variant = .ok found ↔ variant.bare = true ∧ name ≠ "" ∧ found = name := by
  obtain ⟨declared, hread, rfl⟩ := hname
  rw [variantName]
  simp only [hread]
  cases variant.bare with
  | false => simp [bind, Except.bind]
  | true =>
    by_cases hempty : declared.getD (Text.kebabCase (unmarked variant.name)) = ""
    · simp [bind, Except.bind, Except.mapError, hempty]
    · simp [bind, Except.bind, Except.mapError, hempty, pure, Except.pure, eq_comm]

/-- All members get their names exactly if none has fields and no name is empty. -/
lemma mapM_variantName_eq_ok_iff {variants : List VariantDeclaration} {names found : List String}
    (hnames : List.Forall₂ VariantDeclaration.IsNamed variants names) :
    variants.mapM variantName = .ok found ↔
      (∀ variant ∈ variants, variant.bare = true) ∧ (∀ name ∈ names, name ≠ "") ∧
        found = names := by
  rw [mapM_eq_ok_iff]
  induction hnames generalizing found with
  | nil => simp
  | @cons variant name variants names hname _ ih =>
    cases found with
    | nil => simp
    | cons first found =>
      rw [List.forall₂_cons, variantName_eq_ok_iff hname, ih]
      simp only [List.forall_mem_cons, List.cons.injEq]
      tauto

/-- The conditions on the members of an enumeration. -/
lemma ofVariants_eq_ok_iff {variants : List VariantDeclaration} {names : List String}
    (hnames : List.Forall₂ VariantDeclaration.IsNamed variants names) {type : ValueType} :
    ofVariants variants = .ok type ↔
      variants ≠ [] ∧ (∀ variant ∈ variants, variant.bare = true) ∧ (∀ name ∈ names, name ≠ "") ∧
        names.Nodup ∧ type = .enumeration names := by
  have hrepeated (found : List String) : firstRepeated? [] found = none ↔ found.Nodup := by
    simp [firstRepeated?_eq_none_iff]
  rw [ofVariants]
  by_cases hne : variants = []
  · simp [hne, bind, Except.bind]
  · simp only [if_neg hne]
    rw [Except.bind_eq_ok_iff]
    simp only [mapM_variantName_eq_ok_iff hnames]
    constructor
    · rintro ⟨found, ⟨hbare, hempty, rfl⟩, htype⟩
      split at htype
      · exact absurd htype (by simp)
      · next hnone =>
        exact ⟨hne, hbare, hempty, (hrepeated _).mp hnone, (Except.ok.inj htype).symm⟩
    · rintro ⟨-, hbare, hempty, hnodup, rfl⟩
      refine ⟨names, ⟨hbare, hempty, rfl⟩, ?_⟩
      rw [(hrepeated names).mpr hnodup]
      rfl

/-- Without generic parameters a declaration is accepted for its form and its members or fields. -/
lemma ofDeclaration_enumeration {declaration : ValueDeclaration}
    (hform : declaration.form = .enumeration) (hgenerics : declaration.generics = []) :
    ofDeclaration declaration = ofVariants declaration.variants := by
  rw [ofDeclaration, hgenerics, hform]
  rfl

end ValueType

/-! ### Reading members -/

namespace Decoder

variable {names : List String}

lemma placeOf?_eq_none {text : String} (h : text ∉ names) : placeOf? text names = none := by
  induction names with
  | nil => rfl
  | cons first others ih =>
    rw [List.mem_cons, not_or] at h
    rw [placeOf?, if_neg (Ne.symm h.1), ih h.2]
    rfl

/-- Of different names every one is found at its own place. -/
lemma placeOf?_of_nodup (hnodup : names.Nodup) {place : Nat} {name : String}
    (h : names[place]? = some name) : placeOf? name names = some place := by
  induction names generalizing place with
  | nil => simp at h
  | cons first others ih =>
    obtain ⟨hfirst, hothers⟩ := List.nodup_cons.mp hnodup
    cases place with
    | zero =>
      obtain rfl : first = name := by simpa using h
      rw [placeOf?, if_pos rfl]
    | succ place =>
      have hplace : others[place]? = some name := by simpa using h
      have hne : first ≠ name := by
        rintro rfl
        exact hfirst (List.mem_of_getElem? hplace)
      rw [placeOf?, if_neg hne, ih hothers hplace]
      rfl

/-- Of different names every one is read as the member at its place. -/
lemma decode_enumeration {members : List (String × String)}
    (hnodup : (members.map (·.1)).Nodup) {place : Nat} {name identifier : String}
    (h : members[place]? = some (name, identifier)) :
    (enumeration members).decode name = .ok (.variant place identifier) := by
  have hname : (members.map (·.1))[place]? = some name := by simp [h]
  simp [enumeration, placeOf?_of_nodup hnodup hname, h]

lemma decode_enumeration_of_not_mem {members : List (String × String)} {text : String}
    (h : text ∉ members.map (·.1)) :
    (enumeration members).decode text = .error (.shouldBe text (members.map (·.1))) := by
  simp only [enumeration, placeOf?_eq_none h]

/-! ### Wrapped values -/

/-- The same texts are read, and the others are rejected for the same reason. -/
@[simp] lemma decode_map {α β : Type} (f : α → β) (decoder : Decoder α) (text : String) :
    (decoder.map f).decode text = (decoder.decode text).map f := by
  unfold map
  cases h : decoder.decode text <;> simp [h, Except.map]

end Decoder

/-! ### Derived decoders -/

variable {decoders : TypeExpr → Decoder TypedValue}

namespace ValueDeclaration

variable {declaration : ValueDeclaration} {names : List String}

/-- The decoder of an enumeration is derived from its names and identifiers. -/
lemma derive_enumeration_eq_ok_iff (hform : declaration.form = .enumeration)
    (hgenerics : declaration.generics = [])
    (hnames : List.Forall₂ VariantDeclaration.IsNamed declaration.variants names)
    {decoder : Decoder TypedValue} :
    declaration.derive decoders = .ok decoder ↔
      declaration.variants ≠ [] ∧ (∀ variant ∈ declaration.variants, variant.bare = true) ∧
        (∀ name ∈ names, name ≠ "") ∧ names.Nodup ∧
        decoder = (Decoder.enumeration (names.zip declaration.identifiers)).map .scalar := by
  rw [derive, Except.map_eq_ok_iff, ValueType.ofDeclaration_enumeration hform hgenerics]
  simp only [ValueType.ofVariants_eq_ok_iff hnames]
  constructor
  · rintro ⟨_, ⟨hne, hbare, hempty, hnodup, rfl⟩, rfl⟩
    exact ⟨hne, hbare, hempty, hnodup, rfl⟩
  · rintro ⟨hne, hbare, hempty, hnodup, rfl⟩
    exact ⟨_, ⟨hne, hbare, hempty, hnodup, rfl⟩, rfl⟩

lemma map_fst_members
    (hnames : List.Forall₂ VariantDeclaration.IsNamed declaration.variants names) :
    (names.zip declaration.identifiers).map (·.1) = names := by
  have hlength := hnames.length_eq
  exact List.map_fst_zip (by simp [identifiers, hlength])

/-- A structure with one field is accepted, and its values wrap those of the field. -/
lemma derive_newtype (hgenerics : declaration.generics = [])
    (hform : declaration.form = .named ∨ declaration.form = .tuple) {inner : TypeExpr}
    (hfields : declaration.fields = [inner]) :
    declaration.derive decoders = .ok ((decoders inner).map .wrapped) := by
  rw [derive, ValueType.ofDeclaration, hgenerics, hfields]
  rcases hform with h | h
  · rw [h]
    rfl
  · rw [h]
    rfl

end ValueDeclaration

/-! ### Structures inside of structures -/

/-- The types of structures are known by their paths: the outer type is a number of structures,
with one field each, around the inner type. -/
inductive TypeExpr.IsAround (declared : String → Option ValueDeclaration) :
    Nat → TypeExpr → TypeExpr → Prop
  | refl (type : TypeExpr) : IsAround declared 0 type type
  | newtype {depth : Nat} {text name : String} {field inner : TypeExpr}
      {declaration : ValueDeclaration} (hdeclared : declared text = some declaration)
      (hgenerics : declaration.generics = [])
      (hform : declaration.form = .named ∨ declaration.form = .tuple)
      (hfields : declaration.fields = [field]) (hinner : IsAround declared depth field inner) :
      IsAround declared (depth + 1) (.path text name) inner
  | paren {depth : Nat} {outer inner : TypeExpr} (h : IsAround declared depth outer inner) :
      IsAround declared depth (.paren outer) inner
  | group {depth : Nat} {outer inner : TypeExpr} (h : IsAround declared depth outer inner) :
      IsAround declared depth (.group outer) inner

/-- Declared types have the decoders that are derived for them, and brackets make no difference. -/
structure DecodesDeclared (declared : String → Option ValueDeclaration)
    (decoders : TypeExpr → Decoder TypedValue) : Prop where
  derived : ∀ text name declaration, declared text = some declaration →
    declaration.derive decoders = .ok (decoders (.path text name))
  paren : ∀ inner, decoders (.paren inner) = decoders inner
  group : ∀ inner, decoders (.group inner) = decoders inner

/-- Every structure adds one layer to the values and changes nothing else. -/
lemma DecodesDeclared.decode_of_isAround {declared : String → Option ValueDeclaration}
    (h : DecodesDeclared declared decoders) {depth : Nat} {outer inner : TypeExpr}
    (haround : outer.IsAround declared depth inner) :
    (decoders outer).kind = (decoders inner).kind ∧
      ∀ text, (decoders outer).decode text =
        ((decoders inner).decode text).map (TypedValue.wrapped^[depth]) := by
  induction haround with
  | refl type =>
    refine ⟨rfl, fun text => ?_⟩
    cases (decoders type).decode text <;> rfl
  | @newtype depth text name field inner declaration hdeclared hgenerics hform hfields _ ih =>
    obtain ⟨hkind, hdecode⟩ := ih
    have hderived := h.derived text name declaration hdeclared
    rw [ValueDeclaration.derive_newtype hgenerics hform hfields] at hderived
    rw [← Except.ok.inj hderived]
    refine ⟨hkind, fun argument => ?_⟩
    rw [Decoder.decode_map, hdecode, Except.map_map, Function.iterate_succ']
  | paren _ ih =>
    rw [h.paren]
    exact ih
  | group _ ih =>
    rw [h.group]
    exact ih

/-- The declaration of an enumeration is accepted exactly if it has members, none of them with
fields, whose names are not empty and all different. Then the kind lists the names in the order of
the declaration, the name at a place is read as the member at this place, and every other text is
rejected with these names. A structure with one field has the kind of its field and reads the same
texts, the others being rejected for the same reasons, and so does any number of structures inside
of each other. -/
theorem derived_by_names (decoders : TypeExpr → Decoder TypedValue) :
    (∀ (declaration : ValueDeclaration) (names : List String),
      declaration.form = .enumeration → declaration.generics = [] →
      List.Forall₂ VariantDeclaration.IsNamed declaration.variants names →
      ((∃ decoder, declaration.derive decoders = .ok decoder) ↔
        declaration.variants ≠ [] ∧ (∀ variant ∈ declaration.variants, variant.bare = true) ∧
          (∀ name ∈ names, name ≠ "") ∧ names.Nodup) ∧
      ∀ decoder, declaration.derive decoders = .ok decoder →
        decoder.kind = .enumeration names ∧
        (∀ place variant name, declaration.variants[place]? = some variant →
          names[place]? = some name →
          decoder.decode name = .ok (.scalar (.variant place (unmarked variant.name)))) ∧
        ∀ text, text ∉ names → decoder.decode text = .error (.shouldBe text names)) ∧
    (∀ (declaration : ValueDeclaration) (inner : TypeExpr), declaration.generics = [] →
      declaration.form = .named ∨ declaration.form = .tuple → declaration.fields = [inner] →
      ∃ decoder, declaration.derive decoders = .ok decoder ∧
        decoder.kind = (decoders inner).kind ∧
        ∀ text, decoder.decode text = ((decoders inner).decode text).map .wrapped) ∧
    ∀ declared, DecodesDeclared declared decoders → ∀ (depth : Nat) (outer inner : TypeExpr),
      outer.IsAround declared depth inner →
      (decoders outer).kind = (decoders inner).kind ∧
        ∀ text, (decoders outer).decode text =
          ((decoders inner).decode text).map (TypedValue.wrapped^[depth]) := by
  refine ⟨fun declaration names hform hgenerics hnames => ?_, ?_, ?_⟩
  · have hderive (decoder : Decoder TypedValue) : declaration.derive decoders = .ok decoder ↔ _ :=
      ValueDeclaration.derive_enumeration_eq_ok_iff hform hgenerics hnames
    have hmembers := ValueDeclaration.map_fst_members hnames
    constructor
    · constructor
      · rintro ⟨decoder, h⟩
        obtain ⟨hne, hbare, hempty, hnodup, -⟩ := (hderive decoder).mp h
        exact ⟨hne, hbare, hempty, hnodup⟩
      · rintro ⟨hne, hbare, hempty, hnodup⟩
        exact ⟨_, (hderive _).mpr ⟨hne, hbare, hempty, hnodup, rfl⟩⟩
    · intro decoder h
      obtain ⟨-, -, -, hnodup, rfl⟩ := (hderive decoder).mp h
      refine ⟨congrArg ScalarKind.enumeration hmembers, ?_, ?_⟩
      · intro place variant name hvariant hname
        have hmember : (names.zip declaration.identifiers)[place]? =
            some (name, unmarked variant.name) := by
          simp [List.getElem?_zip_eq_some, ValueDeclaration.identifiers, hname, hvariant]
        rw [Decoder.decode_map, Decoder.decode_enumeration (by rwa [hmembers]) hmember]
        rfl
      · intro text htext
        rw [Decoder.decode_map, Decoder.decode_enumeration_of_not_mem (by rwa [hmembers]), hmembers]
        rfl
  · intro declaration inner hgenerics hform hfields
    exact ⟨_, ValueDeclaration.derive_newtype hgenerics hform hfields, rfl,
      Decoder.decode_map _ _⟩
  · intro declared hdeclared depth outer inner haround
    exact hdeclared.decode_of_isAround haround

lemma Sample.decodesDeclared : DecodesDeclared declaredTypes typedDecoder where
  derived := by
    intro text name declaration h
    unfold declaredTypes at h
    split at h
    case h_5 => simp at h
    all_goals
      obtain rfl := Option.some.inj h
      rfl
  paren _ := rfl
  group _ := rfl

/-- A member with a name of its own is read by this name only, and a structure around a structure
around a number is read as this number. -/
theorem derived_by_names_sample :
    let names := ["debug", "info", "warn", "error"]
    let declaration := Sample.levelDeclaration
    declaration.form = .enumeration ∧ declaration.generics = [] ∧
      List.Forall₂ VariantDeclaration.IsNamed declaration.variants names ∧
      (∃ decoder, declaration.derive Sample.typedDecoder = .ok decoder ∧
        decoder.kind = .enumeration names ∧
        decoder.decode "warn" = .ok (.scalar (.variant 2 "Warning")) ∧
        decoder.decode "Warning" = .error (.shouldBe "Warning" names)) ∧
      DecodesDeclared Sample.declaredTypes Sample.typedDecoder ∧
      (TypeExpr.path "Named" "Named").IsAround Sample.declaredTypes 2 (.path "u16" "u16") ∧
      (Sample.typedDecoder (.path "Named" "Named")).kind = .integer 16 false ∧
      (Sample.typedDecoder (.path "Named" "Named")).decode "80" =
        .ok (.wrapped (.wrapped (.scalar (.integer 80)))) := by
  intro names declaration
  obtain ⟨henumeration, -, haround⟩ := derived_by_names Sample.typedDecoder
  have hnames : List.Forall₂ VariantDeclaration.IsNamed declaration.variants names :=
    .cons (VariantDeclaration.isNamed_kebabCase "Debug") <|
      .cons (VariantDeclaration.isNamed_kebabCase "Info") <|
      .cons (VariantDeclaration.isNamed_text "Warning" "warn") <|
      .cons (VariantDeclaration.isNamed_kebabCase "Error") .nil
  have hnamed : Sample.declaredTypes "Named" = some Sample.namedDeclaration := rfl
  have hport : Sample.declaredTypes "Port" = some Sample.portDeclaration := rfl
  have hnested : (TypeExpr.path "Named" "Named").IsAround Sample.declaredTypes 2
      (.path "u16" "u16") :=
    .newtype hnamed rfl (.inl rfl) rfl (.newtype hport rfl (.inr rfl) rfl (.refl _))
  obtain ⟨hderive, hdecode⟩ := henumeration declaration names rfl rfl hnames
  obtain ⟨decoder, hdecoder⟩ := hderive.mpr ⟨by decide, by decide, by decide, by decide⟩
  obtain ⟨hkind, hmember, hother⟩ := hdecode decoder hdecoder
  obtain ⟨hinner, hread⟩ := haround _ Sample.decodesDeclared _ _ _ hnested
  refine ⟨rfl, rfl, hnames, ⟨decoder, hdecoder, hkind, ?_, ?_⟩, Sample.decodesDeclared, hnested,
    hinner, ?_⟩
  · exact hmember 2 _ "warn" rfl rfl
  · exact hother "Warning" (by decide)
  · rw [hread]
    rfl

end CommandLine
