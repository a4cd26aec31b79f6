import CommandLine.Proofs.Rendering
import CommandLine.Sample.Archive

/-!
# Naming

Tags are checked where a program is declared, and arguments are read without any model. Both agree:
every tag that passes is read as it is written, whatever follows it, and is found at its own option.
The tags that a list of fields asks for can be told from the attributes and the names, and the
fields are refused exactly if two of them ask for the same tag.
-/

namespace CommandLine

/-! ### Tags that are asked for -/

namespace FieldSettings

/-- The long tag of an option: the given one or, unless there is to be none, the name of the field
in kebab case. -/
def longTag? (settings : FieldSettings) (name : String) : Option String :=
  if settings.isOption && !settings.noLong then
    some ((settings.long.bind id).getD (Text.kebabCase name))
  else none

/-- The short tag of an option: the given letter, or the first one of the field's name. -/
def shortTag? (settings : FieldSettings) (name : String) : Option Char :=
  settings.short.bind fun letter => letter.or name.toList.head?

lemma shortTag?_of_not_isOption {settings : FieldSettings} (h : settings.isOption = false)
    (name : String) : settings.shortTag? name = none := by
  have hshort : settings.short = none := by
    simp only [isOption, Bool.or_eq_false_iff] at h
    simpa using h.1.2
  rw [shortTag?, hshort, Option.bind_none]

end FieldSettings

namespace FieldDeclaration

/-- What the attributes say, if they can be read. -/
def settings? (declaration : FieldDeclaration) : Option FieldSettings :=
  (FieldSettings.reader.readAll .empty (declaration.attributes.map Attribute.entry)).toOption

def longTag? (declaration : FieldDeclaration) : Option String :=
  declaration.settings?.bind fun settings => settings.longTag? (unmarked declaration.name)

def shortTag? (declaration : FieldDeclaration) : Option Char :=
  declaration.settings?.bind fun settings => settings.shortTag? (unmarked declaration.name)

end FieldDeclaration

namespace Field

variable {settings : FieldSettings} {name : String}

lemma eq_of_longTag {found : Option String} (h : longTag settings name = .ok found)
    (hoption : settings.isOption = true) : found = settings.longTag? name := by
  rw [longTag] at h
  cases hnoLong : settings.noLong with
  | true =>
    simp only [hnoLong, if_true] at h
    split_ifs at h
    simp [FieldSettings.longTag?, hnoLong, ← Except.ok.inj h]
  | false =>
    simp only [hnoLong, Bool.false_eq_true, if_false] at h
    obtain ⟨tag, hcheck, rfl⟩ := Except.map_eq_ok_iff.mp h
    simp [FieldSettings.longTag?, hoption, hnoLong, eq_of_checkLong hcheck]

lemma eq_of_shortTag {found : Option Char} (h : shortTag settings name = .ok found) :
    found = settings.shortTag? name := by
  rw [shortTag] at h
  cases hshort : settings.short with
  | none => simp [FieldSettings.shortTag?, hshort, ← Except.ok.inj (hshort ▸ h)]
  | some given =>
    cases given with
    | some letter =>
      simp only [hshort] at h
      obtain ⟨tag, hcheck, rfl⟩ := Except.map_eq_ok_iff.mp h
      simp [FieldSettings.shortTag?, hshort, eq_of_checkShort hcheck]
    | none =>
      simp only [hshort] at h
      cases hchars : name.toList with
      | nil => simp [hchars] at h
      | cons letter rest =>
        simp only [hchars] at h
        obtain ⟨tag, hcheck, rfl⟩ := Except.map_eq_ok_iff.mp h
        simp [FieldSettings.shortTag?, hshort, hchars, eq_of_checkShort hcheck]

/-- The tags of an option are the checked long one and the checked short one. -/
lemma longTag_and_shortTag_of_tags {found : Tags} (h : tags settings name = .ok found) :
    longTag settings name = .ok found.long? ∧ shortTag settings name = .ok found.short? := by
  rw [tags] at h
  obtain ⟨long, hlong, h⟩ := Except.bind_eq_ok_iff.mp h
  obtain ⟨short, hshort, h⟩ := Except.bind_eq_ok_iff.mp h
  cases long <;> cases short <;> cases h <;> exact ⟨hlong, hshort⟩

/-- A checked field has the tags that its declaration asks for. -/
lemma tags_of_ofDeclaration {declaration : FieldDeclaration} {field : Field}
    (h : ofDeclaration declaration = .ok field) :
    field.option?.bind (·.tags.long?) = declaration.longTag? ∧
      field.option?.bind (·.tags.short?) = declaration.shortTag? := by
  obtain ⟨settings, shape, docs, hsettings, -, hrole⟩ := exists_of_ofDeclaration h
  have hread : declaration.settings? = some settings := by
    rw [FieldDeclaration.settings?, hsettings]
    rfl
  rw [FieldDeclaration.longTag?, FieldDeclaration.shortTag?, hread, Option.bind_some,
    Option.bind_some]
  -- A field that is no option asks for no tags.
  have hnone (hoption : settings.isOption = false) :
      none = settings.longTag? (unmarked declaration.name) ∧
        none = settings.shortTag? (unmarked declaration.name) :=
    ⟨by simp [FieldSettings.longTag?, hoption],
      (FieldSettings.shortTag?_of_not_isOption hoption _).symm⟩
  cases hrole with
  | remaining _ hcollector =>
    obtain ⟨_, hrefuse, -⟩ := Except.bind_eq_ok_iff.mp hcollector
    exact hnone (refuse_eq_ok_iff.mp hrefuse)
  | option hoption hfield =>
    simp only [asOption, Except.bind_eq_ok_iff] at hfield
    obtain ⟨_, _, _, _, _, _, _, _, found, htags, hfound⟩ := hfield
    obtain ⟨hlong, hshort⟩ := longTag_and_shortTag_of_tags htags
    obtain rfl := Except.ok.inj hfound
    exact ⟨eq_of_longTag hlong hoption, eq_of_shortTag hshort⟩
  | parameter hoption => exact hnone hoption

end Field

/-! ### Collisions -/

/-- The keys of a list are not all different exactly if two of its members have the same one. -/
lemma not_nodup_filterMap_iff {α β : Type} {key : α → Option β} {list : List α} :
    ¬ (list.filterMap key).Nodup ↔
      ∃ (i j : Nat) (first second : α), i < j ∧ list[i]? = some first ∧
        list[j]? = some second ∧ ∃ tag, key first = some tag ∧ key second = some tag := by
  rw [List.Nodup, List.pairwise_filterMap, List.pairwise_iff_getElem]
  constructor
  · intro h
    push Not at h
    obtain ⟨i, j, hi, hj, hlt, tag, hfirst, _, hsecond, rfl⟩ := h
    exact ⟨i, j, _, _, hlt, List.getElem?_eq_getElem hi, List.getElem?_eq_getElem hj, tag, hfirst,
      hsecond⟩
  · rintro ⟨i, j, first, second, hlt, hi, hj, tag, hfirst, hsecond⟩ hdistinct
    obtain ⟨hfirstPlace, rfl⟩ := List.getElem?_eq_some_iff.mp hi
    obtain ⟨hsecondPlace, rfl⟩ := List.getElem?_eq_some_iff.mp hj
    exact hdistinct i j hfirstPlace hsecondPlace hlt tag hfirst tag hsecond rfl

/-- The options of checked fields have the tags that the declarations ask for. -/
lemma filterMap_option?_of_mapM {β : Type} {declarations : List FieldDeclaration}
    {fields : List Field} (hfields : declarations.mapM Field.ofDeclaration = .ok fields)
    {tag : OptionField → Option β} {asked : FieldDeclaration → Option β}
    (h : ∀ declaration field, Field.ofDeclaration declaration = .ok field →
      field.option?.bind tag = asked declaration) :
    (fields.filterMap Field.option?).filterMap tag = declarations.filterMap asked := by
  rw [List.filterMap_filterMap]
  have hrel := mapM_eq_ok_iff.mp hfields
  induction hrel with
  | nil => rfl
  | cons hfirst hrest ih =>
    rw [List.filterMap_cons, List.filterMap_cons, h _ _ hfirst,
      ih (mapM_eq_ok_iff.mpr hrest)]

/-- Two fields ask for the same long tag or for the same short tag. -/
def FieldDeclaration.Collides (first second : FieldDeclaration) : Prop :=
  (∃ tag, first.longTag? = some tag ∧ second.longTag? = some tag) ∨
    ∃ letter, first.shortTag? = some letter ∧ second.shortTag? = some letter

/-- Checked fields are refused for their tags exactly if two of them collide. -/
lemma checkTags_eq_error_iff {declarations : List FieldDeclaration} {fields : List Field}
    (hfields : declarations.mapM Field.ofDeclaration = .ok fields) :
    (∃ fault, Interface.checkTags [] [] (fields.filterMap Field.option?) = .error fault) ↔
      ∃ (i j : Nat) (first second : FieldDeclaration), i < j ∧ declarations[i]? = some first ∧
        declarations[j]? = some second ∧ first.Collides second := by
  have hrefused : (∃ fault,
      Interface.checkTags [] [] (fields.filterMap Field.option?) = .error fault) ↔
      ¬ Interface.checkTags [] [] (fields.filterMap Field.option?) = .ok () := by
    cases Interface.checkTags [] [] (fields.filterMap Field.option?) <;> simp
  rw [hrefused, Interface.checkTags_eq_ok_iff]
  simp only [Interface.AllNew, List.not_mem_nil, not_false_eq_true, implies_true, and_true]
  rw [filterMap_option?_of_mapM hfields fun _ _ h => (Field.tags_of_ofDeclaration h).1,
    filterMap_option?_of_mapM hfields fun _ _ h => (Field.tags_of_ofDeclaration h).2,
    Classical.not_and_iff_not_or_not, not_nodup_filterMap_iff, not_nodup_filterMap_iff]
  simp only [FieldDeclaration.Collides, and_or_left, exists_or]

/-! ### Tags as arguments -/

/-- A long tag is read as it is written, with and without a text, and found at its place. -/
structure Model.ReadsLong (model : Model) (place : Nat) (tag : String) : Prop where
  bare : classify ("--" ++ tag) = .long tag none
  valued : ∀ text, classify ("--" ++ tag ++ "=" ++ text) = .long tag (some text)
  place : model.findLong tag = some place
  name : (model.mentionLong? tag).map (·.name) = some (.long tag)

/-- A short tag begins a cluster, whatever follows it, and is found at its place. -/
structure Model.ReadsShort (model : Model) (place : Nat) (letter : Char) : Prop where
  cluster : ∀ text, ∃ cluster,
    classify ("-" ++ String.singleton letter ++ text) = .short cluster ∧
      cluster.options.head? = some (letter, text)
  place : model.findShort letter = some place

section Reading

variable {α : Type} {interface : Interface} {environment : Environment α} {place : Nat}
  {field : OptionField}

lemma Interface.readsLong_of_field (hsound : interface.Sound)
    (hfield : interface.options[place]? = some field) {tag : String}
    (htag : field.tags.long? = some tag) :
    (interface.model environment).ReadsLong place tag := by
  obtain ⟨hnonempty, hequals⟩ := Field.spelling_of_checkLong
    ((hsound.options field (List.mem_of_getElem? hfield)).2.long tag htag)
  refine ⟨classify_head_long hnonempty hequals none,
    fun text => classify_head_long hnonempty hequals (some text),
    findLong_of_field hsound hfield htag, ?_⟩
  rw [mentionLong?_of_field hsound hfield htag, Option.map_some]

lemma Interface.readsShort_of_field (hsound : interface.Sound)
    (hfield : interface.options[place]? = some field) {letter : Char}
    (htag : field.tags.short? = some letter) :
    (interface.model environment).ReadsShort place letter := by
  obtain ⟨hhyphen, hletter⟩ := Field.spelling_of_checkShort
    ((hsound.options field (List.mem_of_getElem? hfield)).2.short letter htag)
  refine ⟨fun text => ?_, findShort_of_field hsound hfield htag⟩
  obtain ⟨cluster, hclassify, hoptions⟩ := classify_head_short hhyphen hletter (some text)
  exact ⟨cluster, hclassify, by rw [hoptions]; rfl⟩

end Reading

namespace Interface

/-- Every option of an accepted declaration has a tag, and each of its tags is read as it is written
and found at that option. Fields that pass on their own are refused for their tags exactly if two of
them ask for the same one, be it given or taken from the field's name. -/
theorem tags_read_and_distinct :
    (∀ (declaration : Declaration) (interface : Interface) (α : Type)
      (environment : Environment α) (place : Nat) (option : OptionSpec),
      ofDeclaration declaration = .ok interface →
      (interface.model environment).options[place]? = some option →
      (option.tags.long?.isSome = true ∨ option.tags.short?.isSome = true) ∧
      (∀ tag ∈ option.tags.long?, (interface.model environment).ReadsLong place tag) ∧
      ∀ letter ∈ option.tags.short?, (interface.model environment).ReadsShort place letter) ∧
    ∀ (declarations : List FieldDeclaration) (fields : List Field),
      declarations.mapM Field.ofDeclaration = .ok fields →
      ((∃ fault, checkTags [] [] (fields.filterMap Field.option?) = .error fault) ↔
        ∃ (i j : Nat) (first second : FieldDeclaration), i < j ∧
          declarations[i]? = some first ∧ declarations[j]? = some second ∧
          first.Collides second) := by
  refine ⟨?_, fun declarations fields => checkTags_eq_error_iff⟩
  intro declaration interface α environment place option accepted hoption
  have hsound := sound_of_ofDeclaration accepted
  obtain ⟨field, hfield, rfl⟩ := option_eq_some_iff.mp hoption
  exact ⟨field.tags.long?_isSome_or_short?_isSome,
    fun tag => readsLong_of_field hsound hfield, fun letter => readsShort_of_field hsound hfield⟩

/-- A tag that is given can collide with one that comes from a name. -/
theorem tags_read_and_distinct_archive :
    ofDeclaration Sample.archive = .ok Sample.archiveInterface ∧
      Sample.archiveProgram.model.options[2]?.map (·.tags) = some (.both "level" 'l') ∧
      Sample.archiveProgram.model.ReadsLong 2 "level" ∧
      Sample.archiveProgram.model.ReadsShort 2 'l' ∧
      [Sample.dryRun, Sample.dryRunMode].mapM Field.ofDeclaration =
        .ok [.option Sample.dryRunOption, .option Sample.dryRunModeOption] ∧
      Sample.dryRun.Collides Sample.dryRunMode ∧
      ∃ fault, checkTags [] [] [Sample.dryRunOption, Sample.dryRunModeOption] = .error fault := by
  obtain ⟨hreads, hdistinct⟩ := tags_read_and_distinct
  obtain ⟨-, hlong, hshort⟩ := hreads Sample.archive Sample.archiveInterface Scalar
    Sample.archiveEnvironment 2 _ Sample.ofDeclaration_archive rfl
  have hfields : [Sample.dryRun, Sample.dryRunMode].mapM Field.ofDeclaration =
      .ok [.option Sample.dryRunOption, .option Sample.dryRunModeOption] :=
    mapM_eq_ok_iff.mpr
      (.cons Sample.ofDeclaration_dryRun (.cons Sample.ofDeclaration_dryRunMode .nil))
  have hcollides : Sample.dryRun.Collides Sample.dryRunMode := .inl ⟨"dry-run", by rfl, by rfl⟩
  exact ⟨Sample.ofDeclaration_archive, rfl, hlong "level" rfl, hshort 'l' rfl, hfields, hcollides,
    (hdistinct _ _ hfields).mpr ⟨0, 1, _, _, by decide, rfl, rfl, hcollides⟩⟩

end Interface

end CommandLine
