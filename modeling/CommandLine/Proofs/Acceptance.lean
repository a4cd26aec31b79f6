import CommandLine.Proofs.Record
import Mathlib.Data.List.Nodup

/-!
# Accepted declarations

What acceptance of a declaration says about its interface, read off the checks one by one: every tag
and every alias of a command passes its check and is used once, required parameters come first, the
collector is a sequence, and a field whose absence nothing stands for is a flag.
-/

namespace CommandLine

structure Tags.Sound (tags : Tags) : Prop where
  long : ∀ tag ∈ tags.long?, Field.checkLong tag = .ok tag
  short : ∀ letter ∈ tags.short?, Field.checkShort letter = .ok letter

/-- A single value that may be absent and has no default is a flag. -/
def FieldBase.Sound (base : FieldBase) : Prop :=
  base.default = .none → base.required = false → base.shape.wrapper = .single →
    base.shape.isFlag = true

def CommandDeclaration.Sound (command : CommandDeclaration) : Prop :=
  ∀ text ∈ command.aliases, checkAlias text = .ok ()

/-- The interface is what an accepted declaration can stand for. -/
structure Interface.Sound (interface : Interface) : Prop where
  commands : ∀ command ∈ interface.settings.table, command.Sound
  options : ∀ field ∈ interface.options, field.base.Sound ∧ field.tags.Sound
  parameters : ∀ field ∈ interface.parameters, field.base.Sound
  remaining : ∀ field ∈ interface.remaining, field.base.shape.wrapper = .sequence
  longs : (interface.options.filterMap (·.tags.long?)).Nodup
  shorts : (interface.options.filterMap (·.tags.short?)).Nodup
  /-- Required parameters come first. -/
  requiredFirst : interface.parameters.Pairwise fun first second =>
    second.base.required = true → first.base.required = true

lemma Interface.Sound.base {interface : Interface} (h : interface.Sound) {slot : Slot}
    {base : FieldBase} (hbase : interface.base? slot = some base) (hslot : slot ≠ .remaining) :
    base.Sound := by
  cases slot with
  | remaining => exact absurd rfl hslot
  | option place =>
    obtain ⟨field, hfield, rfl⟩ := Option.map_eq_some_iff.mp hbase
    exact (h.options field (List.mem_of_getElem? hfield)).1
  | parameter place =>
    obtain ⟨field, hfield, rfl⟩ := Option.map_eq_some_iff.mp hbase
    exact h.parameters field (List.mem_of_getElem? hfield)

/-! ### Commands -/

namespace CommandDeclaration

/-- An alias has a name behind its hyphens. -/
lemma ne_terminator_of_checkAlias {text : String} (h : checkAlias text = .ok ()) : text ≠ "--" := by
  rintro rfl
  exact absurd h (by decide)

lemma sound_of_check {command : CommandDeclaration} (h : command.check = .ok ()) :
    command.Sound := by
  intro text htext
  rw [check] at h
  split_ifs at h
  · simp [bind, Except.bind] at h
  · exact Except.mapError_eq_ok_iff.mp (forM_eq_ok_iff.mp h text htext)

lemma sound_help : help.Sound := by
  intro text htext
  obtain rfl := List.mem_singleton.mp htext
  rfl

lemma sound_version : version.Sound := by
  intro text htext
  obtain rfl := List.mem_singleton.mp htext
  rfl

end CommandDeclaration

namespace ProgramSettings

/-- The declared commands are checked, and those without a declaration would pass. -/
lemma sound_of_check {settings : ProgramSettings} (h : settings.check = .ok ()) :
    ∀ command ∈ settings.table, command.Sound := by
  obtain ⟨_, hdeclared, -⟩ := Except.bind_eq_ok_iff.mp h
  intro command hcommand
  rw [table, builtIn, List.mem_append, List.mem_append] at hcommand
  rcases hcommand with (hhelp | hversion) | hdeclaration
  · split_ifs at hhelp
    · simp at hhelp
    · rw [List.mem_singleton.mp hhelp]
      exact CommandDeclaration.sound_help
  · split_ifs at hversion
    · simp at hversion
    · rw [List.mem_singleton.mp hversion]
      exact CommandDeclaration.sound_version
  · exact CommandDeclaration.sound_of_check (forM_eq_ok_iff.mp hdeclared command hdeclaration)

/-- The check looks for an alias that was there before. -/
lemma nodup_of_check {settings : ProgramSettings} (h : settings.check = .ok ()) :
    (settings.table.flatMap (·.aliases)).Nodup := by
  obtain ⟨_, -, h⟩ := Except.bind_eq_ok_iff.mp h
  cases hrepeated : firstRepeated? [] (settings.table.flatMap (·.aliases)) with
  | some name => simp [hrepeated] at h
  | none => exact (firstRepeated?_eq_none_iff.mp hrepeated).1

lemma check_of_ofAttributes {attributes : List Attribute} {settings : ProgramSettings}
    (h : ofAttributes attributes = .ok settings) : settings.check = .ok () := by
  obtain ⟨found, -, h⟩ := Except.bind_eq_ok_iff.mp h
  obtain ⟨_, hcheck, h⟩ := Except.bind_eq_ok_iff.mp h
  obtain rfl := Except.ok.inj h
  exact hcheck

lemma sound_of_ofAttributes {attributes : List Attribute} {settings : ProgramSettings}
    (h : ofAttributes attributes = .ok settings) : ∀ command ∈ settings.table, command.Sound :=
  sound_of_check (check_of_ofAttributes h)

end ProgramSettings

/-! ### Fields -/

namespace Field

variable {settings : FieldSettings} {base : FieldBase}

lemma refuse_eq_ok_iff {condition : Bool} {fault : FieldFault} {found : Unit} :
    refuse condition fault = .ok found ↔ condition = false := by
  cases condition <;> simp [refuse]

/-- A long tag is not empty and holds no equals sign. -/
lemma spelling_of_checkLong {tag found : String} (h : checkLong tag = .ok found) :
    tag ≠ "" ∧ '=' ∉ tag.toList := by
  rw [checkLong] at h
  split at h
  · simp at h
  · simp at h
  · simp at h
  · next c rest _ _ htag =>
    split_ifs at h with hletter hequals
    have hc : c ≠ '=' := by
      rintro rfl
      exact hletter (by decide)
    refine ⟨?_, by simpa [htag] using ⟨hc.symm, hequals⟩⟩
    rintro rfl
    simp at htag

/-- A short tag is a letter and no hyphen. -/
lemma spelling_of_checkShort {letter found : Char} (h : checkShort letter = .ok found) :
    letter ≠ '-' ∧ Text.isAlphabetic letter = true := by
  rw [checkShort] at h
  split_ifs at h with hhyphen hletter
  exact ⟨hhyphen, by simpa using hletter⟩

lemma eq_of_checkLong {tag found : String} (h : checkLong tag = .ok found) : found = tag := by
  rw [checkLong] at h
  split at h
  · simp at h
  · simp at h
  · simp at h
  · split_ifs at h
    exact (Except.ok.inj h).symm

lemma eq_of_checkShort {letter found : Char} (h : checkShort letter = .ok found) :
    found = letter := by
  rw [checkShort] at h
  split_ifs at h
  exact (Except.ok.inj h).symm

lemma checkLong_of_longTag {field tag : String} (h : longTag settings field = .ok (some tag)) :
    checkLong tag = .ok tag := by
  rw [longTag] at h
  split_ifs at h
  · simp at h
  · obtain ⟨found, hcheck, hfound⟩ := Except.map_eq_ok_iff.mp h
    obtain rfl := Option.some.inj hfound
    rwa [← eq_of_checkLong hcheck] at hcheck

lemma checkShort_of_shortTag {field : String} {letter : Char}
    (h : shortTag settings field = .ok (some letter)) : checkShort letter = .ok letter := by
  have hmap {candidate : Char} (hc : (checkShort candidate).map some = .ok (some letter)) :
      checkShort letter = .ok letter := by
    obtain ⟨found, hcheck, hfound⟩ := Except.map_eq_ok_iff.mp hc
    obtain rfl := Option.some.inj hfound
    rwa [← eq_of_checkShort hcheck] at hcheck
  rw [shortTag] at h
  split at h
  · simp at h
  · exact hmap h
  · split at h
    · exact hmap h
    · simp at h

lemma sound_of_tags {field : String} {found : Tags} (h : tags settings field = .ok found) :
    found.Sound := by
  rw [tags] at h
  obtain ⟨long, hlong, h⟩ := Except.bind_eq_ok_iff.mp h
  obtain ⟨short, hshort, h⟩ := Except.bind_eq_ok_iff.mp h
  cases long with
  | none =>
    cases short with
    | none => simp at h
    | some letter =>
      obtain rfl := Except.ok.inj h
      exact ⟨by simp [Tags.long?], by simpa [Tags.short?] using checkShort_of_shortTag hshort⟩
  | some tag =>
    cases short with
    | none =>
      obtain rfl := Except.ok.inj h
      exact ⟨by simpa [Tags.long?] using checkLong_of_longTag hlong, by simp [Tags.short?]⟩
    | some letter =>
      obtain rfl := Except.ok.inj h
      exact ⟨by simpa [Tags.long?] using checkLong_of_longTag hlong,
        by simpa [Tags.short?] using checkShort_of_shortTag hshort⟩

lemma sound_of_asOption {field : OptionField} (h : asOption settings base = .ok field) :
    field.base = base ∧ field.tags.Sound := by
  simp only [asOption, Except.bind_eq_ok_iff] at h
  obtain ⟨_, _, _, _, _, _, _, _, found, htags, hfield⟩ := h
  obtain rfl := Except.ok.inj hfield
  exact ⟨rfl, sound_of_tags htags⟩

lemma base_of_asParameter {field : ParameterField} (h : asParameter settings base = .ok field) :
    field.base = base := by
  simp only [asParameter, Except.bind_eq_ok_iff] at h
  obtain ⟨_, _, name, _, hfield⟩ := h
  rw [← Except.ok.inj hfield]

lemma sequence_of_asRemaining {field : RemainingField}
    (h : asRemaining settings base = .ok field) : field.base.shape.wrapper = .sequence := by
  simp only [asRemaining, Except.bind_eq_ok_iff, refuse_eq_ok_iff] at h
  obtain ⟨_, _, _, _, _, _, _, hsequence, name, _, hfield⟩ := h
  rw [← Except.ok.inj hfield]
  simpa using hsequence

def Sound : Field → Prop
  | .option field => field.base.Sound ∧ field.tags.Sound
  | .parameter field _ => field.base.Sound
  | .remaining field => field.base.shape.wrapper = .sequence

/-- The role that a field takes by its attributes. -/
inductive Role (settings : FieldSettings) (base : FieldBase) : Field → Prop
  | remaining {field : RemainingField} (hremaining : settings.remaining = true)
      (h : asRemaining settings base = .ok field) : Role settings base (.remaining field)
  | option {field : OptionField} (hoption : settings.isOption = true)
      (h : asOption settings base = .ok field) : Role settings base (.option field)
  | parameter {field : ParameterField} (hoption : settings.isOption = false)
      (h : asParameter settings base = .ok field) :
      Role settings base (.parameter field settings.index)

/-- What a field has of its declaration. -/
def baseOf (declaration : FieldDeclaration) (settings : FieldSettings) (shape : Shape)
    (docs : String) : FieldBase :=
  ⟨unmarked declaration.name, shape, isRequired settings shape, defaultOf settings, docs⟩

lemma sound_baseOf (declaration : FieldDeclaration) (settings : FieldSettings) (shape : Shape)
    (docs : String) : (baseOf declaration settings shape docs).Sound := by
  intro hdefault hrequired hsingle
  have hnone : settings.default = none := by
    cases hsettings : settings.default with
    | none => rfl
    | some expression => cases expression <;> simp [baseOf, defaultOf, hsettings] at hdefault
  simp only [baseOf] at hsingle
  simp only [baseOf, isRequired, hnone, hsingle, Bool.or_eq_false_iff] at hrequired
  simpa [baseOf] using hrequired.2

/-- The stages that a checked field passes. -/
lemma exists_of_ofDeclaration {declaration : FieldDeclaration} {field : Field}
    (h : ofDeclaration declaration = .ok field) :
    ∃ settings shape docs,
      FieldSettings.reader.readAll .empty (declaration.attributes.map Attribute.entry) =
        .ok settings ∧
      Shape.ofType? declaration.type = some shape ∧
      Role settings (baseOf declaration settings shape docs) field := by
  rw [ofDeclaration] at h
  obtain ⟨settings, hsettings, h⟩ := Except.bind_eq_ok_iff.mp h
  obtain ⟨docs, -, h⟩ := Except.bind_eq_ok_iff.mp h
  cases hshape : Shape.ofType? declaration.type with
  | none => simp [hshape, bind, Except.bind] at h
  | some shape =>
    refine ⟨settings, shape, docs, Except.mapError_eq_ok_iff.mp hsettings, rfl, ?_⟩
    simp only [hshape] at h
    obtain ⟨_, hok, h⟩ := Except.bind_eq_ok_iff.mp h
    obtain rfl := Except.ok.inj hok
    obtain ⟨_, -, h⟩ := Except.bind_eq_ok_iff.mp h
    split_ifs at h with hremaining hoption
    · obtain ⟨collector, hcollector, h⟩ := Except.bind_eq_ok_iff.mp h
      obtain rfl := Except.ok.inj h
      exact .remaining hremaining hcollector
    · obtain ⟨option, hfield, h⟩ := Except.bind_eq_ok_iff.mp h
      obtain rfl := Except.ok.inj h
      exact .option hoption hfield
    · obtain ⟨parameter, hparameter, h⟩ := Except.bind_eq_ok_iff.mp h
      obtain rfl := Except.ok.inj h
      exact .parameter (by simpa using hoption) hparameter

lemma sound_of_ofDeclaration {declaration : FieldDeclaration} {field : Field}
    (h : ofDeclaration declaration = .ok field) : field.Sound := by
  obtain ⟨settings, shape, docs, -, -, hrole⟩ := exists_of_ofDeclaration h
  cases hrole with
  | remaining _ hcollector => exact sequence_of_asRemaining hcollector
  | option _ hoption =>
    obtain ⟨hbase, htags⟩ := sound_of_asOption hoption
    exact ⟨hbase ▸ sound_baseOf _ _ _ _, htags⟩
  | parameter _ hparameter =>
    rw [Sound, base_of_asParameter hparameter]
    exact sound_baseOf _ _ _ _

end Field

/-! ### Interfaces -/

namespace Interface

/-- The tags of the first option are new, and the others are checked against them as well. -/
lemma checkTags_cons_eq_ok_iff {longs : List String} {shorts : List Char} {option : OptionField}
    {rest : List OptionField} :
    checkTags longs shorts (option :: rest) = .ok () ↔
      (∀ tag ∈ option.tags.long?, tag ∉ longs) ∧ (∀ tag ∈ option.tags.short?, tag ∉ shorts) ∧
        checkTags (option.tags.long?.toList ++ longs) (option.tags.short?.toList ++ shorts) rest =
          .ok () := by
  rw [checkTags]
  cases hlong : option.tags.long? with
  | none =>
    cases hshort : option.tags.short? with
    | none => simp [bind, Except.bind]
    | some letter => by_cases hletter : letter ∈ shorts <;> simp [hletter, bind, Except.bind]
  | some tag =>
    by_cases htag : tag ∈ longs
    · simp [htag, bind, Except.bind]
    cases hshort : option.tags.short? with
    | none => simp [htag, bind, Except.bind]
    | some letter => by_cases hletter : letter ∈ shorts <;> simp [htag, hletter, bind, Except.bind]

/-- No key is used twice, and none that was seen before is used. -/
def AllNew {α β : Type} (key : α → Option β) (seen : List β) (list : List α) : Prop :=
  (list.filterMap key).Nodup ∧ ∀ tag ∈ list.filterMap key, tag ∉ seen

/-- A new key joins keys that are all different and all different from it. -/
lemma allNew_cons {α β : Type} {key : α → Option β} {seen : List β} {first : α} {rest : List α} :
    AllNew key seen (first :: rest) ↔
      (∀ tag ∈ key first, tag ∉ seen) ∧ AllNew key ((key first).toList ++ seen) rest := by
  cases hfirst : key first with
  | none => simp [AllNew, List.filterMap_cons_none hfirst]
  | some tag =>
    rw [AllNew, AllNew, List.filterMap_cons_some hfirst, List.nodup_cons]
    constructor
    · rintro ⟨⟨hfresh, hnodup⟩, hunseen⟩
      obtain ⟨htag, hothers⟩ := List.forall_mem_cons.mp hunseen
      refine ⟨by simpa using htag, hnodup, fun other hother => ?_⟩
      have hne : other ≠ tag := fun hsame => hfresh (hsame ▸ hother)
      simpa [hne] using hothers other hother
    · rintro ⟨htag, hnodup, hothers⟩
      have hsplit : ∀ other ∈ rest.filterMap key, other ≠ tag ∧ other ∉ seen := by
        simpa using hothers
      refine ⟨⟨fun hagain => (hsplit tag hagain).1 rfl, hnodup⟩, ?_⟩
      exact List.forall_mem_cons.mpr ⟨by simpa using htag, fun other hother =>
        (hsplit other hother).2⟩

/-- The check passes exactly if all long tags and all short tags are new. -/
lemma checkTags_eq_ok_iff {longs : List String} {shorts : List Char} {options : List OptionField} :
    checkTags longs shorts options = .ok () ↔
      AllNew (·.tags.long?) longs options ∧ AllNew (·.tags.short?) shorts options := by
  induction options generalizing longs shorts with
  | nil => simp [checkTags, AllNew]
  | cons option rest ih =>
    rw [checkTags_cons_eq_ok_iff, ih, allNew_cons, allNew_cons]
    tauto

/-! ### Parameters -/

lemma perm_insertIndexed (entry : ParameterField × Nat) (entries : List (ParameterField × Nat)) :
    (insertIndexed entry entries).Perm (entry :: entries) := by
  induction entries with
  | nil => exact .refl _
  | cons first rest ih =>
    rw [insertIndexed]
    split_ifs
    · exact .refl _
    · exact (ih.cons first).trans (.swap entry first rest)

lemma perm_sortIndexed (entries : List (ParameterField × Nat)) :
    (sortIndexed entries).Perm entries := by
  induction entries with
  | nil => exact .nil
  | cons first rest ih => exact (perm_insertIndexed first (sortIndexed rest)).trans (ih.cons first)

/-- Indexes are all that is added to parameters. -/
lemma mem_of_indexed {parameters : List (ParameterField × Option Nat)}
    {entries : List (ParameterField × Nat)} (h : indexed parameters = .ok entries)
    {entry : ParameterField × Nat} (hentry : entry ∈ entries) :
    ∃ index, (entry.1, index) ∈ parameters := by
  rw [indexed] at h
  split_ifs at h
  · obtain rfl := Except.ok.inj h
    have hfield := List.fst_mem_of_mem_zipIdx hentry
    obtain ⟨parameter, hparameter, hfst⟩ := List.mem_map.mp hfield
    exact ⟨parameter.2, by rw [← hfst]; exact hparameter⟩
  · dsimp only at h
    split at h
    · simp at h
    · obtain rfl := Except.ok.inj h
      obtain ⟨⟨field, index⟩, hparameter, hmap⟩ := List.mem_filterMap.mp hentry
      obtain ⟨number, -, rfl⟩ := Option.map_eq_some_iff.mp hmap
      exact ⟨index, hparameter⟩

lemma hasMisplaced_eq_false_iff {parameters : List ParameterField} :
    hasMisplaced parameters = false ↔
      parameters.Pairwise fun first second =>
        second.base.required = true → first.base.required = true := by
  induction parameters with
  | nil => simp [hasMisplaced]
  | cons first rest ih =>
    rw [List.pairwise_cons]
    cases hrequired : first.base.required with
    | true =>
      have hrest : hasMisplaced (first :: rest) = hasMisplaced rest := by
        simp [hasMisplaced, hrequired]
      simp [hrest, ih]
    | false =>
      have hnone : hasMisplaced (first :: rest) = false ↔
          ∀ field ∈ rest, field.base.required = true → false = true := by
        simp [hasMisplaced, hrequired]
      rw [hnone, iff_self_and]
      exact fun h => List.pairwise_of_forall_mem_list fun field _ other hother hlate =>
        absurd (h other hother hlate) (by simp)

/-- Where required members come first, they are those below their number. -/
lemma lt_length_filter_iff {β : Type} {p : β → Bool} {list : List β}
    (h : list.Pairwise fun x y => p y = true → p x = true) {place : Nat} {x : β}
    (hx : list[place]? = some x) : place < (list.filter p).length ↔ p x = true := by
  induction list generalizing place with
  | nil => simp at hx
  | cons first rest ih =>
    obtain ⟨hfirst, hrest⟩ := List.pairwise_cons.mp h
    cases hp : p first with
    | true =>
      rw [List.filter_cons_of_pos hp, List.length_cons]
      cases place with
      | zero =>
        obtain rfl : first = x := by simpa using hx
        simp [hp]
      | succ place => rw [Nat.succ_lt_succ_iff, ih hrest (by simpa using hx)]
    | false =>
      -- behind a member that is not required, none is
      have hnone : ∀ y ∈ first :: rest, p y = false := by
        intro y hy
        rcases List.mem_cons.mp hy with rfl | hy
        · exact hp
        · exact Bool.eq_false_iff.mpr fun hrequired => by simp [hfirst y hy hrequired] at hp
      have hempty : (first :: rest).filter p = [] :=
        List.filter_eq_nil_iff.mpr fun y hy => by simp [hnone y hy]
      simp [hempty, hnone x (List.mem_of_getElem? hx)]

lemma mem_and_pairwise_of_resolveParameters {parameters : List (ParameterField × Option Nat)}
    {fields : List ParameterField} (h : resolveParameters parameters = .ok fields) :
    (∀ field ∈ fields, ∃ index, (field, index) ∈ parameters) ∧
      fields.Pairwise fun first second =>
        second.base.required = true → first.base.required = true := by
  rw [resolveParameters] at h
  obtain ⟨entries, hentries, h⟩ := Except.bind_eq_ok_iff.mp h
  dsimp only at h
  split at h
  · simp at h
  · split_ifs at h with hmisplaced
    obtain rfl := Except.ok.inj h
    constructor
    · intro field hfield
      obtain ⟨entry, hentry, rfl⟩ := List.mem_map.mp hfield
      exact mem_of_indexed hentries ((perm_sortIndexed entries).mem_iff.mp hentry)
    · exact hasMisplaced_eq_false_iff.mp (by simpa using hmisplaced)

lemma mem_of_resolveRemaining {fields : List RemainingField} {found : Option RemainingField}
    (h : resolveRemaining fields = .ok found) : ∀ field ∈ found, field ∈ fields := by
  unfold resolveRemaining at h
  split at h
  · simp [← Except.ok.inj h]
  · simp [← Except.ok.inj h]
  · simp at h

/-! ### The whole -/

/-- What is taken over from checked fields and from the attributes. -/
lemma settings_and_options_of_ofFields {settings : ProgramSettings} {fields : List Field}
    {interface : Interface} (h : ofFields settings fields = .ok interface) :
    interface.settings = settings ∧ interface.options = fields.filterMap Field.option? := by
  rw [ofFields] at h
  obtain ⟨_, -, h⟩ := Except.bind_eq_ok_iff.mp h
  obtain ⟨parameters, -, h⟩ := Except.bind_eq_ok_iff.mp h
  obtain ⟨remaining, -, h⟩ := Except.bind_eq_ok_iff.mp h
  obtain rfl := Except.ok.inj h
  exact ⟨rfl, rfl⟩

/-- The options, the parameters and the collector are checked fields. -/
lemma mem_fields_of_ofFields {settings : ProgramSettings} {fields : List Field}
    {interface : Interface} (h : ofFields settings fields = .ok interface) :
    (∀ field ∈ interface.options, Field.option field ∈ fields) ∧
      (∀ field ∈ interface.parameters, ∃ index, Field.parameter field index ∈ fields) ∧
      ∀ field ∈ interface.remaining, Field.remaining field ∈ fields := by
  rw [ofFields] at h
  obtain ⟨_, -, h⟩ := Except.bind_eq_ok_iff.mp h
  obtain ⟨parameters, hparameters, h⟩ := Except.bind_eq_ok_iff.mp h
  obtain ⟨remaining, hremaining, h⟩ := Except.bind_eq_ok_iff.mp h
  obtain rfl := Except.ok.inj h
  refine ⟨?_, ?_, ?_⟩
  · intro option hoption
    obtain ⟨field, hfield, hview⟩ := List.mem_filterMap.mp hoption
    cases field <;> cases hview
    exact hfield
  · intro parameter hparameter
    obtain ⟨index, hindex⟩ := (mem_and_pairwise_of_resolveParameters hparameters).1 _ hparameter
    obtain ⟨field, hfield, hview⟩ := List.mem_filterMap.mp hindex
    cases field <;> cases hview
    exact ⟨_, hfield⟩
  · intro collector hcollector
    obtain ⟨field, hfield, hview⟩ :=
      List.mem_filterMap.mp (mem_of_resolveRemaining hremaining collector hcollector)
    cases field <;> cases hview
    exact hfield

lemma sound_of_ofFields {settings : ProgramSettings} {fields : List Field} {interface : Interface}
    (hcommands : ∀ command ∈ settings.table, command.Sound)
    (hfields : ∀ field ∈ fields, field.Sound) (h : ofFields settings fields = .ok interface) :
    interface.Sound := by
  obtain ⟨hoptions, hparameters, hremaining⟩ := mem_fields_of_ofFields h
  rw [ofFields] at h
  obtain ⟨_, htags, h⟩ := Except.bind_eq_ok_iff.mp h
  obtain ⟨parameters, hresolved, h⟩ := Except.bind_eq_ok_iff.mp h
  obtain ⟨remaining, -, h⟩ := Except.bind_eq_ok_iff.mp h
  obtain rfl := Except.ok.inj h
  obtain ⟨⟨hlongs, -⟩, hshorts, -⟩ := checkTags_eq_ok_iff.mp htags
  refine ⟨hcommands, fun option hoption => hfields _ (hoptions option hoption), ?_,
    fun collector hcollector => hfields _ (hremaining collector hcollector), hlongs, hshorts,
    (mem_and_pairwise_of_resolveParameters hresolved).2⟩
  intro parameter hparameter
  obtain ⟨index, hfield⟩ := hparameters parameter hparameter
  exact hfields _ hfield

/-- The stages that an accepted declaration passes. -/
lemma exists_of_ofDeclaration {declaration : Declaration} {interface : Interface}
    (h : ofDeclaration declaration = .ok interface) :
    ∃ settings fields,
      ProgramSettings.ofAttributes declaration.attributes = .ok settings ∧
      (declaration.fields.mapM fun field =>
        (Field.ofDeclaration field).mapError DeclarationFault.field) = .ok fields ∧
      ofFields settings fields = .ok interface := by
  rw [ofDeclaration] at h
  cases hgenerics : GenericKind.reported? declaration.generics with
  | some kind => simp [hgenerics, bind, Except.bind] at h
  | none =>
    simp only [hgenerics] at h
    obtain ⟨_, -, h⟩ := Except.bind_eq_ok_iff.mp h
    obtain ⟨_, -, h⟩ := Except.bind_eq_ok_iff.mp h
    obtain ⟨settings, hsettings, h⟩ := Except.bind_eq_ok_iff.mp h
    obtain ⟨fields, hfields, h⟩ := Except.bind_eq_ok_iff.mp h
    exact ⟨settings, fields, Except.mapError_eq_ok_iff.mp hsettings, hfields, h⟩

/-- The interface of an accepted declaration is sound. -/
theorem sound_of_ofDeclaration {declaration : Declaration} {interface : Interface}
    (h : ofDeclaration declaration = .ok interface) : interface.Sound := by
  obtain ⟨settings, fields, hsettings, hfields, hinterface⟩ := exists_of_ofDeclaration h
  apply sound_of_ofFields (ProgramSettings.sound_of_ofAttributes hsettings) _ hinterface
  intro field hfield
  obtain ⟨source, -, hsource⟩ := exists_of_mem_mapM hfields hfield
  exact Field.sound_of_ofDeclaration (Except.mapError_eq_ok_iff.mp hsource)

/-- Every checked field of an accepted declaration comes from a declared one. -/
lemma exists_source {declaration : Declaration} {interface : Interface}
    (h : ofDeclaration declaration = .ok interface) :
    ∃ settings fields, ofFields settings fields = .ok interface ∧
      ∀ field ∈ fields, ∃ source ∈ declaration.fields, Field.ofDeclaration source = .ok field := by
  obtain ⟨settings, fields, -, hfields, hinterface⟩ := exists_of_ofDeclaration h
  refine ⟨settings, fields, hinterface, fun field hfield => ?_⟩
  obtain ⟨source, hsource, hcheck⟩ := exists_of_mem_mapM hfields hfield
  exact ⟨source, hsource, Except.mapError_eq_ok_iff.mp hcheck⟩

/-- Every option comes from a declared field that is checked to it. -/
lemma exists_field_of_mem_options {declaration : Declaration} {interface : Interface}
    (h : ofDeclaration declaration = .ok interface) {option : OptionField}
    (hoption : option ∈ interface.options) :
    ∃ source ∈ declaration.fields, Field.ofDeclaration source = .ok (.option option) := by
  obtain ⟨settings, fields, hinterface, hsource⟩ := exists_source h
  exact hsource _ ((mem_fields_of_ofFields hinterface).1 option hoption)

/-- No alias is used twice in the commands of an accepted declaration. -/
theorem nodup_aliases_of_ofDeclaration {declaration : Declaration} {interface : Interface}
    (h : ofDeclaration declaration = .ok interface) :
    (interface.settings.table.flatMap (·.aliases)).Nodup := by
  obtain ⟨settings, fields, hsettings, -, hinterface⟩ := exists_of_ofDeclaration h
  rw [(settings_and_options_of_ofFields hinterface).1]
  exact ProgramSettings.nodup_of_check (ProgramSettings.check_of_ofAttributes hsettings)

end Interface

end CommandLine
