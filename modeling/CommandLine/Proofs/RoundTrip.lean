import CommandLine.Proofs.Rendering
import CommandLine.Proofs.Shown
import CommandLine.Sample.Archive
import Mathlib.Tactic.FinCases

/-!
# Parsing what was rendered

A valid selection is rendered to a command line without errors, and parsing this command line yields
a record whose fields show exactly the selected values.
-/

namespace CommandLine

namespace Selection

variable {α : Type}

def values (selection : Selection α) (truth : TypeExpr → Bool → α) : Slot → List α
  | .option place =>
    selection.groups.flatMap fun group => if group.place = place then group.values truth else []
  | .parameter place => (selection.parameters[place]?.map (·.2)).toList
  | .remaining => selection.rest.map (·.2)

/-- A selection that an interface accepts. Every option has at most one choice, and the required
ones have one. The first parameters have texts, at least as many as there are required ones. The
collector has texts only if all parameters have some. All texts stand for their values. -/
structure Valid (interface : Interface) (environment : Environment α) (selection : Selection α) :
    Prop where
  groups : ∀ group ∈ selection.groups, group.Valid interface environment
  once : (selection.groups.map (·.place)).Nodup
  required : ∀ (place : Nat) (field : OptionField), interface.options[place]? = some field →
    field.base.required = true → ∃ group ∈ selection.groups, group.place = place
  few : selection.parameters.length ≤ interface.parameters.length
  enough : (interface.parameters.filter (·.base.required)).length ≤ selection.parameters.length
  parameters : ∀ (place : Nat) (pair : String × α) (field : ParameterField),
    selection.parameters[place]? = some pair → interface.parameters[place]? = some field →
      (environment.decoder field.base.shape.scalar).decode pair.1 = .ok pair.2
  collected : selection.rest ≠ [] →
    selection.parameters.length = interface.parameters.length ∧ interface.remaining.isSome = true
  rest : ∀ pair ∈ selection.rest, ∀ field ∈ interface.remaining,
    (environment.decoder field.base.shape.scalar).decode pair.1 = .ok pair.2

end Selection

/-! ### Tallies of runs -/

namespace Tally

/-- Nothing is missing if everything required is there. -/
lemma omissions_eq_nil {model : Model} {tally : Tally}
    (hoptions : ∀ (place : Nat) (option : OptionSpec), model.options[place]? = some option →
      option.required = true → place ∈ tally.mentioned)
    (hparameters : ∀ (place : Nat) (parameter : ParameterSpec),
      model.parameters[place]? = some parameter → parameter.required = true →
        place < tally.positional) : tally.omissions model = [] := by
  rw [omissions, List.append_eq_nil_iff, List.map_eq_nil_iff, List.map_eq_nil_iff,
    List.filter_eq_nil_iff, List.filter_eq_nil_iff]
  constructor
  · rintro ⟨option, place⟩ hmem hmissing
    simp only [Bool.and_eq_true, decide_eq_true_eq] at hmissing
    exact hmissing.2 (hoptions place option (List.mem_zipIdx_iff_getElem?.mp hmem) hmissing.1)
  · intro parameter hmem hrequired
    obtain ⟨place, hplace⟩ := List.mem_iff_getElem?.mp hmem
    rw [List.getElem?_drop] at hplace
    have := hparameters _ parameter hplace hrequired
    omega

end Tally

section RoundTrip

variable {α : Type} {interface : Interface} {environment : Environment α} {group : Group α}
  {selection : Selection α} {truth : TypeExpr → Bool → α}

/-! ### Values of choices -/

/-- The flags among the options decode `true` and `false` to the truth values of their types. -/
def Interface.Flags (interface : Interface) (environment : Environment α)
    (truth : TypeExpr → Bool → α) : Prop :=
  ∀ field ∈ interface.options, (field.base.kind environment).isFlag = true → ∀ value : Bool,
    (environment.decoder field.base.shape.scalar).decode (toString value) =
      .ok (truth field.base.shape.scalar value)

lemma Interface.decode?_of_base? {slot : Slot} {base : FieldBase}
    (hbase : interface.base? slot = some base) {text : String} {value : α}
    (hvalue : (environment.decoder base.shape.scalar).decode text = .ok value) :
    interface.decode? environment slot text = some value := by
  simp [Interface.decode?, hbase, hvalue, Except.toOption]

lemma Group.base?_of_valid (hvalid : group.Valid interface environment) :
    interface.base? (.option group.place) = some group.field.base := by
  simp [Interface.base?, hvalid.field]

lemma Group.decode?_of_flags (hflags : interface.Flags environment truth)
    (hvalid : group.Valid interface environment)
    (hflag : (group.field.base.kind environment).isFlag = true) (value : Bool) :
    interface.decode? environment (.option group.place) (toString value) =
      some (truth group.field.base.shape.scalar value) :=
  Interface.decode?_of_base? (base?_of_valid hvalid)
    (hflags group.field (List.mem_of_getElem? hvalid.field) hflag value)

lemma Group.inline_append_followers {first : String × α} {others : List (String × α)}
    (hchoice : group.choice = .texts first others) :
    group.inline.toList ++ group.followers = first.1 :: others.map (·.1) := by
  rw [followers]
  rw [hchoice]
  dsimp only
  split_ifs with hinline
  · simp [hinline]
  · obtain ⟨text, htext⟩ := Option.ne_none_iff_exists'.mp hinline
    have hfirst : text = first.1 := by
      rw [inline] at htext
      rw [hchoice] at htext
      cases hname : group.name with
      | long name => simpa [hname] using htext.symm
      | short letter =>
        simp only [hname] at htext
        split_ifs at htext
        exact (Option.some.inj htext).symm
    simp [htext, hfirst]

lemma filterMap_map_fst {f : String → Option α} {pairs : List (String × α)}
    (h : ∀ pair ∈ pairs, f pair.1 = some pair.2) :
    (pairs.map (·.1)).filterMap f = pairs.map (·.2) := by
  induction pairs with
  | nil => rfl
  | cons pair rest ih =>
    rw [List.map_cons, List.filterMap_cons_some (h pair (by simp)),
      ih fun other hother => h other (by simp [hother]), List.map_cons]

/-- The texts of a choice are none of a flag, and they stand for their values. -/
lemma Group.decode?_of_texts (hvalid : group.Valid interface environment) {first : String × α}
    {others : List (String × α)} (hchoice : group.choice = .texts first others) :
    (group.mention environment).kind.isFlag = false ∧ ∀ pair ∈ first :: others,
      interface.decode? environment (.option group.place) pair.1 = some pair.2 := by
  have haccepted := hvalid.choice
  rw [hchoice] at haccepted
  obtain ⟨hflag, hdecode, -⟩ := haccepted
  exact ⟨hflag, fun pair hpair =>
    Interface.decode?_of_base? (base?_of_valid hvalid) (hdecode pair hpair)⟩

/-- A set flag and a flag with its truth value are flags, and nothing stands in their arguments. -/
lemma Group.followers_of_isFlag (hvalid : group.Valid interface environment)
    (hflag : (group.mention environment).kind.isFlag = true) :
    group.inline = none ∧ ((group.choice = .set ∧ group.followers = []) ∨
      ∃ value, group.choice = .explicit value ∧ group.followers = [toString value]) := by
  refine ⟨inline_of_isFlag hvalid hflag, ?_⟩
  cases hchoice : group.choice with
  | set => exact .inl ⟨rfl, by rw [followers, hchoice]⟩
  | explicit value => exact .inr ⟨value, rfl, by rw [followers, hchoice]⟩
  | texts first others => simp [(decode?_of_texts hvalid hchoice).1] at hflag

lemma Group.exists_texts (hvalid : group.Valid interface environment)
    (hflag : (group.mention environment).kind.isFlag = false) :
    ∃ first others, group.choice = .texts first others := by
  have haccepted := hvalid.choice
  cases hchoice : group.choice with
  | set =>
    rw [hchoice] at haccepted
    exact absurd haccepted (by simpa [mention] using hflag)
  | explicit value =>
    rw [hchoice] at haccepted
    exact absurd (ValueKind.isFlag_of_isNullableFlag haccepted) (by simpa [mention] using hflag)
  | texts first others => exact ⟨first, others, rfl⟩

/-- What a choice brings about is without errors. -/
lemma Group.flawless_settle (hflags : interface.Flags environment truth)
    (hvalid : group.Valid interface environment) :
    ∀ event ∈ (group.mention environment).settle group.inline group.followers,
      interface.Flawless environment event := by
  have hstores {texts : List String} (htexts : ∀ text ∈ texts,
      (interface.decode? environment (.option group.place) text).isSome = true) :
      ∀ event ∈ texts.map (group.mention environment).store,
        interface.Flawless environment event := by
    intro event hevent
    obtain ⟨text, htext, rfl⟩ := List.mem_map.mp hevent
    exact htexts text htext
  cases hflag : (group.mention environment).kind.isFlag with
  | true =>
    have hset (value : Bool) := decode?_of_flags hflags hvalid hflag value
    obtain ⟨hinline, ⟨-, hfollowers⟩ | ⟨value, -, hfollowers⟩⟩ := followers_of_isFlag hvalid hflag
    · rw [hinline, hfollowers, Mention.settle_of_isFlag hflag]
      apply hstores
      intro text htext
      obtain rfl := List.mem_singleton.mp htext
      exact Option.isSome_of_mem (hset true)
    · rw [hinline, hfollowers, Mention.settle_of_isFlag hflag]
      apply hstores
      intro text htext
      rcases List.mem_cons.mp htext with rfl | hlast
      · exact Option.isSome_of_mem (hset true)
      · obtain rfl := List.mem_singleton.mp hlast
        exact Option.isSome_of_mem (hset value)
  | false =>
    obtain ⟨first, others, hchoice⟩ := exists_texts hvalid hflag
    have hdecode := (decode?_of_texts hvalid hchoice).2
    have htexts := inline_append_followers hchoice
    rw [Mention.settle_of_not_isFlag hflag (by simp [htexts]), htexts]
    apply hstores
    intro text htext
    obtain ⟨pair, hpair, rfl⟩ : ∃ pair ∈ first :: others, pair.1 = text :=
      List.mem_map.mp (by simpa using htext)
    exact Option.isSome_of_mem (hdecode pair hpair)

/-- The values that a choice gives are the chosen ones. -/
lemma Group.values_given (hflags : interface.Flags environment truth)
    (hvalid : group.Valid interface environment) :
    ((group.mention environment).given group.inline group.followers).filterMap
      (interface.decode? environment (.option group.place)) = group.values truth := by
  cases hflag : (group.mention environment).kind.isFlag with
  | true =>
    have hset (value : Bool) := decode?_of_flags hflags hvalid hflag value
    obtain ⟨-, ⟨hchoice, hfollowers⟩ | ⟨value, hchoice, hfollowers⟩⟩ :=
      followers_of_isFlag hvalid hflag
    · rw [Mention.given, if_pos hflag, hfollowers, values, hchoice]
      exact List.filterMap_cons_some (hset true)
    · rw [Mention.given, if_pos hflag, hfollowers, values, hchoice]
      exact List.filterMap_cons_some (hset value)
  | false =>
    obtain ⟨first, others, hchoice⟩ := exists_texts hvalid hflag
    rw [Mention.given, hflag, if_neg (by simp), inline_append_followers hchoice, values, hchoice]
    exact filterMap_map_fst (decode?_of_texts hvalid hchoice).2

/-! ### Accounts -/

/-- Pieces bring about no error if every option is new and has what it needs, and every positional
argument has a place. -/
lemma Interface.flawless_account {pieces : List Piece} {tally : Tally}
    (hnodup : (pieces.filterMap Piece.place?).Nodup)
    (hnew : ∀ place ∈ pieces.filterMap Piece.place?, place ∉ tally.mentioned)
    (hpieces : ∀ piece ∈ pieces, (∃ text, piece = .positional text) ∨
      ∃ mention inline taken, piece = .option mention inline taken ∧
        ∀ event ∈ mention.settle inline taken, interface.Flawless environment event)
    (hplaced : ∀ (number : Nat) (text : String),
      (pieces.filterMap Piece.loose?)[number]? = some text →
        interface.Flawless environment
          ((interface.model environment).placed (tally.positional + number) text)) :
    ∀ event ∈ tally.account (interface.model environment) pieces,
      interface.Flawless environment event := by
  induction pieces generalizing tally with
  | nil => simp
  | cons piece rest ih =>
    intro event hevent
    have hrest := fun other hother => hpieces other (List.mem_cons_of_mem piece hother)
    rcases hpieces piece (by simp) with ⟨text, rfl⟩ | ⟨mention, inline, taken, rfl, hsettle⟩
    · rcases List.mem_append.mp hevent with hfirst | hlater
      · obtain rfl := List.mem_singleton.mp hfirst
        exact hplaced 0 text rfl
      · have hnew' : ∀ place ∈ rest.filterMap Piece.place?,
            place ∉ (tally.after (.positional text)).mentioned := hnew
        refine ih hnodup hnew' hrest (fun number other hother => ?_) event hlater
        have hnext := hplaced (number + 1) other hother
        rwa [← Nat.add_assoc, Nat.add_right_comm] at hnext
    · rw [Piece.filterMap_place?_option] at hnodup hnew
      have hfirst : mention.option ∉ tally.mentioned := hnew mention.option (by simp)
      obtain ⟨habsent, htail⟩ := List.nodup_cons.mp hnodup
      rcases List.mem_append.mp hevent with hnow | hlater
      · rw [Tally.events, Tally.noted, if_neg hfirst] at hnow
        rcases List.mem_append.mp hnow with hmention | hsettled
        · obtain rfl := List.mem_singleton.mp hmention
          trivial
        · exact hsettle event hsettled
      · have hnew' : ∀ place ∈ rest.filterMap Piece.place?,
            place ∉ (tally.after (.option mention inline taken)).mentioned := by
          intro place hplace hold
          rcases List.mem_cons.mp hold with rfl | hbefore
          · exact habsent hplace
          · exact hnew place (by simp [hplace]) hbefore
        exact ih htail hnew' hrest hplaced event hlater

/-! ### Rendered selections -/

lemma Selection.place?_layout (hsound : interface.Sound)
    (hvalid : selection.Valid interface environment) :
    ((interface.model environment).layout selection.render).filterMap Piece.place? =
      selection.groups.map (·.place) := by
  rw [layout_render hsound hvalid.groups, List.filterMap_append, List.filterMap_map,
    List.filterMap_map]
  have hgroups : Piece.place? ∘ (fun group : Group α => group.piece environment) =
      fun group => some group.place := rfl
  have hloose : Piece.place? ∘ (fun pair : String × α => Piece.positional pair.1) =
      fun _ => none := rfl
  rw [hgroups, hloose, List.filterMap_eq_map', List.filterMap_none]
  simp

lemma Selection.loose_render (hsound : interface.Sound)
    (hvalid : selection.Valid interface environment) :
    (interface.model environment).loose selection.render =
      (selection.parameters ++ selection.rest).map (·.1) := by
  rw [Model.loose, layout_render hsound hvalid.groups, List.filterMap_append, List.filterMap_map,
    List.filterMap_map]
  have hgroups : Piece.loose? ∘ (fun group : Group α => group.piece environment) =
      fun _ => none := rfl
  have hloose : Piece.loose? ∘ (fun pair : String × α => Piece.positional pair.1) =
      fun pair => some pair.1 := rfl
  rw [hgroups, hloose]
  simp

lemma Interface.base?_parameter {place : Nat} {field : ParameterField}
    (hfield : interface.parameters[place]? = some field) :
    interface.base? (.parameter place) = some field.base := by
  simp [base?, hfield]

lemma Interface.length_parameters :
    (interface.model environment).parameters.length = interface.parameters.length := by
  simp [model]

/-- The texts of a rendered selection have the selected values. -/
lemma Selection.values_render (hsound : interface.Sound)
    (hflags : interface.Flags environment truth) (hvalid : selection.Valid interface environment)
    {slot : Slot} {base : FieldBase} (hbase : interface.base? slot = some base) :
    interface.values environment selection.render slot = selection.values truth slot := by
  rw [Interface.values]
  cases slot with
  | option place =>
    have hpositional : ((selection.parameters ++ selection.rest).map fun pair =>
        Piece.positional pair.1).flatMap (Piece.givenFor place) = [] := by
      rw [List.flatMap_eq_nil_iff]
      intro piece hpiece
      obtain ⟨pair, -, rfl⟩ := List.mem_map.mp hpiece
      rfl
    rw [Model.given, layout_render hsound hvalid.groups, List.flatMap_append, hpositional,
      List.append_nil, List.flatMap_map, List.filterMap_flatMap, values]
    apply List.flatMap_congr
    intro group hgroup
    have hgiven := Group.values_given hflags (hvalid.groups group hgroup)
    by_cases hplace : group.place = place
    · subst hplace
      simpa [Group.piece, Piece.givenFor, Group.mention] using hgiven
    · simp [Group.piece, Piece.givenFor, Group.mention, hplace]
  | parameter place =>
    obtain ⟨field, hfield, rfl⟩ := Option.map_eq_some_iff.mp hbase
    rw [Model.given, loose_render hsound hvalid, values, List.getElem?_map]
    rcases Nat.lt_or_ge place selection.parameters.length with hlt | hge
    · rw [List.getElem?_append_left hlt]
      have hpair := List.getElem?_eq_getElem hlt
      have hdecode := Interface.decode?_of_base? (Interface.base?_parameter hfield)
        (hvalid.parameters place _ field hpair hfield)
      simp [hpair, hdecode]
    · have hrest : selection.rest = [] := by
        by_contra hne
        have := (hvalid.collected hne).1
        have := (List.getElem?_eq_some_iff.mp hfield).1
        omega
      rw [hrest, List.append_nil, List.getElem?_eq_none hge]
      rfl
  | remaining =>
    obtain ⟨field, hfield, rfl⟩ := Option.map_eq_some_iff.mp hbase
    have hdecode : ∀ pair ∈ selection.rest,
        interface.decode? environment .remaining pair.1 = some pair.2 := fun pair hpair =>
      Interface.decode?_of_base? hbase (hvalid.rest pair hpair field hfield)
    rw [Model.given, loose_render hsound hvalid, values, Interface.length_parameters]
    by_cases hrest : selection.rest = []
    · rw [hrest, List.append_nil, List.drop_eq_nil_of_le (by simpa using hvalid.few)]
      rfl
    · rw [← (hvalid.collected hrest).1, List.map_append, List.drop_left' (by simp)]
      exact filterMap_map_fst hdecode

/-- Every positional text of a rendered selection has its place. -/
lemma Selection.flawless_placed (hvalid : selection.Valid interface environment) {number : Nat}
    {text : String} (htext : ((selection.parameters ++ selection.rest).map (·.1))[number]? =
      some text) :
    interface.Flawless environment ((interface.model environment).placed number text) := by
  rw [List.getElem?_map] at htext
  obtain ⟨pair, hpair, rfl⟩ := Option.map_eq_some_iff.mp htext
  rw [Model.placed]
  rcases Nat.lt_or_ge number selection.parameters.length with hlt | hge
  · rw [List.getElem?_append_left hlt] at hpair
    obtain ⟨field, hfield⟩ : ∃ field, interface.parameters[number]? = some field :=
      ⟨_, List.getElem?_eq_getElem (Nat.lt_of_lt_of_le hlt hvalid.few)⟩
    have hdecode := Interface.decode?_of_base? (Interface.base?_parameter hfield)
      (hvalid.parameters number pair field hpair hfield)
    rw [Interface.parameter_eq_some_iff.mpr ⟨_, hfield, rfl⟩]
    exact Option.isSome_of_mem hdecode
  · rw [List.getElem?_append_right hge] at hpair
    have hmem := List.mem_of_getElem? hpair
    obtain ⟨hlength, hremaining⟩ := hvalid.collected (List.ne_nil_of_mem hmem)
    obtain ⟨field, hfield⟩ := Option.isSome_iff_exists.mp hremaining
    have hnone : (interface.model environment).parameters[number]? = none := by
      rw [List.getElem?_eq_none_iff, Interface.length_parameters, ← hlength]
      exact hge
    have hbase : interface.base? .remaining = some field.base := by
      simp [Interface.base?, hfield]
    have hdecode := Interface.decode?_of_base? hbase (hvalid.rest pair hmem field hfield)
    have hcollector : (interface.model environment).remaining.isSome = true := by
      simp [Interface.model, hfield]
    rw [hnone]
    dsimp only
    rw [if_pos hcollector]
    exact Option.isSome_of_mem hdecode

/-- A rendered selection brings about no error. -/
lemma Selection.flawless_render (hsound : interface.Sound)
    (hflags : interface.Flags environment truth) (hvalid : selection.Valid interface environment) :
    ∀ event ∈ (interface.model environment).account selection.render,
      interface.Flawless environment event := by
  have hplaces := place?_layout hsound hvalid
  have hloose := loose_render hsound hvalid
  have haccount : ∀ event ∈ Tally.zero.account (interface.model environment)
      ((interface.model environment).layout selection.render),
      interface.Flawless environment event := by
    refine Interface.flawless_account (by rw [hplaces]; exact hvalid.once)
      (fun place _ => List.not_mem_nil) ?_ ?_
    · intro piece hpiece
      rw [layout_render hsound hvalid.groups] at hpiece
      rcases List.mem_append.mp hpiece with hgroup | hpositional
      · obtain ⟨group, hmem, rfl⟩ := List.mem_map.mp hgroup
        exact .inr ⟨_, _, _, rfl, Group.flawless_settle hflags (hvalid.groups group hmem)⟩
      · obtain ⟨pair, -, rfl⟩ := List.mem_map.mp hpositional
        exact .inl ⟨_, rfl⟩
    · intro number text htext
      rw [← Model.loose, hloose] at htext
      simpa [Tally.zero] using flawless_placed hvalid htext
  have homissions : ((((interface.model environment).layout selection.render).foldl Tally.after
      Tally.zero).omissions (interface.model environment)) = [] := by
    apply Tally.omissions_eq_nil
    · intro place option hoption hrequired
      rw [Tally.mem_mentioned_foldl, hplaces]
      obtain ⟨field, hfield, rfl⟩ := Interface.option_eq_some_iff.mp hoption
      obtain ⟨group, hgroup, rfl⟩ := hvalid.required place field hfield hrequired
      exact .inl (List.mem_map.mpr ⟨group, hgroup, rfl⟩)
    · intro place parameter hparameter hrequired
      rw [Tally.positional_foldl, ← Model.loose, hloose]
      obtain ⟨field, hfield, rfl⟩ := Interface.parameter_eq_some_iff.mp hparameter
      have hcount := (Interface.lt_length_filter_iff hsound.requiredFirst hfield).mpr hrequired
      have henough := hvalid.enough
      simp only [List.length_map, List.length_append, Tally.zero]
      omega
  intro event hevent
  rw [Model.account, Tally.total, homissions, List.append_nil] at hevent
  exact haccount event hevent

/-- For a program of an accepted declaration whose flags decode `true` and `false`, parsing a rendered
selection yields a record, and every field of it shows exactly the values of the selection,
whatever its texts are, unless the first argument happens to be the alias of a command. -/
theorem parse_render {declaration : Declaration}
    (accepted : Interface.ofDeclaration declaration = .ok interface)
    (hflags : interface.Flags environment truth) (hvalid : selection.Valid interface environment)
    (start : ∀ argument ∈ selection.render.head?,
      (interface.model environment).findCommand argument = none) :
    ∃ found, (interface.program environment).parse selection.render = .options found ∧
      interface.Shows environment (selection.values truth) found := by
  have hsound := Interface.sound_of_ofDeclaration accepted
  have hparse := (Interface.parse_eq_options_iff hsound).mpr
    ⟨Reader.exists_readAll start, Selection.flawless_render hsound hflags hvalid, rfl⟩
  refine ⟨_, hparse, (Interface.shows_of_parse hsound hparse).congr ?_⟩
  intro slot base hbase
  exact Selection.values_render hsound hflags hvalid hbase

end RoundTrip

/-! ### A selection -/

namespace Sample

/-- A selection with texts that look like options. -/
def archiveSelection : Selection Scalar where
  groups :=
    [⟨3, ⟨base "tag" (some (.sequence .list)) "String" false, .both "tag" 't'⟩, .short 't',
      .texts ("=-x", .text "=-x") [("", .text ""), ("-1", .text "-1")]⟩,
     ⟨1, ⟨base "color" (some .nullable) "bool" false, .long "color"⟩, .long "color",
      .explicit false⟩,
     ⟨2, ⟨base "level" none "i32" true, .both "level" 'l'⟩, .long "level",
      .texts ("-7", .integer (-7)) []⟩,
     ⟨0, ⟨base "verbose" none "bool" false, .both "verbose" 'v'⟩, .short 'v', .set⟩]
  parameters := [("--level", .text "--level"), ("-x", .text "-x")]
  rest := [("--", .text "--")]

lemma flags_archive :
    archiveInterface.Flags archiveEnvironment fun _ value => .bool value := by
  intro field hfield hflag value
  fin_cases hfield
  · cases value <;> rfl
  · cases value <;> rfl
  · exact absurd hflag (by decide)
  · exact absurd hflag (by decide)

lemma valid_archiveSelection : archiveSelection.Valid archiveInterface archiveEnvironment where
  groups := by
    intro group hgroup
    fin_cases hgroup
    · refine ⟨rfl, rfl, rfl, ?_, .inl rfl, ?_⟩
      · intro pair hpair
        fin_cases hpair <;> rfl
      · decide
    · exact ⟨rfl, rfl, rfl⟩
    · refine ⟨rfl, rfl, rfl, ?_, .inr rfl, by simp⟩
      intro pair hpair
      fin_cases hpair
      rfl
    · exact ⟨rfl, rfl, rfl⟩
  once := by decide
  required := by
    intro place field hfield hrequired
    match place with
    | 0 | 1 | 3 =>
      obtain rfl := Option.some.inj hfield
      exact absurd hrequired (by decide)
    | 2 => exact ⟨_, List.getElem_mem (by decide : 2 < archiveSelection.groups.length), rfl⟩
    | _ + 4 => simp [archiveInterface] at hfield
  few := by decide
  enough := by decide
  parameters := by
    intro place pair field hpair hfield
    match place with
    | 0 | 1 =>
      obtain rfl := Option.some.inj hpair
      obtain rfl := Option.some.inj hfield
      rfl
    | _ + 2 => simp [archiveInterface] at hfield
  collected := fun _ => ⟨rfl, rfl⟩
  rest := by
    intro pair hpair field hfield
    obtain rfl := List.mem_singleton.mp hpair
    obtain rfl := Option.some.inj hfield
    rfl

/-- Options in another order, texts that look like options, and an empty text. -/
theorem parse_render_archive :
    let record : Record Scalar :=
      [("verbose", .single (.bool true)), ("color", .nullable (some (.bool false))),
        ("level", .single (.integer (-7))),
        ("tag", .sequence [.text "=-x", .text "", .text "-1"]),
        ("source", .single (.text "--level")), ("target", .nullable (some (.text "-x"))),
        ("rest", .sequence [.text "--"])]
    archiveSelection.render = ["-t=-x", "", "-1", "--color", "false", "--level=-7", "-v", "--",
      "--level", "-x", "--"] ∧
    archiveProgram.parse archiveSelection.render = .options record ∧
    archiveInterface.Shows archiveEnvironment (archiveSelection.values fun _ value => .bool value)
      record := by
  intro record
  have hrecord : archiveProgram.parse archiveSelection.render = .options record := rfl
  obtain ⟨found, hparse, hshows⟩ :=
    parse_render ofDeclaration_archive flags_archive valid_archiveSelection (by decide)
  obtain rfl := Outcome.options.inj (hparse.symm.trans hrecord)
  exact ⟨by decide, hrecord, hshows⟩

end Sample

end CommandLine
