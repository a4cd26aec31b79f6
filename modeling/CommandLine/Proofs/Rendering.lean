import CommandLine.Proofs.Acceptance
import CommandLine.Proofs.Layout

/-!
# Rendering

A selection says what the fields of an interface are to be given: a choice for some of the options,
texts for the first parameters, and texts for the collector. It is written as a command line option
by option, in any order, and then a `--` with everything positional after it. The layout of this
command line has one piece for every option and one for every positional text.
-/

namespace CommandLine

/-! ### Selections -/

/-- What an option is given. Texts come with their values. -/
inductive Choice (α : Type) where
  /-- A flag that is set. -/
  | set
  /-- A flag with its truth value. -/
  | explicit (value : Bool)
  | texts (first : String × α) (others : List (String × α))

/-- A choice for an option, with the tag by which the option is written. -/
structure Group (α : Type) where
  place : Nat
  field : OptionField
  name : OptionName
  choice : Choice α

structure Selection (α : Type) where
  groups : List (Group α)
  /-- The texts of the first parameters. -/
  parameters : List (String × α)
  /-- The texts of the collector. -/
  rest : List (String × α)

/-- A tag as an argument, perhaps with a text. -/
def OptionName.head : OptionName → Option String → String
  | .long name, none => "--" ++ name
  | .long name, some text => "--" ++ name ++ "=" ++ text
  | .short letter, inline => "-" ++ String.singleton letter ++ inline.getD ""

namespace Group

variable {α : Type} (group : Group α)

/-- The text in the same argument as the tag. A short tag cannot be followed by an empty one. -/
def inline : Option String :=
  match group.choice, group.name with
  | .set, _ | .explicit _, _ => none
  | .texts first _, .long _ => some first.1
  | .texts first _, .short _ => if first.1 = "" then none else some first.1

def followers : List String :=
  match group.choice with
  | .set => []
  | .explicit value => [toString value]
  | .texts first others =>
    if group.inline = none then first.1 :: others.map (·.1) else others.map (·.1)

def clause : Clause :=
  ⟨group.name.head group.inline, group.followers⟩

/-- The values of a choice. The truth values of every type are given. -/
def values (truth : TypeExpr → Bool → α) : List α :=
  match group.choice with
  | .set => [truth group.field.base.shape.scalar true]
  | .explicit value => [truth group.field.base.shape.scalar value]
  | .texts first others => first.2 :: others.map (·.2)

def mention (environment : Environment α) : Mention :=
  ⟨group.place, group.field.base.kind environment, group.name⟩

/-- The choice is one for an option of the interface: the tag is one of its tags, and its kind and
its decoder accept what is chosen. Further texts are for sequences only and look positional. -/
structure Valid (interface : Interface) (environment : Environment α) : Prop where
  field : interface.options[group.place]? = some group.field
  tag : match group.name with
    | .long name => group.field.tags.long? = some name
    | .short letter => group.field.tags.short? = some letter
  choice : match group.choice with
    | .set => (group.field.base.kind environment).isFlag = true
    | .explicit _ => (group.field.base.kind environment).isNullableFlag = true
    | .texts first others => (group.field.base.kind environment).isFlag = false ∧
        (∀ pair ∈ first :: others,
          (environment.decoder group.field.base.shape.scalar).decode pair.1 = .ok pair.2) ∧
        ((group.field.base.kind environment).isSequence = true ∨ others = []) ∧
        ∀ pair ∈ others, isLoose pair.1 = true

end Group

def Selection.render {α : Type} (selection : Selection α) : List String :=
  (selection.groups.flatMap fun group => group.clause.head :: group.clause.followers) ++
    "--" :: (selection.parameters ++ selection.rest).map (·.1)

/-! ### Shapes -/

lemma classify_head_long {name : String} (hname : name ≠ "") (hequals : '=' ∉ name.toList)
    (inline : Option String) :
    classify ((OptionName.long name).head inline) = .long name inline := by
  obtain ⟨first, rest, hchars⟩ : ∃ first rest, name.toList = first :: rest := by
    cases hchars : name.toList with
    | nil => exact absurd (String.toList_eq_nil_iff.mp hchars) hname
    | cons first rest => exact ⟨first, rest, rfl⟩
  cases inline with
  | none =>
    have hcut : Text.cutFirst '=' name.toList = none := Text.cutFirst_eq_none_iff.mpr hequals
    have htoken : classify ("--" ++ name) = .ofLong name.toList := by
      simp [classify, hchars, Token.ofChars]
    rw [OptionName.head, htoken, Token.ofLong, hcut, String.ofList_toList]
  | some text =>
    have hcut : Text.cutFirst '=' (name.toList ++ '=' :: text.toList) =
        some (name.toList, text.toList) := Text.cutFirst_eq_some_iff.mpr ⟨rfl, hequals⟩
    have htoken : classify ("--" ++ name ++ "=" ++ text) =
        .ofLong (name.toList ++ '=' :: text.toList) := by
      simp [classify, hchars, Token.ofChars]
    rw [OptionName.head, htoken, Token.ofLong, hcut]
    simp only [String.ofList_toList]

/-- A letter and what follows it make a cluster. -/
lemma classify_cluster {letter : Char} (hhyphen : letter ≠ '-')
    (hletter : Text.isAlphabetic letter = true) (rest : List Char) :
    ∃ cluster, classify ("-" ++ String.ofList (letter :: rest)) = .short cluster ∧
      cluster.options = splits (letter :: rest) := by
  have htoken : classify ("-" ++ String.ofList (letter :: rest)) = .ofShort (letter :: rest) := by
    simp [classify, Token.ofChars, hhyphen]
  rw [htoken, Token.ofShort, dif_pos (by simp [hletter])]
  exact ⟨_, rfl, by simp [Cluster.options]⟩

lemma classify_head_short {letter : Char} (hhyphen : letter ≠ '-')
    (hletter : Text.isAlphabetic letter = true) (inline : Option String) :
    ∃ cluster, classify ((OptionName.short letter).head inline) = .short cluster ∧
      cluster.options = (letter, inline.getD "") :: splits (inline.getD "").toList := by
  obtain ⟨cluster, hclassify, hoptions⟩ :=
    classify_cluster hhyphen hletter (inline.getD "").toList
  have hhead : (OptionName.short letter).head inline =
      "-" ++ String.ofList (letter :: (inline.getD "").toList) := by
    rw [← String.toList_inj]
    simp [OptionName.head]
  exact ⟨cluster, by rw [hhead, hclassify], by rw [hoptions, splits, String.ofList_toList]⟩

/-! ### Tags -/

/-- If all keys are different, a key is found where it is. -/
lemma findIdx?_of_nodup {β γ : Type} [DecidableEq γ] {f : β → Option γ} {list : List β}
    (hnodup : (list.filterMap f).Nodup) {place : Nat} {x : β} {key : γ}
    (hx : list[place]? = some x) (hkey : f x = some key) :
    list.findIdx? (fun y => decide (f y = some key)) = some place := by
  induction list generalizing place with
  | nil => simp at hx
  | cons first rest ih =>
    rw [List.findIdx?_cons]
    cases place with
    | zero =>
      obtain rfl : first = x := by simpa using hx
      rw [if_pos (decide_eq_true hkey)]
    | succ place =>
      have hrest : rest[place]? = some x := by simpa using hx
      have hother : f first ≠ some key := by
        intro hfirst
        rw [List.filterMap_cons_some hfirst, List.nodup_cons] at hnodup
        exact hnodup.1 (List.mem_filterMap.mpr ⟨x, List.mem_of_getElem? hrest, hkey⟩)
      have htail : (rest.filterMap f).Nodup := by
        rw [List.filterMap_cons] at hnodup
        split at hnodup
        · exact hnodup
        · exact (List.nodup_cons.mp hnodup).2
      rw [if_neg (by simpa using hother), ih htail hrest]
      rfl

section Valid

variable {α : Type} {interface : Interface} {environment : Environment α} {group : Group α}

/-- An option is found by its long tag. -/
lemma Interface.findLong_of_field (hsound : interface.Sound) {place : Nat} {field : OptionField}
    (hfield : interface.options[place]? = some field) {name : String}
    (htag : field.tags.long? = some name) :
    (interface.model environment).findLong name = some place := by
  rw [Model.findLong, Interface.model, List.findIdx?_map]
  exact findIdx?_of_nodup hsound.longs hfield htag

lemma Interface.mentionLong?_of_field (hsound : interface.Sound) {place : Nat} {field : OptionField}
    (hfield : interface.options[place]? = some field) {name : String}
    (htag : field.tags.long? = some name) :
    (interface.model environment).mentionLong? name =
      some ⟨place, field.base.kind environment, .long name⟩ := by
  rw [Model.mentionLong?, findLong_of_field hsound hfield htag, Option.bind_some]
  simp [Model.mention?, Interface.model, hfield, OptionField.spec]

/-- An option is found by its short tag. -/
lemma Interface.findShort_of_field (hsound : interface.Sound) {place : Nat} {field : OptionField}
    (hfield : interface.options[place]? = some field) {letter : Char}
    (htag : field.tags.short? = some letter) :
    (interface.model environment).findShort letter = some place := by
  rw [Model.findShort, Interface.model, List.findIdx?_map]
  exact findIdx?_of_nodup hsound.shorts hfield htag

lemma Interface.mentionShort?_of_field (hsound : interface.Sound) {place : Nat}
    {field : OptionField} (hfield : interface.options[place]? = some field) {letter : Char}
    (htag : field.tags.short? = some letter) :
    (interface.model environment).mentionShort? letter =
      some ⟨place, field.base.kind environment, .short letter⟩ := by
  rw [Model.mentionShort?, findShort_of_field hsound hfield htag, Option.bind_some]
  simp [Model.mention?, Interface.model, hfield, OptionField.spec]

/-! ### Clauses -/

lemma Group.inline_of_isFlag (hvalid : group.Valid interface environment)
    (hflag : (group.field.base.kind environment).isFlag = true) : group.inline = none := by
  have hchoice := hvalid.choice
  rw [inline]
  cases hc : group.choice with
  | set => rfl
  | explicit value => rfl
  | texts first others =>
    rw [hc] at hchoice
    simp [hflag] at hchoice

lemma Group.inline_ne_empty {letter : Char} (hname : group.name = .short letter) :
    group.inline ≠ some "" := by
  rw [inline]
  cases hc : group.choice with
  | set => simp
  | explicit value => simp
  | texts first others =>
    simp only [hname]
    split_ifs with hempty
    · simp
    · simpa using hempty

/-- The tag by itself is one mention of the option. -/
lemma Group.headPieces_clause (hsound : interface.Sound)
    (hvalid : group.Valid interface environment) :
    isLoose group.clause.head = false ∧ group.clause.head ≠ "--" ∧
      (interface.model environment).headPieces group.clause.head (classify group.clause.head) =
        [.option (group.mention environment) group.inline []] := by
  have hfield := List.mem_of_getElem? hvalid.field
  have hshape {token : Token} (hclassify : classify group.clause.head = token)
      (hloose : token.isPositional = false) (hterminator : token ≠ .terminator) :
      isLoose group.clause.head = false ∧ group.clause.head ≠ "--" := by
    refine ⟨by rw [isLoose, hclassify, hloose], fun h => hterminator ?_⟩
    rw [← hclassify, classify_eq_terminator_iff.mpr h]
  cases hname : group.name with
  | long name =>
    have htag : group.field.tags.long? = some name := by simpa [hname] using hvalid.tag
    obtain ⟨hnonempty, hequals⟩ :=
      Field.spelling_of_checkLong ((hsound.options group.field hfield).2.long name htag)
    have hclassify : classify group.clause.head = .long name group.inline := by
      rw [Group.clause, hname]
      exact classify_head_long hnonempty hequals group.inline
    obtain ⟨hloose, hterminator⟩ := hshape hclassify rfl (by simp)
    refine ⟨hloose, hterminator, ?_⟩
    have hmention : group.mention environment =
        ⟨group.place, group.field.base.kind environment, .long name⟩ := by rw [Group.mention, hname]
    rw [hclassify, Model.headPieces, if_neg hnonempty,
      Interface.mentionLong?_of_field hsound hvalid.field htag, hmention]
  | short letter =>
    have htag : group.field.tags.short? = some letter := by simpa [hname] using hvalid.tag
    obtain ⟨hhyphen, hletter⟩ :=
      Field.spelling_of_checkShort ((hsound.options group.field hfield).2.short letter htag)
    obtain ⟨cluster, hclassify, hoptions⟩ := classify_head_short hhyphen hletter group.inline
    have hclassify : classify group.clause.head = .short cluster := by
      rw [Group.clause, hname]
      exact hclassify
    obtain ⟨hloose, hterminator⟩ := hshape hclassify rfl (by simp)
    refine ⟨hloose, hterminator, ?_⟩
    have hmention : group.mention environment =
        ⟨group.place, group.field.base.kind environment, .short letter⟩ := by
      rw [Group.mention, hname]
    rw [hclassify, Model.headPieces, hoptions, Model.clusterPieces,
      Interface.mentionShort?_of_field hsound hvalid.field htag, ← hmention]
    cases hflag : (group.mention environment).kind.isFlag with
    | true =>
      simp [Group.inline_of_isFlag hvalid hflag, splits, Model.clusterPieces, hflag]
    | false =>
      have hne := Group.inline_ne_empty hname
      cases hinline : group.inline with
      | none => simp [hflag]
      | some text =>
        have htext : text ≠ "" := fun h => hne (by rw [hinline, h])
        simp [hflag, htext]

lemma Group.isLoose_of_mem_followers (hvalid : group.Valid interface environment) :
    ∀ text ∈ group.clause.followers, isLoose text = true := by
  have hchoice := hvalid.choice
  rw [clause, followers]
  cases hc : group.choice with
  | set => simp
  | explicit value => cases value <;> simp <;> decide
  | texts first others =>
    rw [hc] at hchoice
    have hothers : ∀ text ∈ others.map (·.1), isLoose text = true := by
      intro text htext
      obtain ⟨pair, hpair, rfl⟩ := List.mem_map.mp htext
      exact hchoice.2.2.2 pair hpair
    dsimp only
    split_ifs with hinline
    · have hempty : first.1 = "" := by
        cases hname : group.name with
        | long name => simp [inline, hc, hname] at hinline
        | short letter => simpa [inline, hc, hname] using hinline
      intro text htext
      rcases List.mem_cons.mp htext with rfl | hlater
      · rw [hempty]
        decide
      · exact hothers text hlater
    · exact hothers

/-- An option takes all arguments that are written for it. -/
lemma Group.appetite_followers (hvalid : group.Valid interface environment) :
    (Piece.option (group.mention environment) group.inline []).appetite group.followers =
      group.followers.length := by
  have hchoice := hvalid.choice
  rw [followers]
  cases hc : group.choice with
  | set =>
    rw [hc] at hchoice
    have hflag : (group.mention environment).kind.isFlag = true := hchoice
    simp [Piece.appetite, hflag]
  | explicit value =>
    rw [hc] at hchoice
    have hflag := ValueKind.isFlag_of_isNullableFlag hchoice
    have htruth : (Decoder.truth? (toString value)).isSome = true := by cases value <;> decide
    simp [Piece.appetite, mention, inline_of_isFlag hvalid hflag, hflag, hchoice, htruth]
  | texts first others =>
    rw [hc] at hchoice
    obtain ⟨hflag, -, hmany, -⟩ := hchoice
    cases hsequence : (group.field.base.kind environment).isSequence with
    | true => simp [Piece.appetite, mention, hflag, hsequence]
    | false =>
      obtain rfl : others = [] := by simpa [hsequence] using hmany
      by_cases hinline : group.inline = none <;>
        simp [Piece.appetite, mention, hflag, hsequence, hinline]

def Group.piece (group : Group α) (environment : Environment α) : Piece :=
  .option (group.mention environment) group.inline group.followers

lemma Group.clausePieces_clause (hsound : interface.Sound)
    (hvalid : group.Valid interface environment) :
    (interface.model environment).clausePieces group.clause = [group.piece environment] := by
  rw [Model.clausePieces, (headPieces_clause hsound hvalid).2.2]
  have happetite := appetite_followers hvalid
  simp [Piece.attach, Piece.taking, clause, happetite, piece]

/-! ### Layout -/

/-- Every choice is a clause of its own. -/
lemma clauses_groups (hsound : interface.Sound) {groups : List (Group α)}
    (hvalid : ∀ group ∈ groups, group.Valid interface environment) :
    clauses (groups.flatMap fun group => group.clause.head :: group.clause.followers) =
      ([], groups.map (·.clause)) := by
  induction groups with
  | nil => rfl
  | cons group rest ih =>
    have hfirst := hvalid group (by simp)
    have hrest := ih fun other hother => hvalid other (by simp [hother])
    rw [List.flatMap_cons, clauses_clause (Group.headPieces_clause hsound hfirst).1
      (Group.isLoose_of_mem_followers hfirst) (by rw [hrest]), hrest]
    rfl

lemma not_mem_groups (hsound : interface.Sound) {groups : List (Group α)}
    (hvalid : ∀ group ∈ groups, group.Valid interface environment) :
    "--" ∉ groups.flatMap fun group => group.clause.head :: group.clause.followers := by
  intro hmem
  obtain ⟨group, hgroup, hargument⟩ := List.mem_flatMap.mp hmem
  rcases List.mem_cons.mp hargument with hhead | hfollower
  · exact (Group.headPieces_clause hsound (hvalid group hgroup)).2.1 hhead.symm
  · have hloose := Group.isLoose_of_mem_followers (hvalid group hgroup) "--" hfollower
    simp [isLoose, classify_eq_terminator_iff.mpr rfl, Token.isPositional] at hloose

/-- The layout of a rendered selection: its choices, and then what is positional. -/
theorem layout_render (hsound : interface.Sound) {selection : Selection α}
    (hvalid : ∀ group ∈ selection.groups, group.Valid interface environment) :
    (interface.model environment).layout selection.render =
      selection.groups.map (·.piece environment) ++
        (selection.parameters ++ selection.rest).map fun pair => .positional pair.1 := by
  obtain ⟨hbefore, hafter⟩ := cut_of_not_mem (not_mem_groups hsound hvalid)
    ((selection.parameters ++ selection.rest).map (·.1))
  have hpieces : (selection.groups.map (·.clause)).flatMap
      (interface.model environment).clausePieces = selection.groups.map (·.piece environment) := by
    rw [List.flatMap_map, List.map_eq_flatMap]
    exact List.flatMap_congr fun group hgroup =>
      Group.clausePieces_clause hsound (hvalid group hgroup)
  rw [Selection.render, Model.layout, hbefore, hafter, Model.openPieces,
    clauses_groups hsound hvalid, hpieces]
  simp [Function.comp_def]

end Valid

end CommandLine
