import CommandLine.Proofs.Context
import CommandLine.Proofs.Move
import CommandLine.Proofs.Rendering
import CommandLine.Sample.Archive

/-!
# Spellings of the same

An option can be given its value in the same argument or in the next one, and flags can be written
one by one or in a cluster that any option may end. All these spellings are interchangeable: nothing
before or after them, no repetition and no value that is refused tells them apart.
-/

namespace CommandLine

section Spelling

variable {α : Type} {interface : Interface} {environment : Environment α}

/-! ### Options of an interface -/

/-- A mention that tells the truth is one of a field. -/
lemma Interface.exists_field_of_mentions {mention : Mention}
    (h : (interface.model environment).Mentions mention) :
    ∃ field, interface.options[mention.option]? = some field ∧
      mention.kind = field.base.kind environment ∧
      match mention.name with
      | .long text => field.tags.long? = some text
      | .short letter => field.tags.short? = some letter := by
  obtain ⟨option, hoption, htag⟩ := h.tagged
  have hkind := h.kind
  simp only [hoption, Option.map_some, Option.some.injEq] at hkind
  obtain ⟨field, hfield, rfl⟩ := option_eq_some_iff.mp hoption
  exact ⟨field, hfield, hkind.symm, htag⟩

/-- A long tag is written and found as it is. -/
lemma Interface.long_of_mentions (hsound : interface.Sound) {mention : Mention}
    (h : (interface.model environment).Mentions mention) {name : String}
    (hname : mention.name = .long name) :
    name ≠ "" ∧ '=' ∉ name.toList ∧
      (interface.model environment).mentionLong? name = some mention := by
  obtain ⟨field, hfield, hkind, htag⟩ := exists_field_of_mentions h
  simp only [hname] at htag
  have hmention : mention = ⟨mention.option, field.base.kind environment, .long name⟩ := by
    rw [← hkind, ← hname]
  obtain ⟨hnonempty, hequals⟩ := Field.spelling_of_checkLong
    ((hsound.options field (List.mem_of_getElem? hfield)).2.long name htag)
  refine ⟨hnonempty, hequals, ?_⟩
  rw [mentionLong?_of_field hsound hfield htag, ← hmention]

/-- A short tag is a letter and is found as it is. -/
lemma Interface.short_of_mentions (hsound : interface.Sound) {mention : Mention}
    (h : (interface.model environment).Mentions mention) {letter : Char}
    (hname : mention.name = .short letter) :
    letter ≠ '-' ∧ Text.isAlphabetic letter = true ∧
      (interface.model environment).mentionShort? letter = some mention := by
  obtain ⟨field, hfield, hkind, htag⟩ := exists_field_of_mentions h
  simp only [hname] at htag
  have hmention : mention = ⟨mention.option, field.base.kind environment, .short letter⟩ := by
    rw [← hkind, ← hname]
  obtain ⟨hhyphen, hletter⟩ := Field.spelling_of_checkShort
    ((hsound.options field (List.mem_of_getElem? hfield)).2.short letter htag)
  refine ⟨hhyphen, hletter, ?_⟩
  rw [mentionShort?_of_field hsound hfield htag, ← hmention]

/-! ### Options as arguments -/

/-- A text that can be written in the same argument as a tag. A short tag takes no empty one, and no
text at all if its option is a flag. -/
def Mention.Joins (mention : Mention) (inline : Option String) : Prop :=
  ∀ letter, mention.name = .short letter →
    inline ≠ some "" ∧ (mention.kind.isFlag = true → inline = none)

/-- Every letter is the short tag of a flag. -/
def Model.AreFlags (model : Model) (letters : List Char) : Prop :=
  ∀ letter ∈ letters, ∃ flag, model.Mentions flag ∧ flag.name = .short letter ∧
    flag.kind.isFlag = true

lemma Mention.joins_none (mention : Mention) : mention.Joins none := by
  intro letter _
  exact ⟨by simp, fun _ => rfl⟩

/-- What is left of a cluster can be empty, and a flag must leave nothing. -/
lemma Mention.joins_rest {mention : Mention} {rest : String}
    (h : mention.kind.isFlag = true → rest = "") :
    mention.Joins (if rest = "" then none else some rest) := by
  by_cases hempty : rest = ""
  · rw [if_pos hempty]
    exact mention.joins_none
  · rw [if_neg hempty]
    intro letter _
    exact ⟨fun hsome => hempty (Option.some.inj hsome), fun hflag => absurd (h hflag) hempty⟩

lemma getD_rest (rest : String) : (if rest = "" then none else some rest).getD "" = rest := by
  by_cases hempty : rest = ""
  · rw [if_pos hempty, hempty]
    rfl
  · rw [if_neg hempty]
    rfl

lemma Interface.exists_flag (hsound : interface.Sound) {letter : Char} {others : List Char}
    (h : (interface.model environment).AreFlags (letter :: others)) :
    (∃ flag, (interface.model environment).Mentions flag ∧ flag.name = .short letter ∧
      flag.kind.isFlag = true ∧
      (interface.model environment).mentionShort? letter = some flag) ∧
    (interface.model environment).AreFlags others := by
  obtain ⟨flag, hmentions, hname, hflag⟩ := h letter (by simp)
  obtain ⟨-, -, hknown⟩ := short_of_mentions hsound hmentions hname
  exact ⟨⟨flag, hmentions, hname, hflag, hknown⟩,
    fun other hother => h other (List.mem_cons_of_mem _ hother)⟩

namespace Reader

variable {mention : Mention} {inline : Option String} {reader : Reader}

lemma isLoose_head (hsound : interface.Sound)
    (h : (interface.model environment).Mentions mention) (inline : Option String) :
    isLoose (mention.name.head inline) = false := by
  rw [isLoose]
  cases hname : mention.name with
  | long name =>
    obtain ⟨hnonempty, hequals, -⟩ := Interface.long_of_mentions hsound h hname
    rw [classify_head_long hnonempty hequals]
    rfl
  | short letter =>
    obtain ⟨hhyphen, hletter, -⟩ := Interface.short_of_mentions hsound h hname
    obtain ⟨cluster, hclassify, -⟩ := classify_head_short hhyphen hletter inline
    rw [hclassify]
    rfl

/-- At the end of a cluster an option takes all that is left, if anything is. -/
lemma cluster_last {model : Model} {letter : Char} (hname : mention.name = .short letter)
    (hknown : model.mentionShort? letter = some mention) (hjoins : mention.Joins inline)
    (argument : String) (reader : Reader) :
    cluster model argument reader ((letter, inline.getD "") :: splits (inline.getD "").toList) =
      (reader.expecting .fresh).occur mention inline := by
  obtain ⟨hne, hnone⟩ := hjoins letter hname
  cases hflag : mention.kind.isFlag with
  | true =>
    rw [cluster_cons_of_isFlag hknown hflag, hnone hflag]
    simp [splits, cluster]
  | false =>
    rw [cluster_cons_of_not_isFlag hknown hflag]
    cases inline with
    | none => rfl
    | some text =>
      have htext : text ≠ "" := fun hempty => hne (by rw [hempty])
      simp [htext]

/-- If nothing that is pending is missed, an option that is written with its tag occurs, and that is
all. -/
lemma read_head (hsound : interface.Sound)
    (h : (interface.model environment).Mentions mention) (hjoins : mention.Joins inline)
    (hverbatim : reader.expectation ≠ .verbatim) (hquiet : reader.abandoned = []) :
    read (interface.model environment) reader (mention.name.head inline) =
      (reader.expecting .fresh).occur mention inline := by
  rw [read_of_ne_verbatim hverbatim]
  cases hname : mention.name with
  | long name =>
    obtain ⟨hnonempty, hequals, hknown⟩ := Interface.long_of_mentions hsound h hname
    rw [classify_head_long hnonempty hequals]
    simp only [readToken, hquiet, if_neg hnonempty, List.nil_append, long_of_mentionLong? hknown]
  | short letter =>
    obtain ⟨hhyphen, hletter, hknown⟩ := Interface.short_of_mentions hsound h hname
    obtain ⟨letters, hclassify, hoptions⟩ := classify_head_short hhyphen hletter inline
    rw [hclassify]
    simp only [readToken, hquiet, List.nil_append, hoptions, cluster_last hname hknown hjoins]
    rfl

/-! ### Values -/

/-- A value in the same argument and one in the next argument are the same. -/
lemma interchangeable_value (hsound : interface.Sound)
    (h : (interface.model environment).Mentions mention) (hflag : mention.kind.isFlag = false)
    {text : String} (hloose : isLoose text = true) (hjoins : mention.Joins (some text)) :
    Interchangeable (interface.model environment) [mention.name.head (some text)]
      [mention.name.head none, text] := by
  apply interchangeable_of_fresh ⟨_, rfl, isLoose_head hsound h _⟩ ⟨_, rfl, isLoose_head hsound h _⟩
  intro reader hfresh
  have hverbatim : reader.expectation ≠ .verbatim := by simp [hfresh]
  have hquiet : reader.abandoned = [] := by simp [abandoned, hfresh]
  have hnullable : mention.kind.isNullableFlag = false := by simp [ValueKind.isNullableFlag, hflag]
  have hwaits : ((reader.expecting .fresh).occur mention none).1.expectation =
      .value mention false := by
    rw [expectation_occur rfl, awaits, hflag]
    rfl
  rw [readMany_cons, readMany_cons, readMany_cons, read_head hsound h hjoins hverbatim hquiet,
    read_head hsound h mention.joins_none hverbatim hquiet,
    read_of_isLoose _ hloose (by simp [hwaits]), positional_of_value hwaits (.inl hnullable)]
  simp [occur, begin, take, hflag, hnullable, expecting]

/-! ### Clusters -/

/-- A flag leaves nothing pending that would be missed. -/
lemma occur_of_isFlag (hflag : mention.kind.isFlag = true) (hfresh : reader.expectation = .fresh) :
    (reader.occur mention none).1.expectation ≠ .verbatim ∧
      (reader.occur mention none).1.abandoned = [] := by
  have hwaits := expectation_occur hfresh mention none
  constructor
  · rw [hwaits]
    exact awaits_ne_verbatim mention none
  · rw [abandoned, hwaits, awaits, if_pos hflag]
    split_ifs with hnullable
    · simp [hnullable.1]
    · rfl

section Clusters

variable {letters : List Char} {letter : Char} (hsound : interface.Sound)
  (hletters : (interface.model environment).AreFlags letters)
  (hlast : (interface.model environment).Mentions mention) (hname : mention.name = .short letter)

include hsound hletters hlast hname

/-- The letters of flags in a cluster, and then an option, are read like arguments of their own. -/
lemma cluster_eq_readMany (hjoins : mention.Joins inline) (argument : String)
    (hverbatim : reader.expectation ≠ .verbatim) (hquiet : reader.abandoned = []) :
    cluster (interface.model environment) argument reader
        (splits (letters ++ letter :: (inline.getD "").toList)) =
      readMany (interface.model environment) reader
        (letters.map (fun letter => (OptionName.short letter).head none) ++
          [mention.name.head inline]) := by
  induction letters generalizing reader with
  | nil =>
    obtain ⟨-, -, hknown⟩ := Interface.short_of_mentions hsound hlast hname
    rw [List.map_nil, List.nil_append, List.nil_append, readMany_cons, readMany_nil,
      read_head hsound hlast hjoins hverbatim hquiet, splits, String.ofList_toList,
      cluster_last hname hknown hjoins]
    simp
  | cons first others ih =>
    obtain ⟨⟨flag, hmentions, hfirst, hflag, hknown⟩, hrest⟩ :=
      Interface.exists_flag hsound hletters
    have hread := read_head hsound hmentions flag.joins_none hverbatim hquiet
    rw [hfirst] at hread
    obtain ⟨hopen, hnext⟩ := occur_of_isFlag hflag (expectation_expecting reader .fresh)
    rw [List.map_cons, List.cons_append, List.cons_append, readMany_cons, hread, splits,
      cluster_cons_of_isFlag hknown hflag, ← ih hrest hopen hnext]

/-- The option that ends a cluster decides what is expected after it. -/
lemma expectation_cluster (hjoins : mention.Joins inline) (argument : String) (reader : Reader) :
    (cluster (interface.model environment) argument reader
      (splits (letters ++ letter :: (inline.getD "").toList))).1.expectation =
        awaits mention inline := by
  induction letters generalizing reader with
  | nil =>
    obtain ⟨-, -, hknown⟩ := Interface.short_of_mentions hsound hlast hname
    rw [List.nil_append, splits, String.ofList_toList, cluster_last hname hknown hjoins,
      expectation_occur rfl]
  | cons first others ih =>
    obtain ⟨⟨flag, -, -, hflag, hknown⟩, hrest⟩ := Interface.exists_flag hsound hletters
    rw [List.cons_append, splits, cluster_cons_of_isFlag hknown hflag]
    exact ih hrest _

lemma classify_letters (rest : List Char) :
    ∃ body, classify ("-" ++ String.ofList (letters ++ letter :: rest)) = .short body ∧
      body.options = splits (letters ++ letter :: rest) := by
  cases letters with
  | nil =>
    obtain ⟨hhyphen, hletter, -⟩ := Interface.short_of_mentions hsound hlast hname
    exact classify_cluster hhyphen hletter rest
  | cons first others =>
    obtain ⟨⟨flag, hmentions, hfirst, -⟩, -⟩ := Interface.exists_flag hsound hletters
    obtain ⟨hhyphen, hletter, -⟩ := Interface.short_of_mentions hsound hmentions hfirst
    exact classify_cluster hhyphen hletter (others ++ letter :: rest)

lemma expectation_read_letters (hjoins : mention.Joins inline)
    (hverbatim : reader.expectation ≠ .verbatim) :
    (read (interface.model environment) reader
      ("-" ++ String.ofList (letters ++ letter :: (inline.getD "").toList))).1.expectation =
        awaits mention inline := by
  obtain ⟨body, hclassify, hoptions⟩ :=
    classify_letters hsound hletters hlast hname (inline.getD "").toList
  rw [read_of_ne_verbatim hverbatim, hclassify]
  simp only [readToken, hoptions]
  exact expectation_cluster hsound hletters hlast hname hjoins _ _

/-- A cluster of flags that an option ends is the same as its parts. -/
lemma interchangeable_cluster (hjoins : mention.Joins inline) :
    Interchangeable (interface.model environment)
      ["-" ++ String.ofList (letters ++ letter :: (inline.getD "").toList)]
      (letters.map (fun letter => (OptionName.short letter).head none) ++
        [mention.name.head inline]) := by
  obtain ⟨body, hclassify, hoptions⟩ :=
    classify_letters hsound hletters hlast hname (inline.getD "").toList
  have hloose : isLoose ("-" ++ String.ofList (letters ++ letter :: (inline.getD "").toList)) =
      false := by
    rw [isLoose, hclassify]
    rfl
  apply interchangeable_of_fresh ⟨_, rfl, hloose⟩
  · cases letters with
    | nil => exact ⟨_, rfl, isLoose_head hsound hlast inline⟩
    | cons first others =>
      obtain ⟨⟨flag, hmentions, hfirst, -⟩, -⟩ := Interface.exists_flag hsound hletters
      have hflag := isLoose_head hsound hmentions none
      rw [hfirst] at hflag
      exact ⟨_, rfl, hflag⟩
  · intro reader hfresh
    have hverbatim : reader.expectation ≠ .verbatim := by simp [hfresh]
    have hquiet : reader.abandoned = [] := by simp [abandoned, hfresh]
    have hsame : reader.expecting .fresh = reader := by rw [expecting, ← hfresh]
    have hparts := cluster_eq_readMany hsound hletters hlast hname hjoins
      ("-" ++ String.ofList (letters ++ letter :: (inline.getD "").toList)) hverbatim hquiet
    rw [← hparts, readMany_cons, readMany_nil, List.append_nil, read_of_ne_verbatim hverbatim,
      hclassify]
    simp only [readToken, hsame, hquiet, hoptions, List.nil_append]

end Clusters

end Reader

end Spelling

/-! ### Programs -/

namespace Interface

variable {α : Type} {interface : Interface} {environment : Environment α}

/-- In a program of an accepted declaration, a value of an option that is no flag can be written in
the same argument as the tag or, if it looks positional, in the next one. Both come to the same
options or to the same errors in the same order, whatever stands before (but a `--`) and after them.
Behind a short tag the value is not empty. -/
theorem parse_inline_eq_separate {declaration : Declaration}
    (accepted : Interface.ofDeclaration declaration = .ok interface) {mention : Mention}
    (hmentions : (interface.model environment).Mentions mention)
    (hflag : mention.kind.isFlag = false) {text : String}
    (hshape : classify text = .positional text)
    (hnonempty : ∀ letter, mention.name = .short letter → text ≠ "") {before after : List String}
    (hopen : "--" ∉ before) :
    let program := interface.program environment
    let inline := before ++ mention.name.head (some text) :: after
    let separate := before ++ mention.name.head none :: text :: after
    (∀ argument ∈ inline.head?, program.model.findCommand argument = none) →
    (∀ argument ∈ separate.head?, program.model.findCommand argument = none) →
    program.parse inline = program.parse separate := by
  intro program inline separate startInline startSeparate
  have hloose : isLoose text = true := by
    rw [isLoose, hshape]
    rfl
  have hjoins : mention.Joins (some text) := by
    intro letter hname
    refine ⟨fun hempty => hnonempty letter hname (Option.some.inj hempty), fun h => ?_⟩
    rw [hflag] at h
    exact absurd h (by simp)
  have hparts : Reader.Interchangeable program.model [mention.name.head (some text)]
      [mention.name.head none, text] :=
    Reader.interchangeable_value (sound_of_ofDeclaration accepted) hmentions hflag hloose hjoins
  exact Program.parse_congr hparts hopen startInline startSeparate

/-- A sequence takes further values, and the value of a repeated option is refused. -/
theorem inline_archive :
    let tag : Mention := ⟨3, ⟨.sequence, .text⟩, .long "tag"⟩
    let level : Mention := ⟨2, ⟨.single, .integer 32 true⟩, .short 'l'⟩
    Interface.ofDeclaration Sample.archive = .ok Sample.archiveInterface ∧
      Sample.archiveProgram.model.Mentions tag ∧ Sample.archiveProgram.model.Mentions level ∧
      Sample.archiveProgram.parse ["-v", "--level", "--tag=two", "three"] =
        Sample.archiveProgram.parse ["-v", "--level", "--tag", "two", "three"] ∧
      Sample.archiveProgram.parse ["-l3", "-lhigh", "--color"] =
        Sample.archiveProgram.parse ["-l3", "-l", "high", "--color"] := by
  intro tag level
  have htag : (Sample.archiveInterface.model Sample.archiveEnvironment).Mentions tag :=
    ⟨⟨_, rfl, rfl⟩, rfl⟩
  have hlevel : (Sample.archiveInterface.model Sample.archiveEnvironment).Mentions level :=
    ⟨⟨_, rfl, rfl⟩, rfl⟩
  have htwo : classify "two" = .positional "two" := by decide
  have hhigh : classify "high" = .positional "high" := by decide
  have hopen : "--" ∉ ["-v", "--level"] := by decide
  have hopen' : "--" ∉ ["-l3"] := by decide
  refine ⟨Sample.ofDeclaration_archive, htag, hlevel, ?_, ?_⟩
  · exact parse_inline_eq_separate Sample.ofDeclaration_archive htag rfl htwo (by simp) hopen
      (by decide) (by decide)
  · exact parse_inline_eq_separate Sample.ofDeclaration_archive hlevel rfl hhigh (by simp) hopen'
      (by decide) (by decide)

/-- In a program of an accepted declaration, flags before an option in a cluster can be written as
arguments of their own: both come to the same options or to the same errors in the same order,
whatever stands before (but a `--`) and after them. What may follow the cluster depends on its last
option only, so a flag in front of it takes no truth value. A text ends the cluster only if the last
option is no flag. -/
theorem parse_cluster_eq_parts {declaration : Declaration}
    (accepted : Interface.ofDeclaration declaration = .ok interface) {letters : List Char}
    (hletters : (interface.model environment).AreFlags letters) {last : Mention}
    (hlast : (interface.model environment).Mentions last) {letter : Char}
    (hname : last.name = .short letter) {text : String}
    (htext : last.kind.isFlag = true → text = "") {before after : List String}
    (hopen : "--" ∉ before) :
    let program := interface.program environment
    let cluster := "-" ++ String.ofList (letters ++ [letter]) ++ text
    let parts := letters.map (fun flag => "-" ++ String.singleton flag) ++
      ["-" ++ String.singleton letter ++ text]
    (∀ argument ∈ (before ++ cluster :: after).head?,
      program.model.findCommand argument = none) →
    (∀ argument ∈ (before ++ (parts ++ after)).head?,
      program.model.findCommand argument = none) →
    program.parse (before ++ cluster :: after) = program.parse (before ++ (parts ++ after)) ∧
      ∃ reader events,
        Reader.readAll program.model .initial (before ++ [cluster]) = .ok (reader, events) ∧
        reader.expectation = Reader.awaits last (if text = "" then none else some text) := by
  intro program cluster parts startCluster startParts
  have hsound := sound_of_ofDeclaration accepted
  let inline : Option String := if text = "" then none else some text
  have hjoins : last.Joins inline := Mention.joins_rest htext
  have hgetD : inline.getD "" = text := getD_rest text
  have hcluster : cluster =
      "-" ++ String.ofList (letters ++ letter :: (inline.getD "").toList) := by
    rw [hgetD, ← String.toList_inj]
    simp [cluster]
  have hparts : parts = letters.map (fun letter => (OptionName.short letter).head none) ++
      [last.name.head inline] := by
    simp [parts, OptionName.head, hname, hgetD]
  have hsame : Reader.Interchangeable program.model [cluster] parts := by
    rw [hcluster, hparts]
    exact Reader.interchangeable_cluster hsound hletters hlast hname hjoins
  refine ⟨Program.parse_congr hsame hopen startCluster startParts, ?_⟩
  have hhead : (before ++ [cluster]).head? = (before ++ cluster :: after).head? := by
    cases before <;> rfl
  refine ⟨_, _, Reader.readAll_concat (hhead ▸ startCluster), ?_⟩
  rw [hcluster]
  exact Reader.expectation_read_letters hsound hletters hlast hname hjoins
    (Reader.expectation_readMany_ne_verbatim program.model hopen)

/-- A repeated flag is repeated in the cluster, and a sequence that ends it takes further values. -/
theorem cluster_archive :
    let tag : Mention := ⟨3, ⟨.sequence, .text⟩, .short 't'⟩
    Interface.ofDeclaration Sample.archive = .ok Sample.archiveInterface ∧
      Sample.archiveProgram.model.AreFlags ['v', 'v'] ∧
      Sample.archiveProgram.model.Mentions tag ∧
      Sample.archiveProgram.parse ["--verbose", "--color", "-vvtone", "two", "--"] =
        Sample.archiveProgram.parse ["--verbose", "--color", "-v", "-v", "-tone", "two", "--"] ∧
      ∃ reader events,
        Reader.readAll Sample.archiveProgram.model .initial ["--verbose", "--color", "-vvtone"] =
          .ok (reader, events) ∧ reader.expectation = Reader.awaits tag (some "one") := by
  intro tag
  have hflags : (Sample.archiveInterface.model Sample.archiveEnvironment).AreFlags ['v', 'v'] := by
    intro letter hletter
    obtain rfl : letter = 'v' := by simpa using hletter
    exact ⟨⟨0, ⟨.single, .flag⟩, .short 'v'⟩, ⟨⟨_, rfl, rfl⟩, rfl⟩, rfl, rfl⟩
  have htag : (Sample.archiveInterface.model Sample.archiveEnvironment).Mentions tag :=
    ⟨⟨_, rfl, rfl⟩, rfl⟩
  have htext : tag.kind.isFlag = true → "one" = "" := by decide
  have hopen : "--" ∉ ["--verbose", "--color"] := by decide
  have start : ∀ argument ∈ (["--verbose", "--color"] ++ "-vvtone" :: ["two", "--"]).head?,
      (Sample.archiveInterface.model Sample.archiveEnvironment).findCommand argument = none := by
    decide
  obtain ⟨hparse, hreader⟩ := parse_cluster_eq_parts Sample.ofDeclaration_archive hflags htag rfl
    htext hopen start start
  exact ⟨Sample.ofDeclaration_archive, hflags, htag, hparse, hreader⟩

end Interface

end CommandLine
