import CommandLine.Proofs.Repetition
import CommandLine.Proofs.Source
import Mathlib.Tactic.FinCases

/-!
# Genuine errors

No error is spurious: whatever a run reports can be pointed at in the command line. An error about
an option names an argument before the first `--` and the tag that is written in it, an error about
a value names a text of the command line that its field refuses, and an error about something
missing names a required field that is given nothing.
-/

namespace CommandLine

/-! ### What errors say -/

namespace Model

/-- The model has no option that is written like this. -/
def Lacks (model : Model) (name : OptionName) : Prop :=
  ∀ place, ¬ model.Tagged place name

/-- The text is a value of the option in this spelling: a whole argument, or what follows the first
equals sign of a long option, or the rest of a cluster. -/
inductive Supplies (arguments : List String) (text : String) : OptionName → Prop
  | whole {name : OptionName} (hopen : text ∈ beforeTerminator arguments)
      (hloose : isLoose text = true) : Supplies arguments text name
  | equals {name argument : String} (hopen : argument ∈ beforeTerminator arguments)
      (hshape : classify argument = .long name (some text)) : Supplies arguments text (.long name)
  | cluster {letter : Char} {argument : String} {cluster : Cluster}
      (hopen : argument ∈ beforeTerminator arguments) (hshape : classify argument = .short cluster)
      (hmem : (letter, text) ∈ cluster.options) : Supplies arguments text (.short letter)

end Model

/-- The error is true of the command line. -/
def ParseError.Genuine {α : Type} (interface : Interface) (environment : Environment α)
    (arguments : List String) : ParseError → Prop
  | .unknownOption option argument =>
    argument ∈ beforeTerminator arguments ∧
      ((∃ value, classify argument = .long option value ∧
          (interface.model environment).Lacks (.long option)) ∨
        ∃ cluster letter, classify argument = .short cluster ∧ letter ∈ cluster.body.toList ∧
          option = String.singleton letter ∧ (interface.model environment).Lacks (.short letter))
  | .optionValueMissing option =>
    ∃ before argument after mention, arguments = before ++ argument :: after ∧ "--" ∉ before ∧
      (interface.model environment).Writes argument mention none ∧ mention.name.text = option ∧
      mention.kind.isFlag = false ∧ ∀ next ∈ after.head?, isLoose next = false
  | .badOptionValue value option =>
    ∃ mention : Mention, (interface.model environment).Mentions mention ∧
      mention.name.text = option ∧
      interface.decode? environment (.option mention.option) value = none ∧
      Model.Supplies arguments value mention.name
  | .flagValue option value =>
    "--" ++ option ++ "=" ++ value ∈ beforeTerminator arguments ∧
      ∃ mention : Mention, (interface.model environment).Mentions mention ∧
        mention.name = .long option ∧ mention.kind.isFlag = true
  | .badParameterValue value parameter index =>
    value ∈ arguments ∧ ((interface.model environment).loose arguments)[index]? = some value ∧
      (∃ spec, (interface.model environment).parameters[index]? = some spec ∧
        spec.name = parameter) ∧
      interface.decode? environment (.parameter index) value = none
  | .badRemainingValue value index =>
    value ∈ arguments ∧
      ((interface.model environment).loose arguments)[
        (interface.model environment).parameters.length + index]? = some value ∧
      (interface.model environment).remaining.isSome = true ∧
      interface.decode? environment .remaining value = none
  | .unrecognizedArgument argument =>
    argument ∈ beforeTerminator arguments ∧ (∃ value, classify argument = .long "" value) ∨
      argument ∈ arguments ∧ (interface.model environment).remaining = none ∧
        ∃ number, (interface.model environment).parameters.length ≤ number ∧
          ((interface.model environment).loose arguments)[number]? = some argument
  | .duplicateOption option =>
    ∃ earlier mention later,
      (interface.model environment).occurrences arguments = earlier ++ mention :: later ∧
      mention.name.text = option ∧ ∃ other ∈ earlier, other.option = mention.option
  | .missingOption tags =>
    ∃ place spec, (interface.model environment).options[place]? = some spec ∧ spec.tags = tags ∧
      spec.required = true ∧
      ∀ mention ∈ (interface.model environment).occurrences arguments, mention.option ≠ place
  | .missingParameter parameter index =>
    ∃ spec, (interface.model environment).parameters[index]? = some spec ∧
      spec.name = parameter ∧ spec.required = true ∧
      ((interface.model environment).loose arguments).length ≤ index

/-! ### Looking up in vain -/

namespace Model

variable {model : Model}

/-- Where no option is found, none passes the test. -/
lemma eq_false_of_bind_mention? {name : OptionName} {test : OptionSpec → Bool}
    (h : (model.options.findIdx? test).bind (model.mention? name) = none) :
    ∀ option ∈ model.options, test option = false := by
  cases hfind : model.options.findIdx? test with
  | none => exact List.findIdx?_eq_none_iff.mp hfind
  | some place =>
    have hlt := (List.findIdx?_eq_some_iff_getElem.mp hfind).1
    obtain ⟨mention, hmention, -⟩ := exists_mention? name hlt
    simp [hfind, hmention] at h

lemma lacks_of_mentionLong? {name : String} (h : model.mentionLong? name = none) :
    model.Lacks (.long name) := by
  rintro place ⟨option, hoption, htag⟩
  have hother := eq_false_of_bind_mention? h option (List.mem_of_getElem? hoption)
  exact of_decide_eq_false hother htag

lemma lacks_of_mentionShort? {letter : Char} (h : model.mentionShort? letter = none) :
    model.Lacks (.short letter) := by
  rintro place ⟨option, hoption, htag⟩
  have hother := eq_false_of_bind_mention? h option (List.mem_of_getElem? hoption)
  exact of_decide_eq_false hother htag

end Model

lemma Cluster.mem_of_mem_options {cluster : Cluster} {letter : Char} {rest : String}
    (h : (letter, rest) ∈ cluster.options) : letter ∈ cluster.body.toList := by
  obtain ⟨place, hplace⟩ := List.mem_iff_getElem?.mp h
  rw [options, splits_getElem?] at hplace
  obtain ⟨c, hc, heq⟩ := Option.map_eq_some_iff.mp hplace
  obtain ⟨rfl, -⟩ := Prod.mk.inj heq
  exact List.mem_of_getElem? hc

namespace Model

variable {model : Model} {mention : Mention}

lemma name_of_bind_mention? {name : OptionName} {found : Option Nat}
    (h : found.bind (model.mention? name) = some mention) : mention.name = name := by
  obtain ⟨place, -, hmention⟩ := Option.bind_eq_some_iff.mp h
  obtain ⟨option, -, rfl⟩ := Option.map_eq_some_iff.mp hmention
  rfl

/-- A flag has a text in its own argument only if it is long. -/
lemma Writes.long_of_isFlag {argument text : String}
    (h : model.Writes argument mention (some text)) (hflag : mention.kind.isFlag = true) :
    ∃ name, mention.name = .long name ∧ argument = "--" ++ name ++ "=" ++ text := by
  generalize hinline : some text = inline at h
  cases h with
  | @long name value _ hshape hknown =>
    subst hinline
    refine ⟨name, name_of_bind_mention? hknown, ?_⟩
    rw [← unparse_classify argument, hshape]
    rfl
  | flag => simp at hinline
  | short _ _ _ hnone => simp [hflag] at hnone

lemma Writes.supplies {arguments : List String} {argument text : String}
    (h : model.Writes argument mention (some text))
    (hopen : argument ∈ beforeTerminator arguments) :
    Supplies arguments text mention.name := by
  generalize hinline : some text = inline at h
  cases h with
  | @long name value _ hshape hknown =>
    subst hinline
    rw [name_of_bind_mention? hknown]
    exact .equals hopen hshape
  | flag => simp at hinline
  | @short cluster letter rest _ hshape hmem hknown =>
    split_ifs at hinline
    obtain rfl := Option.some.inj hinline
    rw [name_of_bind_mention? hknown]
    exact .cluster hopen hshape hmem

end Model

/-! ### Pieces to blame -/

namespace Interface

variable {α : Type} {interface : Interface} {environment : Environment α} {arguments : List String}
  {error : ParseError}

/-- The flags among the options accept what they stand for by themselves. -/
def AcceptsTrue (interface : Interface) (environment : Environment α) : Prop :=
  ∀ field ∈ interface.options, (field.base.kind environment).isFlag = true →
    ∃ value, (environment.decoder field.base.shape.scalar).decode "true" = .ok value

lemma decode?_true (hflags : interface.AcceptsTrue environment) {mention : Mention}
    (hmentions : (interface.model environment).Mentions mention)
    (hflag : mention.kind.isFlag = true) :
    interface.decode? environment (.option mention.option) "true" ≠ none := by
  obtain ⟨option, hoption, hkind⟩ := Option.map_eq_some_iff.mp hmentions.kind
  obtain ⟨field, hfield, rfl⟩ := option_eq_some_iff.mp hoption
  rw [← hkind] at hflag
  obtain ⟨value, hvalue⟩ := hflags field (List.mem_of_getElem? hfield) hflag
  simp [decode?, base?, hfield, hvalue, Except.toOption]

/-- The number of a positional piece is that of its text among the positional arguments. -/
lemma loose_getElem? {before after : List Piece} {text : String}
    (h : (interface.model environment).layout arguments =
      before ++ .positional text :: after) :
    ((interface.model environment).loose arguments)[(before.foldl Tally.after
      Tally.zero).positional]? = some text := by
  rw [Model.loose, h, Tally.positional_foldl_zero, List.filterMap_append,
    Piece.filterMap_loose?_positional]
  simp

lemma mem_of_positional {text : String}
    (h : .positional text ∈ (interface.model environment).layout arguments) :
    text ∈ arguments := by
  rcases Piece.stands_of_mem_layout h with ⟨found, hfound, heq⟩ | ⟨clause, hclause, hstands⟩
  · obtain rfl := Piece.positional.inj heq
    exact hfound
  · cases hstands with
    | positional hmem =>
      exact (List.takeWhile_prefix _).subset (hclause.followers text hmem).1

lemma exists_clause_of_option {mention : Mention} {inline : Option String} {taken : List String}
    (h : .option mention inline taken ∈ (interface.model environment).layout arguments) :
    ∃ clause : Clause, clause.Stands arguments ∧
      (interface.model environment).Writes clause.head mention inline ∧
      taken <+: clause.followers ∧
      (mention.kind.isFlag = false → inline = none → taken = [] → clause.followers = []) := by
  rcases Piece.stands_of_mem_layout h with ⟨found, -, heq⟩ | ⟨clause, hclause, hstands⟩
  · simp at heq
  · cases hstands with
    | option hwrites htaken hhungry => exact ⟨clause, hclause, hwrites, htaken, hhungry⟩

lemma genuine_optionValue (hflags : interface.AcceptsTrue environment) {mention : Mention}
    {inline : Option String} {taken : List String} {text : String}
    (h : .option mention inline taken ∈ (interface.model environment).layout arguments)
    (htext : text ∈ mention.texts inline taken)
    (hvalue : interface.decode? environment (.option mention.option) text = none) :
    (ParseError.badOptionValue text mention.name.text).Genuine interface environment arguments := by
  obtain ⟨clause, hclause, hwrites, htaken, -⟩ := exists_clause_of_option h
  refine ⟨mention, hwrites.mentions, rfl, hvalue, ?_⟩
  have hwhole (hmem : text ∈ taken) : Model.Supplies arguments text mention.name := by
    obtain ⟨hopen, hloose⟩ := hclause.followers text (htaken.subset hmem)
    exact .whole hopen hloose
  rw [Mention.texts] at htext
  split_ifs at htext with hflag hinline
  · rcases List.mem_cons.mp htext with rfl | hmem
    · exact absurd hvalue (decode?_true hflags hwrites.mentions hflag)
    · exact hwhole hmem
  · simp at htext
  · rcases List.mem_append.mp htext with hown | hmem
    · obtain rfl : inline = some text := by simpa using hown
      exact hwrites.supplies hclause.head
    · exact hwhole hmem

lemma genuine_unknown {name argument : String} {inline : Option String}
    (h : .unknown name argument inline ∈ (interface.model environment).layout arguments) :
    (ParseError.unknownOption name argument).Genuine interface environment arguments := by
  rcases Piece.stands_of_mem_layout h with ⟨found, -, heq⟩ | ⟨clause, hclause, hstands⟩
  · simp at heq
  · refine ⟨?_, ?_⟩
    · cases hstands <;> exact hclause.head
    · cases hstands with
      | unknownLong hshape hname hunknown =>
        exact .inl ⟨inline, hshape, Model.lacks_of_mentionLong? hunknown⟩
      | @unknownShort cluster letter rest hshape hmem hunknown =>
        exact .inr ⟨cluster, letter, hshape, Cluster.mem_of_mem_options hmem, rfl,
          Model.lacks_of_mentionShort? hunknown⟩

/-- What a piece is to blame for is true of the command line. -/
theorem genuine_of_blamed (hflags : interface.AcceptsTrue environment)
    (h : interface.Blamed environment arguments error) :
    error.Genuine interface environment arguments := by
  obtain ⟨before, piece, after, hlayout, hblames⟩ := id h
  have hpiece : piece ∈ (interface.model environment).layout arguments := by simp [hlayout]
  cases hblames with
  | duplicate => exact blamed_duplicate_iff.mp h
  | flagValue hflag =>
    obtain ⟨clause, hclause, hwrites, -, -⟩ := exists_clause_of_option hpiece
    obtain ⟨name, hname, hhead⟩ := hwrites.long_of_isFlag hflag
    rw [hname]
    exact ⟨hhead ▸ hclause.head, _, hwrites.mentions, hname, hflag⟩
  | valueMissing hflag =>
    obtain ⟨clause, hclause, hwrites, -, hhungry⟩ := exists_clause_of_option hpiece
    obtain ⟨first, rest, hsplit, hopen, hnext⟩ := hclause.split
    rw [hhungry hflag rfl rfl, List.nil_append] at hsplit
    exact ⟨first, clause.head, rest, _, hsplit, hopen, hwrites, rfl, hflag, hnext⟩
  | optionValue htext hvalue => exact genuine_optionValue hflags hpiece htext hvalue
  | unknown => exact genuine_unknown hpiece
  | malformed =>
    rcases Piece.stands_of_mem_layout hpiece with ⟨found, -, heq⟩ | ⟨clause, hclause, hstands⟩
    · simp at heq
    · cases hstands with
      | malformed hshape => exact .inl ⟨hclause.head, _, hshape⟩
  | parameterValue hparameter hvalue =>
    rw [ParseError.Genuine, index_of_parameter hparameter]
    exact ⟨mem_of_positional hpiece, loose_getElem? hlayout, ⟨_, hparameter, rfl⟩, hvalue⟩
  | remainingValue hfull hremaining hvalue =>
    rw [ParseError.Genuine, Nat.add_sub_cancel' hfull]
    exact ⟨mem_of_positional hpiece, loose_getElem? hlayout, hremaining, hvalue⟩
  | unrecognized hfull hremaining =>
    exact .inr ⟨mem_of_positional hpiece, hremaining, _, hfull, loose_getElem? hlayout⟩

/-! ### Omissions -/

lemma genuine_of_mem_omittedOptions
    (h : error ∈ (interface.model environment).omittedOptions
      ((interface.model environment).occurrences arguments)) :
    error.Genuine interface environment arguments := by
  obtain ⟨⟨option, place⟩, hentry, rfl⟩ := List.mem_map.mp h
  obtain ⟨hmem, hmissing⟩ := List.mem_filter.mp hentry
  simp only [Bool.and_eq_true, decide_eq_true_eq] at hmissing
  refine ⟨place, option, List.mem_zipIdx_iff_getElem?.mp hmem, rfl, hmissing.1, ?_⟩
  rintro mention hmention rfl
  exact hmissing.2 (List.mem_map_of_mem hmention)

lemma genuine_of_mem_omittedParameters {reader : Reader} {events : List Event}
    (run : Reader.readAll (interface.model environment) .initial arguments =
      .ok (reader, events))
    (h : error ∈ (interface.model environment).omittedParameters
      (events.filterMap Event.parameter?).length) :
    error.Genuine interface environment arguments := by
  obtain ⟨parameter, hparameter, rfl⟩ := List.mem_map.mp h
  obtain ⟨hmem, hmissing⟩ := List.mem_filter.mp hparameter
  simp only [Bool.and_eq_true, decide_eq_true_eq] at hmissing
  obtain ⟨place, hplace⟩ := List.mem_iff_getElem?.mp hmem
  have hlt := (List.getElem?_eq_some_iff.mp hplace).1
  have hgiven := hmissing.2
  rw [index_of_parameter hplace, Reader.length_filterMap_parameter? run] at hgiven
  rw [ParseError.Genuine, index_of_parameter hplace]
  exact ⟨parameter, hplace, rfl, hmissing.1, by omega⟩

/-! ### All errors -/

/-- Whatever the arguments are, every error that a program of an accepted declaration reports about
them is true of them, if its flags accept what they stand for. -/
theorem genuine_of_mem_reported {declaration : Declaration}
    (accepted : Interface.ofDeclaration declaration = .ok interface)
    (hflags : interface.AcceptsTrue environment)
    (h : error ∈ ((interface.program environment).parse arguments).reported) :
    error.Genuine interface environment arguments := by
  cases hread : Reader.readAll (interface.model environment) .initial arguments with
  | error command =>
    have hparse : (interface.program environment).parse arguments = .command command := by
      rw [Program.parse]
      simp only [program, hread]
    rw [hparse] at h
    simp [Outcome.reported] at h
  | ok outcome =>
    obtain ⟨reader, events⟩ := outcome
    rcases (mem_reported_iff (sound_of_ofDeclaration accepted) hread).mp h with
      hblamed | hoption | hparameter
    · exact genuine_of_blamed hflags hblamed
    · exact genuine_of_mem_omittedOptions hoption
    · exact genuine_of_mem_omittedParameters hread hparameter

/-- An unknown option with the argument behind it, values that are refused or lacking, repetitions,
and an omission. -/
theorem genuine_archive :
    let arguments := ["--levels", "gone", "-vlx", "--verbose=no", "--tag", "-l", "--="]
    Interface.ofDeclaration Sample.archive = .ok Sample.archiveInterface ∧
      Sample.archiveInterface.AcceptsTrue Sample.archiveEnvironment ∧
      (Sample.archiveProgram.parse arguments).reported =
        [.unknownOption "levels" "--levels", .badOptionValue "x" "l",
          .duplicateOption "verbose", .flagValue "verbose" "no", .optionValueMissing "tag",
          .duplicateOption "l", .optionValueMissing "l", .unrecognizedArgument "--=",
          .missingParameter "source" 0] ∧
      ∀ error ∈ (Sample.archiveProgram.parse arguments).reported,
        error.Genuine Sample.archiveInterface Sample.archiveEnvironment arguments := by
  intro arguments
  have hflags : Sample.archiveInterface.AcceptsTrue Sample.archiveEnvironment := by
    intro field hfield hflag
    fin_cases hfield
    · exact ⟨_, rfl⟩
    · exact ⟨_, rfl⟩
    · exact absurd hflag (by decide)
    · exact absurd hflag (by decide)
  exact ⟨Sample.ofDeclaration_archive, hflags, by decide, fun error herror =>
    genuine_of_mem_reported Sample.ofDeclaration_archive hflags herror⟩

end Interface

end CommandLine
