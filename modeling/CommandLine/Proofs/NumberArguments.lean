import CommandLine.Proofs.CommandTable
import CommandLine.Proofs.Numerals
import CommandLine.Proofs.Spelling
import CommandLine.Proofs.Terminator

/-!
# Negative numbers on the command line

A number that is a positional argument can be given in the argument after an option, and it can be
given to a parameter without a `--` in front, whether it is negative or not. Only the first argument
of all can be something else: the alias of a command.
-/

namespace CommandLine

/-! ### Positional arguments -/

namespace Reader

variable {model : Model} {reader : Reader}

/-- An option takes the next positional argument, whatever it is, or an unknown option ignores
it. -/
def Waits (reader : Reader) : Prop :=
  reader.expectation = .orphan ∨ ∃ mention taken,
    reader.expectation = .value mention taken ∧ mention.kind.isNullableFlag = false

/-- An argument goes to the next parameter, or to the collector after the last one. -/
def Places (model : Model) (reader : Reader) (argument : String) : Prop :=
  step model reader argument =
    .next (place model (reader.expecting .fresh) argument).1
      (place model (reader.expecting .fresh) argument).2

lemma place_expecting (model : Model) (reader : Reader) (expectation : Expectation)
    (text : String) :
    place model (reader.expecting expectation) text =
      ((place model reader text).1.expecting expectation, (place model reader text).2) := by
  unfold place expecting
  dsimp only
  split
  · rfl
  · split_ifs <;> rfl

lemma read_loose_of_fresh {text : String} (hloose : isLoose text = true) :
    read model (reader.expecting .fresh) text = place model (reader.expecting .fresh) text := by
  rw [read_of_isLoose _ hloose (by simp), positional_of_fresh rfl]

/-- If nothing is expected, positional arguments are read as if they were verbatim. -/
lemma readMany_loose {texts : List String} (hloose : ∀ text ∈ texts, isLoose text = true) :
    readMany model (reader.expecting .fresh) texts =
      ((readMany model (reader.expecting .verbatim) texts).1.expecting .fresh,
        (readMany model (reader.expecting .verbatim) texts).2) := by
  induction texts generalizing reader with
  | nil => rfl
  | cons text rest ih =>
    obtain ⟨htext, hrest⟩ := List.forall_mem_cons.mp hloose
    rw [readMany_cons, readMany_cons, read_loose_of_fresh htext, read_of_verbatim rfl,
      place_expecting, place_expecting model reader .verbatim]
    dsimp only
    rw [ih hrest]

/-- A flag that can be absent leaves what is no truth value to the parameters. -/
lemma read_of_not_waits {text : String} (hloose : isLoose text = true)
    (htruth : (Decoder.truth? text).isSome = false) (hwaits : ¬ reader.Waits)
    (hstart : reader.expectation ≠ .start) (hverbatim : reader.expectation ≠ .verbatim) :
    read model reader text = place model (reader.expecting .fresh) text := by
  rw [read_of_isLoose _ hloose hverbatim]
  cases hexpects : reader.expectation with
  | start => exact absurd hexpects hstart
  | verbatim => exact absurd hexpects hverbatim
  | orphan => exact absurd (.inl hexpects) hwaits
  | fresh =>
    have hsame : reader.expecting .fresh = reader := by rw [expecting, ← hexpects]
    rw [positional_of_fresh hexpects, hsame]
  | value mention taken =>
    cases hnullable : mention.kind.isNullableFlag with
    | false => exact absurd (.inr ⟨mention, taken, hexpects, hnullable⟩) hwaits
    | true => rw [positional_of_nullableFlag hexpects hnullable htruth]

lemma abandoned_of_not_waits (hwaits : ¬ reader.Waits) : reader.abandoned = [] := by
  unfold abandoned
  split
  · next mention hexpects =>
    split_ifs with hnullable
    · rfl
    · exact absurd (.inr ⟨mention, false, hexpects, by simpa using hnullable⟩) hwaits
  · rfl

/-- A `--` before positional arguments makes no difference if no option waits for them. -/
lemma readMany_finish_terminator (model : Model) {text : String} {after : List String}
    (hloose : ∀ argument ∈ text :: after, isLoose argument = true)
    (htruth : (Decoder.truth? text).isSome = false) (hwaits : ¬ reader.Waits)
    (hstart : reader.expectation ≠ .start) (hverbatim : reader.expectation ≠ .verbatim) :
    let plain := readMany model reader (text :: after)
    let behind := readMany model reader ("--" :: text :: after)
    plain.2 ++ plain.1.finish model = behind.2 ++ behind.1.finish model := by
  intro plain behind
  have htext : isLoose text = true := hloose text (List.mem_cons_self ..)
  have hplain : plain = readMany model (reader.expecting .fresh) (text :: after) := by
    rw [readMany_cons, read_loose_of_fresh htext,
      ← read_of_not_waits htext htruth hwaits hstart hverbatim]
    rfl
  have hbehind : behind = readMany model (reader.expecting .verbatim) (text :: after) := by
    show readMany model reader ("--" :: text :: after) = _
    rw [readMany_cons, read_terminator hverbatim, abandoned_of_not_waits hwaits, List.nil_append]
  have hlast : behind.1.expectation = .verbatim := by
    rw [hbehind]
    exact expectation_readMany_of_verbatim rfl _
  have habandoned : behind.1.abandoned = [] := by rw [abandoned, hlast]
  rw [hplain, readMany_loose hloose, ← hbehind, finish, finish, habandoned]
  rfl

end Reader

/-! ### Aliases -/

lemma IsAlias.equals_not_mem {text : String} (h : IsAlias text) : '=' ∉ text.toList := by
  obtain ⟨hyphens, name, hhyphens, htext, hname⟩ := h
  have hnone : ∀ prefixed ∈ [[], ['-'], ['-', '-']], '=' ∉ prefixed := by decide
  rw [htext, List.mem_append, not_or]
  refine ⟨hnone hyphens hhyphens, fun hequals => ?_⟩
  rcases hname.characters '=' hequals with h | h
  · exact absurd h (by decide)
  · exact absurd h (by decide)

lemma IsAlias.not_letterFree {text : String} (h : IsAlias text) : ¬ LetterFree text.toList := by
  obtain ⟨hyphens, name, -, htext, hname⟩ := h
  obtain ⟨letter, hletter, halphabetic⟩ := hname.start
  intro hfree
  have hnone := hfree letter (htext ▸ List.mem_append_right _ (List.mem_of_mem_head? hletter))
  rw [halphabetic] at hnone
  exact nomatch hnone

/-! ### Numbers -/

namespace NumberType

variable {type : NumberType} {text : String}

/-- No number is a flag. -/
lemma kind_ne_flag (type : NumberType) : type.decoder.kind ≠ .flag := by
  cases type <;> exact nofun

lemma exists_head_of_truth? (h : (Decoder.truth? text).isSome = true) :
    ∃ c ∈ text.toList.head?, c.toLower = 't' ∨ c.toLower = 'f' := by
  unfold Decoder.truth? at h
  dsimp only at h
  cases htext : text.toList with
  | nil => simp [htext] at h
  | cons c rest =>
    refine ⟨c, rfl, ?_⟩
    by_contra hnone
    rw [not_or] at hnone
    simp [htext, hnone.1, hnone.2] at h

/-- No number is a truth value. -/
lemma truth?_of_accepts (h : type.Accepts text) : (Decoder.truth? text).isSome = false := by
  rw [← Bool.not_eq_true]
  intro htruth
  obtain ⟨sign, body, hspells⟩ := exists_spells h
  obtain ⟨c, hc, hletter⟩ := exists_head_of_truth? htruth
  obtain ⟨d, hd, hstart⟩ := hspells.start
  rw [hspells.parts] at hc
  rcases hspells.sign with rfl | rfl | rfl
  · obtain rfl : d = c := Option.some.inj (hd.symm.trans hc)
    rcases hstart with hdigit | rfl | hname | hname
    · have halpha : d.toLower.isAlpha = true := by
        rcases hletter with hletter | hletter
        · rw [hletter]
          rfl
        · rw [hletter]
          rfl
      have halphabetic := Text.isAlphabetic_of_isAlpha (isAlpha_of_toLower halpha)
      rw [isAlphabetic_of_isDigit hdigit] at halphabetic
      exact nomatch halphabetic
    · exact absurd hletter (by decide)
    · rw [hname] at hletter
      exact absurd hletter (by decide)
    · rw [hname] at hletter
      exact absurd hletter (by decide)
  · obtain rfl : '+' = c := Option.some.inj hc
    exact absurd hletter (by decide)
  · obtain rfl : '-' = c := Option.some.inj hc
    exact absurd hletter (by decide)

/-- Only the names of floating point numbers can be aliases. -/
lemma not_isAlias_of_accepts (h : type.Accepts text) (hfloat : ¬ ∃ format, type = .float format) :
    ¬ IsAlias text := by
  intro halias
  obtain ⟨sign, body, hspells⟩ := exists_spells h
  apply halias.not_letterFree
  rw [hspells.parts]
  have hsign : LetterFree sign := by
    rcases hspells.sign with rfl | rfl | rfl
    · exact nofun
    · exact .cons (by decide) nofun
    · exact .cons (by decide) nofun
  rcases hspells.letters with hfree | ⟨hformat, -⟩
  · exact hsign.append hfree
  · exact absurd hformat hfloat

end NumberType

/-! ### Programs -/

namespace Program

variable {σ α : Type} {program : Program σ α}

/-- Behind some argument an interchangeable part is replaced even if a command is run. -/
lemma parse_congr_of_ne_nil {first second : List String}
    (h : Reader.Interchangeable program.model first second) {before after : List String}
    (hopen : "--" ∉ before) (hne : before ≠ []) :
    program.parse (before ++ (first ++ after)) = program.parse (before ++ (second ++ after)) := by
  obtain ⟨argument, rest, rfl⟩ := List.exists_cons_of_ne_nil hne
  cases hfind : program.model.findCommand argument with
  | none =>
    have start (part : List String) :
        ∀ word ∈ (argument :: rest ++ (part ++ after)).head?,
          program.model.findCommand word = none := by
      rintro word ⟨⟩
      exact hfind
    exact parse_congr h hopen (start first) (start second)
  | some command =>
    have hselect : program.model.select argument = some ⟨argument, command.handler⟩ := by
      rw [Model.select, hfind]
      rfl
    rw [parse_eq_command_iff.mpr ⟨argument, rfl, hselect⟩,
      parse_eq_command_iff.mpr ⟨argument, rfl, hselect⟩]

/-- A `--` before the positional arguments at the end makes no difference. -/
lemma parse_terminator {text : String} {before after : List String}
    (hloose : ∀ argument ∈ text :: after, isLoose argument = true)
    (htruth : (Decoder.truth? text).isSome = false)
    (hwaits : ¬ (Reader.readMany program.model .ready before).1.Waits) (hopen : "--" ∉ before)
    (startPlain : ∀ argument ∈ (before ++ text :: after).head?,
      program.model.findCommand argument = none)
    (startBehind : ∀ argument ∈ (before ++ "--" :: text :: after).head?,
      program.model.findCommand argument = none) :
    program.parse (before ++ text :: after) = program.parse (before ++ "--" :: text :: after) := by
  have hready := Reader.expectation_readMany_ready program.model before
  have hverbatim := Reader.expectation_readMany_ne_verbatim program.model hopen
  have hfinish :=
    Reader.readMany_finish_terminator program.model hloose htruth hwaits hready hverbatim
  rw [parse_eq_conclude_readMany startPlain, parse_eq_conclude_readMany startBehind,
    Reader.readMany_append, Reader.readMany_append, List.append_assoc, List.append_assoc, hfinish]

end Program

namespace Interface

variable {α : Type} {interface : Interface} {environment : Environment α}

/-- What is no alias by its form selects no command. -/
lemma findCommand_of_not_isAlias (hsound : interface.Sound) {argument : String}
    (h : ¬ IsAlias argument) : (interface.model environment).findCommand argument = none := by
  rw [Model.findCommand_eq_none_iff]
  intro command hcommand halias
  obtain ⟨declared, hdeclared, rfl⟩ := List.mem_map.mp hcommand
  have hcheck := hsound.commands declared hdeclared argument halias
  exact h (CommandDeclaration.checkAlias_eq_ok_iff.mp hcheck)

/-- A value of an option that is no flag can follow its long tag, if this is no alias in front. -/
lemma parse_long_eq_separate (hsound : interface.Sound) {mention : Mention} {name : String}
    (hmentions : (interface.model environment).Mentions mention) (hname : mention.name = .long name)
    (hflag : mention.kind.isFlag = false) {text : String} (hloose : isLoose text = true)
    {before after : List String} (hopen : "--" ∉ before) :
    let program := interface.program environment
    (before = [] → program.model.findCommand ("--" ++ name) = none) →
    program.parse (before ++ ("--" ++ name) :: text :: after) =
      program.parse (before ++ ("--" ++ name ++ "=" ++ text) :: after) := by
  intro program hfirst
  have hjoins : mention.Joins (some text) := by
    intro letter hletter
    rw [hname] at hletter
    exact nomatch hletter
  have hparts : Reader.Interchangeable program.model [mention.name.head (some text)]
      [mention.name.head none, text] :=
    Reader.interchangeable_value hsound hmentions hflag hloose hjoins
  rw [hname] at hparts
  by_cases hne : before = []
  · have hequals : '=' ∈ ("--" ++ name ++ "=" ++ text).toList := by simp
    refine (Program.parse_congr hparts hopen ?_ ?_).symm
    · rw [hne]
      rintro argument ⟨⟩
      exact findCommand_of_not_isAlias hsound fun halias => halias.equals_not_mem hequals
    · rw [hne]
      rintro argument ⟨⟩
      exact hfirst hne
  · exact (Program.parse_congr_of_ne_nil hparts hopen hne).symm

/-- Where no option waits for it, a positional argument goes to the parameters, with or without a
`--` in front. -/
lemma parse_loose_eq_terminator (hsound : interface.Sound) {text : String} {after : List String}
    (hloose : ∀ argument ∈ text :: after, isLoose argument = true)
    (htruth : (Decoder.truth? text).isSome = false) {before : List String} {reader : Reader}
    {events : List Event}
    (run : Reader.readAll (interface.model environment) .initial before = .ok (reader, events))
    (hopen : "--" ∉ before) (hwaits : ¬ reader.Waits)
    (hstart : before = [] → (interface.model environment).findCommand text = none) :
    let program := interface.program environment
    Reader.Places program.model reader text ∧
      program.parse (before ++ text :: after) =
        program.parse (before ++ "--" :: text :: after) := by
  intro program
  have htext : isLoose text = true := hloose text (List.mem_cons_self ..)
  have hterminator : program.model.findCommand "--" = none :=
    Option.map_eq_none_iff.mp (select_terminator hsound)
  have start (word : String) (others : List String)
      (hword : before = [] → program.model.findCommand word = none) :
      ∀ argument ∈ (before ++ word :: others).head?,
        program.model.findCommand argument = none := by
    cases before with
    | nil =>
      rintro argument ⟨⟩
      exact hword rfl
    | cons first rest =>
      rintro argument ⟨⟩
      exact Option.map_eq_none_iff.mp (Reader.select_of_readAll run)
  obtain ⟨hplaces, hready⟩ : Reader.Places program.model reader text ∧
      ¬ (Reader.readMany program.model .ready before).1.Waits := by
    rcases Reader.eq_of_readAll_initial run with ⟨houtcome, rfl⟩ | houtcome
    · obtain ⟨rfl, rfl⟩ := Prod.mk.inj houtcome
      have hselect : program.model.select text = none := Option.map_eq_none_iff.mpr (hstart rfl)
      have hready : ¬ Reader.ready.Waits := by simp [Reader.Waits, Reader.ready]
      refine ⟨?_, hready⟩
      rw [Reader.Places, Reader.step_initial hselect, Reader.read_of_not_waits htext htruth hready
        (by simp [Reader.ready]) (by simp [Reader.ready])]
      rfl
    · obtain ⟨rfl, rfl⟩ := Prod.mk.inj houtcome
      have hbegun := Reader.expectation_readMany_ready (interface.model environment) before
      have hverbatim :=
        Reader.expectation_readMany_ne_verbatim (interface.model environment) hopen
      refine ⟨?_, hwaits⟩
      rw [Reader.Places, Reader.step_of_ne_start hbegun,
        Reader.read_of_not_waits htext htruth hwaits hbegun hverbatim]
  refine ⟨hplaces, Program.parse_terminator hloose htruth hready hopen ?_ ?_⟩
  · exact start text after hstart
  · exact start "--" (text :: after) fun _ => hterminator

/-- Every integer and every duration is a positional argument, and so is every floating point number
except for those with a minus sign and an exponent or a name; these are clusters. In a program of an
accepted declaration, a number that is a positional argument can follow an option of its type or be
written behind an equals sign, and it is a parameter where no option waits for it, with or without a
`--`. Only as the first argument a tag or the name of a number can be the alias of a command. -/
theorem numbers_without_terminator (environment : Environment α) {declaration : Declaration}
    (accepted : Interface.ofDeclaration declaration = .ok interface) {type : NumberType}
    {text : String} (number : type.Accepts text) :
    let program := interface.program environment
    (classify text = .positional text ↔ ¬ type.LikeOption text) ∧
    (type.LikeOption text →
      ∃ cluster, classify text = .short cluster ∧ text = "-" ++ cluster.body) ∧
    (¬ type.LikeOption text →
      (∀ (mention : Mention) (name : String) (before after : List String),
        program.model.Mentions mention → mention.name = .long name →
        mention.kind.scalar = type.decoder.kind → "--" ∉ before →
        (before = [] → program.model.findCommand ("--" ++ name) = none) →
        program.parse (before ++ ("--" ++ name) :: text :: after) =
          program.parse (before ++ ("--" ++ name ++ "=" ++ text) :: after)) ∧
      ∀ (before after : List String) (reader : Reader) (events : List Event),
        Reader.readAll program.model .initial before = .ok (reader, events) → "--" ∉ before →
        ¬ reader.Waits →
        (before = [] → (∃ format, type = .float format) →
          program.model.findCommand text = none) →
        (∀ argument ∈ after, isLoose argument = true) →
        Reader.Places program.model reader text ∧
          program.parse (before ++ text :: after) =
            program.parse (before ++ "--" :: text :: after)) := by
  intro program
  have hsound := sound_of_ofDeclaration accepted
  have hshape := NumberType.classify_eq_positional_iff_of_accepts number
  refine ⟨hshape, NumberType.exists_cluster_of_likeOption number, fun hplain => ?_⟩
  have hloose : isLoose text = true := by
    rw [isLoose, hshape.mpr hplain]
    rfl
  constructor
  · intro mention name before after hmentions hname hkind hopen hfirst
    have hflag : mention.kind.isFlag = false := by
      rw [ValueKind.isFlag, hkind]
      exact decide_eq_false type.kind_ne_flag
    exact parse_long_eq_separate hsound hmentions hname hflag hloose hopen hfirst
  · intro before after reader events run hopen hwaits hfirst hafter
    have hstart : before = [] → program.model.findCommand text = none := by
      intro hnil
      by_cases hfloat : ∃ format, type = .float format
      · exact hfirst hnil hfloat
      · exact findCommand_of_not_isAlias hsound (NumberType.not_isAlias_of_accepts number hfloat)
    have hall : ∀ argument ∈ text :: after, isLoose argument = true :=
      List.forall_mem_cons.mpr ⟨hloose, hafter⟩
    exact parse_loose_eq_terminator hsound hall (NumberType.truth?_of_accepts number) run hopen
      hwaits hstart

/-- A negative number follows its option and is a parameter, once behind an option that has its
value. -/
theorem numbers_without_terminator_measures :
    (NumberType.float .binary64).Accepts "-5" ∧
      Interface.ofDeclaration Sample.measures = .ok Sample.measuresInterface ∧
      Sample.measuresProgram.parse ["2", "--ratio", "-5"] =
        Sample.measuresProgram.parse ["2", "--ratio=-5"] ∧
      Sample.measuresProgram.parse ["--ratio=2", "-5", "more"] =
        Sample.measuresProgram.parse ["--ratio=2", "--", "-5", "more"] := by
  let ratio : Mention := ⟨0, ⟨.nullable, .float 64⟩, .long "ratio"⟩
  have number : (NumberType.float .binary64).Accepts "-5" := ⟨_, rfl⟩
  have hratio : (Sample.measuresInterface.model Sample.measuresEnvironment).Mentions ratio :=
    ⟨⟨_, rfl, rfl⟩, rfl⟩
  obtain ⟨hshape, -, hplain⟩ := numbers_without_terminator Sample.measuresEnvironment
    Sample.ofDeclaration_measures number
  obtain ⟨hoption, hparameter⟩ := hplain (hshape.mp (by decide))
  refine ⟨number, Sample.ofDeclaration_measures, ?_, ?_⟩
  · exact hoption ratio "ratio" ["2"] [] hratio rfl rfl (by decide) nofun
  · exact (hparameter ["--ratio=2"] ["more"] ⟨.fresh, [0], 0, 0⟩ _ rfl (by decide)
      (by simp [Reader.Waits]) nofun (by decide)).2

/-- A negative number with an exponent is no positional argument. And a tag and the name of a number
are commands if they are aliases in front. -/
theorem numbers_like_options :
    let parse := Sample.measuresProgram.parse
    Interface.ofDeclaration Sample.measures = .ok Sample.measuresInterface ∧
      (NumberType.float .binary64).Accepts "-1e5" ∧
      (∃ cluster, classify "-1e5" = .short cluster) ∧
      (∃ errors, parse ["2", "--ratio", "-1e5"] = .errors errors) ∧
      parse ["2", "--ratio=-1e5"] =
        .options [("ratio", .nullable (some (.float ⟨.binary64, 0xc0f86a0000000000⟩))),
          ("length", .single (.float ⟨.binary64, 0x4000000000000000⟩))] ∧
      (∃ errors, parse ["-1e5"] = .errors errors) ∧
      parse ["--", "-1e5"] =
        .options [("ratio", .nullable none),
          ("length", .single (.float ⟨.binary64, 0xc0f86a0000000000⟩))] ∧
      (∃ command, parse ["--ratio", "2", "3"] = .command command) ∧
      parse ["--ratio=2", "3"] =
        .options [("ratio", .nullable (some (.float ⟨.binary64, 0x4000000000000000⟩))),
          ("length", .single (.float ⟨.binary64, 0x4008000000000000⟩))] ∧
      (∃ command, parse ["inf"] = .command command) ∧
      parse ["--", "inf"] =
        .options [("ratio", .nullable none),
          ("length", .single (.float ⟨.binary64, 0x7ff0000000000000⟩))] := by
  refine ⟨Sample.ofDeclaration_measures, ⟨_, rfl⟩, ⟨_, rfl⟩, ⟨_, rfl⟩, ?_, ⟨_, rfl⟩, ?_,
    ⟨_, rfl⟩, ?_, ⟨_, rfl⟩, ?_⟩
  all_goals rfl

end Interface

end CommandLine
