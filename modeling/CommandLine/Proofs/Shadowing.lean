import CommandLine.Proofs.Dispatch
import CommandLine.Proofs.Spelling

/-!
# Options and aliases

Tags and aliases are names of two kinds. No tag is used twice and no alias is used twice, but an
alias can be written like a tag. Then the place decides: as the first argument it selects the
command, and at any later place before a `--` it is the option. A tag that is no alias is the option
at the first place as well.
-/

namespace CommandLine

namespace Reader

/-- An argument is read as an option without a text in the same argument: what is pending is given
up, and the option occurs. -/
def ReadsOption (model : Model) (reader : Reader) (argument : String) (mention : Mention) : Prop :=
  step model reader argument =
    .next ((reader.expecting .fresh).occur mention none).1
      (reader.abandoned ++ ((reader.expecting .fresh).occur mention none).2)

variable {α : Type} {interface : Interface} {environment : Environment α} {mention : Mention}

/-- The bare tag of an option puts an end to whatever is expected, and the option occurs. -/
lemma read_bare (hsound : interface.Sound)
    (h : (interface.model environment).Mentions mention) {reader : Reader}
    (hverbatim : reader.expectation ≠ .verbatim) :
    read (interface.model environment) reader (mention.name.head none) =
      (((reader.expecting .fresh).occur mention none).1,
        reader.abandoned ++ ((reader.expecting .fresh).occur mention none).2) := by
  rw [read_of_not_isLoose (isLoose_head hsound h none) hverbatim,
    read_head hsound h mention.joins_none (by simp) (by simp [abandoned])]
  rfl

/-- Behind the first argument and before a `--` the bare tag is the option. -/
lemma readsOption_of_readAll (hsound : interface.Sound)
    (h : (interface.model environment).Mentions mention) {before : List String} {reader : Reader}
    {events : List Event}
    (run : readAll (interface.model environment) initial before = .ok (reader, events))
    (hbehind : before ≠ []) (hopen : "--" ∉ before) :
    ReadsOption (interface.model environment) reader (mention.name.head none) mention := by
  rcases eq_of_readAll_initial run with ⟨-, hnil⟩ | houtcome
  · exact absurd hnil hbehind
  · obtain ⟨rfl, -⟩ := Prod.mk.inj houtcome
    have hstart : (readMany (interface.model environment) ready before).1.expectation ≠ .start :=
      expectation_readMany_ready _ before
    have hverbatim := expectation_readMany_ne_verbatim (interface.model environment) hopen
    rw [ReadsOption, step_of_ne_start hstart, read_bare hsound h hverbatim]

/-- As the first argument the bare tag is the option exactly if it selects no command. -/
lemma readsOption_initial_iff (hsound : interface.Sound)
    (h : (interface.model environment).Mentions mention) :
    ReadsOption (interface.model environment) initial (mention.name.head none) mention ↔
      (interface.model environment).select (mention.name.head none) = none := by
  cases hselect : (interface.model environment).select (mention.name.head none) with
  | some command => simp [ReadsOption, step, initial, hselect]
  | none =>
    refine iff_of_true ?_ rfl
    rw [ReadsOption, step_initial hselect, read_bare hsound h (by simp [ready])]
    rfl

end Reader

namespace Interface

variable {α : Type} {interface : Interface} (environment : Environment α)

/-- In a program of an accepted declaration, the bare tag of an option is read as the option at the
first place exactly if no command has it as an alias. If one has, this command is run, whatever
comes afterwards. Behind the first argument and before a `--` the tag is always read as the option.
-/
theorem option_unless_alias {declaration : Declaration}
    (accepted : Interface.ofDeclaration declaration = .ok interface) {mention : Mention}
    (hmentions : (interface.model environment).Mentions mention) :
    let program := interface.program environment
    let tag := mention.name.head none
    (Reader.ReadsOption program.model .initial tag mention ↔
      ∀ command ∈ program.model.commands, tag ∉ command.aliases) ∧
    (∀ command ∈ program.model.commands, tag ∈ command.aliases →
      ∀ rest, program.parse (tag :: rest) = .command ⟨tag, command.handler⟩) ∧
    ∀ before reader events, Reader.readAll program.model .initial before = .ok (reader, events) →
      before ≠ [] → "--" ∉ before → Reader.ReadsOption program.model reader tag mention := by
  intro program tag
  have hsound := sound_of_ofDeclaration accepted
  refine ⟨?_, ?_, fun before reader events => Reader.readsOption_of_readAll hsound hmentions⟩
  · rw [← Model.findCommand_eq_none_iff]
    exact (Reader.readsOption_initial_iff hsound hmentions).trans Option.map_eq_none_iff
  · intro command hcommand halias rest
    have hselect : program.model.select tag = some ⟨tag, command.handler⟩ :=
      (Model.select_eq_some_iff (nodup_aliases environment accepted)).mpr
        ⟨rfl, command, hcommand, halias, rfl⟩
    exact Program.parse_eq_command_iff.mpr ⟨tag, rfl, hselect⟩

/-- A tag that is no alias is an option everywhere. One that is an alias selects its command, and
behind another option it is read as what it was declared to be. -/
theorem option_unless_alias_shadows :
    let model := Sample.shadowsProgram.model
    let later : Reader := ⟨.fresh, [0], 0, 0⟩
    let verbose : Mention := ⟨0, ⟨.single, .flag⟩, .long "verbose"⟩
    let help : Mention := ⟨1, ⟨.single, .flag⟩, .long "help"⟩
    Interface.ofDeclaration Sample.shadows = .ok Sample.shadowsInterface ∧
      model.Mentions verbose ∧ model.Mentions help ∧
      Reader.ReadsOption model .initial "--verbose" verbose ∧
      Sample.shadowsProgram.parse ["--help", "-v"] = .command ⟨"--help", .help⟩ ∧
      Reader.readAll model .initial ["--verbose"] =
        .ok (later, [.mention verbose, verbose.store "true"]) ∧
      Reader.ReadsOption model later "--help" help := by
  intro model later verbose help
  have hverbose : (Sample.shadowsInterface.model Sample.archiveEnvironment).Mentions verbose :=
    ⟨⟨_, rfl, rfl⟩, rfl⟩
  have hhelp : (Sample.shadowsInterface.model Sample.archiveEnvironment).Mentions help :=
    ⟨⟨_, rfl, rfl⟩, rfl⟩
  obtain ⟨hfirst, -, -⟩ :=
    option_unless_alias Sample.archiveEnvironment Sample.ofDeclaration_shadows hverbose
  obtain ⟨-, hcommand, hlater⟩ :=
    option_unless_alias Sample.archiveEnvironment Sample.ofDeclaration_shadows hhelp
  have hread : Reader.readAll model .initial ["--verbose"] =
      .ok (later, [.mention verbose, verbose.store "true"]) := by
    rfl
  exact ⟨Sample.ofDeclaration_shadows, hverbose, hhelp, hfirst.mpr (by decide),
    hcommand _ (List.mem_cons_self ..) (by decide) ["-v"], hread,
    hlater _ _ _ hread (by decide) (by decide)⟩

/-- An alias of a declared command is written like a short tag, and a built-in one like a long tag.
As the first argument both are commands, and behind another one they are options. -/
theorem alias_like_tag :
    Interface.ofDeclaration Sample.shadows = .ok Sample.shadowsInterface ∧
      (∃ command ∈ Sample.shadowsProgram.model.commands,
        ∃ option ∈ Sample.shadowsProgram.model.options,
        ∃ letter ∈ option.tags.short?, "-" ++ String.singleton letter ∈ command.aliases) ∧
      (∃ command ∈ Sample.shadowsProgram.model.commands,
        ∃ option ∈ Sample.shadowsProgram.model.options,
        ∃ tag ∈ option.tags.long?, "--" ++ tag ∈ command.aliases) ∧
      Sample.shadowsProgram.parse ["-v"] = .command ⟨"-v", .help⟩ ∧
      Sample.shadowsProgram.parse ["--help"] = .command ⟨"--help", .help⟩ ∧
      Sample.shadowsProgram.parse ["--verbose", "--help"] =
        .options [("verbose", .single (.bool true)), ("help", .single (.bool true))] := by
  have hshort : "-" ++ String.singleton 'v' ∈ ["-v"] := by decide
  have hlong : "--" ++ "help" ∈ ["--help"] := by decide
  refine ⟨Sample.ofDeclaration_shadows, ?_, ?_, by rfl, by rfl, by rfl⟩
  · exact ⟨⟨["-v"], "", .help⟩, by decide,
      ⟨"verbose", .both "verbose" 'v', ⟨.single, .flag⟩, false, ""⟩, by decide, 'v', rfl, hshort⟩
  · exact ⟨⟨["--help"], "Show help screen", .help⟩, by decide,
      ⟨"help", .long "help", ⟨.single, .flag⟩, false, ""⟩, by decide, "help", rfl, hlong⟩

end Interface

end CommandLine
