import CommandLine.Proofs.Acceptance
import CommandLine.Proofs.Run
import CommandLine.Proofs.Storage
import CommandLine.Sample.Archive
import Mathlib.Data.List.Flatten

/-!
# Selecting a command

The commands of a model matter for the first argument only. If it is an alias, then exactly one
command has this alias, and this command is run, whatever comes after it. If it is none, the command
line comes to the same as if the model had no commands, even if aliases stand at other places.
-/

namespace CommandLine

/-! ### Owners -/

/-- If no alias is used twice, only one of the commands has an alias. -/
lemma eq_of_mem_aliases {commands : List CommandSpec}
    (hnodup : (commands.flatMap (·.aliases)).Nodup) {place other : Nat}
    {command owner : CommandSpec} (hcommand : commands[place]? = some command)
    (howner : commands[other]? = some owner) {word : String} (halias : word ∈ command.aliases)
    (hagain : word ∈ owner.aliases) : other = place := by
  have hpairs := List.pairwise_iff_getElem.mp (List.nodup_flatMap.mp hnodup).2
  obtain ⟨hplace, rfl⟩ := List.getElem?_eq_some_iff.mp hcommand
  obtain ⟨hother, rfl⟩ := List.getElem?_eq_some_iff.mp howner
  by_contra hne
  rcases Nat.lt_or_gt_of_ne hne with hlt | hgt
  · exact hpairs other place hother hplace hlt hagain halias
  · exact hpairs place other hplace hother hgt halias hagain

namespace Model

variable {model : Model} {argument : String}

lemma findCommand_eq_none_iff :
    model.findCommand argument = none ↔
      ∀ command ∈ model.commands, argument ∉ command.aliases := by
  rw [findCommand, List.find?_eq_none]
  simp only [decide_eq_true_eq]

lemma mem_of_findCommand {command : CommandSpec} (h : model.findCommand argument = some command) :
    command ∈ model.commands ∧ argument ∈ command.aliases := by
  rw [findCommand] at h
  exact ⟨List.mem_of_find?_eq_some h, by simpa using List.find?_some h⟩

/-- If no alias is used twice, the command with an alias is found. -/
lemma findCommand_eq_some_iff (hnodup : (model.commands.flatMap (·.aliases)).Nodup)
    {command : CommandSpec} :
    model.findCommand argument = some command ↔
      command ∈ model.commands ∧ argument ∈ command.aliases := by
  constructor
  · exact mem_of_findCommand
  · rintro ⟨hcommand, halias⟩
    cases hfind : model.findCommand argument with
    | none => exact absurd halias (findCommand_eq_none_iff.mp hfind command hcommand)
    | some found =>
      obtain ⟨hfound, hagain⟩ := mem_of_findCommand hfind
      obtain ⟨place, hplace⟩ := List.mem_iff_getElem?.mp hcommand
      obtain ⟨other, hother⟩ := List.mem_iff_getElem?.mp hfound
      obtain rfl := eq_of_mem_aliases hnodup hplace hother halias hagain
      rw [← hplace, ← hother]

lemma select_eq_some_iff (hnodup : (model.commands.flatMap (·.aliases)).Nodup)
    {selected : SpecialCommand} :
    model.select argument = some selected ↔
      selected.trigger = argument ∧ ∃ command ∈ model.commands,
        argument ∈ command.aliases ∧ selected.handler = command.handler := by
  rw [select, Option.map_eq_some_iff]
  constructor
  · rintro ⟨command, hfind, rfl⟩
    obtain ⟨hcommand, halias⟩ := (findCommand_eq_some_iff hnodup).mp hfind
    exact ⟨rfl, command, hcommand, halias, rfl⟩
  · rintro ⟨rfl, command, hcommand, halias, hhandler⟩
    refine ⟨command, (findCommand_eq_some_iff hnodup).mpr ⟨hcommand, halias⟩, ?_⟩
    rw [← hhandler]

/-! ### Without commands -/

def withoutCommands (model : Model) : Model :=
  { model with commands := [] }

end Model

namespace Reader

variable (model : Model)

/-- The letters of a cluster are options, never commands. -/
lemma cluster_withoutCommands (argument : String) (reader : Reader)
    (letters : List (Char × String)) :
    cluster model.withoutCommands argument reader letters =
      cluster model argument reader letters := by
  induction letters generalizing reader with
  | nil => rfl
  | cons first others ih =>
    obtain ⟨letter, rest⟩ := first
    have hlookup : model.withoutCommands.mentionShort? letter = model.mentionShort? letter := rfl
    cases hm : model.mentionShort? letter with
    | none =>
      rw [cluster_cons_of_none hm, cluster_cons_of_none (hlookup.trans hm)]
    | some mention =>
      cases hflag : mention.kind.isFlag with
      | true =>
        rw [cluster_cons_of_isFlag hm hflag, cluster_cons_of_isFlag (hlookup.trans hm) hflag]
        simp only [ih]
      | false =>
        rw [cluster_cons_of_not_isFlag hm hflag,
          cluster_cons_of_not_isFlag (hlookup.trans hm) hflag]

/-- After the first look at an argument the commands are not asked again. -/
lemma read_withoutCommands (reader : Reader) (argument : String) :
    read model.withoutCommands reader argument = read model reader argument := by
  have hpositional (text : String) :
      positional model.withoutCommands reader text = positional model reader text := rfl
  by_cases hverbatim : reader.expectation = .verbatim
  · rw [read, read, if_pos hverbatim, if_pos hverbatim, hpositional]
  · rw [read_of_ne_verbatim hverbatim, read_of_ne_verbatim hverbatim]
    cases classify argument with
    | positional text => exact hpositional text
    | terminator => rfl
    | long name value => rfl
    | short cluster => simp only [readToken, cluster_withoutCommands]

lemma readMany_withoutCommands (reader : Reader) (arguments : List String) :
    readMany model.withoutCommands reader arguments = readMany model reader arguments := by
  induction arguments generalizing reader with
  | nil => rfl
  | cons argument rest ih => rw [readMany_cons, readMany_cons, read_withoutCommands, ih]

end Reader

/-! ### Programs -/

namespace Program

variable {σ α : Type}

def withoutCommands (program : Program σ α) : Program σ α :=
  { program with model := program.model.withoutCommands }

/-- A command comes from the first argument only. -/
lemma parse_eq_command_iff {program : Program σ α} {arguments : List String}
    {selected : SpecialCommand} :
    program.parse arguments = .command selected ↔
      ∃ argument ∈ arguments.head?, program.model.select argument = some selected := by
  cases hread : Reader.readAll program.model .initial arguments with
  | error command =>
    obtain ⟨argument, rest, rfl, hselect⟩ := Reader.select_of_readAll_eq_error hread
    simp [parse, hread, hselect]
  | ok outcome =>
    have hparse : program.parse arguments ≠ .command selected := by
      rw [parse, hread]
      exact program.conclude_ne_command _ selected
    refine iff_of_false hparse ?_
    rintro ⟨argument, hhead, hselect⟩
    cases arguments with
    | nil => simp at hhead
    | cons first rest =>
      obtain rfl : first = argument := by simpa using hhead
      simp [Reader.select_of_readAll hread] at hselect

lemma parse_withoutCommands {program : Program σ α} {arguments : List String}
    (start : ∀ argument ∈ arguments.head?, program.model.findCommand argument = none) :
    program.withoutCommands.parse arguments = program.parse arguments := by
  have hnone : ∀ argument ∈ arguments.head?,
      program.withoutCommands.model.findCommand argument = none := fun _ _ => rfl
  have hread : Reader.readMany program.withoutCommands.model .ready arguments =
      Reader.readMany program.model .ready arguments := Reader.readMany_withoutCommands ..
  rw [parse_eq_conclude_readMany start, parse_eq_conclude_readMany hnone, hread]
  rfl

end Program

namespace Interface

variable {α : Type} {interface : Interface} (environment : Environment α)

lemma nodup_aliases {declaration : Declaration}
    (accepted : Interface.ofDeclaration declaration = .ok interface) :
    ((interface.model environment).commands.flatMap (·.aliases)).Nodup := by
  have hnodup := nodup_aliases_of_ofDeclaration accepted
  rw [model, List.flatMap_map]
  exact hnodup

/-- A program of an accepted declaration comes to a command exactly if the first argument is an
alias of it, whatever comes afterwards. The command is the only one that has this alias. And if the
first argument is no alias, or if there is none, then the outcome is the same as without any
commands, wherever else aliases stand. -/
theorem command_iff_alias {declaration : Declaration}
    (accepted : Interface.ofDeclaration declaration = .ok interface) :
    let program := interface.program environment
    (∀ arguments selected, program.parse arguments = .command selected ↔
      arguments.head? = some selected.trigger ∧ ∃ command ∈ program.model.commands,
        selected.trigger ∈ command.aliases ∧ selected.handler = command.handler) ∧
    (∀ (place other : Nat) (command owner : CommandSpec) (word : String),
      program.model.commands[place]? = some command →
      program.model.commands[other]? = some owner →
      word ∈ command.aliases → word ∈ owner.aliases → other = place) ∧
    ∀ arguments : List String,
      (∀ argument ∈ arguments.head?, ∀ command ∈ program.model.commands,
        argument ∉ command.aliases) →
      program.parse arguments = program.withoutCommands.parse arguments := by
  intro program
  have hnodup : (program.model.commands.flatMap (·.aliases)).Nodup :=
    nodup_aliases environment accepted
  refine ⟨fun arguments selected => ?_, ?_, fun arguments hstart => ?_⟩
  · rw [Program.parse_eq_command_iff]
    constructor
    · rintro ⟨argument, hhead, hselect⟩
      obtain ⟨rfl, howner⟩ := (Model.select_eq_some_iff hnodup).mp hselect
      exact ⟨hhead, howner⟩
    · rintro ⟨hhead, howner⟩
      exact ⟨_, hhead, (Model.select_eq_some_iff hnodup).mpr ⟨rfl, howner⟩⟩
  · intro place other command owner word hcommand howner halias hagain
    exact eq_of_mem_aliases hnodup hcommand howner halias hagain
  · refine (Program.parse_withoutCommands fun argument hhead => ?_).symm
    exact Model.findCommand_eq_none_iff.mpr (hstart argument hhead)

/-- One command is selected with others after it, and elsewhere aliases are a value, an unknown
option and a parameter. -/
theorem command_archive :
    let later := ["-t--help", "--help", "--", "--version"]
    Interface.ofDeclaration Sample.archive = .ok Sample.archiveInterface ∧
      Sample.archiveProgram.parse ("--version" :: later) = .command ⟨"--version", .version⟩ ∧
      Sample.archiveProgram.parse later = Sample.archiveProgram.withoutCommands.parse later := by
  intro later
  obtain ⟨hcommand, -, hothers⟩ :=
    command_iff_alias Sample.archiveEnvironment Sample.ofDeclaration_archive
  refine ⟨Sample.ofDeclaration_archive, (hcommand _ _).mpr ⟨rfl, ?_⟩, hothers later ?_⟩
  · exact ⟨_, List.mem_cons_of_mem _ (List.mem_singleton.mpr rfl), by decide, rfl⟩
  · decide

end Interface

end CommandLine
