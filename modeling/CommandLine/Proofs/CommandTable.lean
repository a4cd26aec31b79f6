import CommandLine.Proofs.Dispatch
import CommandLine.Proofs.Written

/-!
# The command table

The commands of a declaration are accepted exactly if each of them has an alias, every alias is a
name behind at most two hyphens, and no alias is there twice. The built-in commands never stand in
the way: one of them is in the table unless it is suppressed or a declared command claims its alias.
In an accepted table every alias leads to the command that declares it.
-/

namespace CommandLine

/-! ### Aliases -/

/-- A name is made of letters, digits of any script and hyphens, starts with a letter and does not
end with a hyphen. -/
structure IsCommandName (name : List Char) : Prop where
  start : ∃ letter ∈ name.head?, Text.isAlphabetic letter = true
  ending : name.getLast? ≠ some '-'
  characters : ∀ c ∈ name, Text.isAlphanumeric c = true ∨ c = '-'

/-- An alias is a name, one or two hyphens may stand before it. -/
def IsAlias (text : String) : Prop :=
  ∃ hyphens name : List Char, hyphens ∈ [[], ['-'], ['-', '-']] ∧ text.toList = hyphens ++ name ∧
    IsCommandName name

namespace CommandDeclaration

lemma exists_hyphens (text : String) :
    ∃ hyphens ∈ [[], ['-'], ['-', '-']], text.toList = hyphens ++ aliasName text := by
  rw [aliasName]
  split
  · next htext => exact ⟨['-', '-'], by simp, htext⟩
  · next htext => exact ⟨['-'], by simp, htext⟩
  · exact ⟨[], by simp, rfl⟩

/-- No hyphen is left before a name that starts with a letter. -/
lemma aliasName_eq {text : String} {hyphens name : List Char}
    (hhyphens : hyphens ∈ [[], ['-'], ['-', '-']]) (htext : text.toList = hyphens ++ name)
    (hname : IsCommandName name) : aliasName text = name := by
  obtain ⟨letter, hletter, halphabetic⟩ := hname.start
  obtain ⟨rest, rfl⟩ : ∃ rest, name = letter :: rest := by
    cases name with
    | nil => simp at hletter
    | cons first rest => exact ⟨rest, by rw [Option.some.inj hletter]⟩
  have hne : letter ≠ '-' := by
    rintro rfl
    exact absurd halphabetic (by decide)
  simp only [List.mem_cons, List.not_mem_nil, or_false] at hhyphens
  rcases hhyphens with rfl | rfl | rfl <;> simp [aliasName, htext, hne]

lemma checkAlias_eq_ok_iff_name {text : String} :
    checkAlias text = .ok () ↔ IsCommandName (aliasName text) := by
  have hall (name : List Char) :
      (name.all fun c => Text.isAlphanumeric c || c = '-') = true ↔
        ∀ c ∈ name, Text.isAlphanumeric c = true ∨ c = '-' := by
    simp only [List.all_eq_true, Bool.or_eq_true, decide_eq_true_eq]
  rw [checkAlias]
  cases aliasName text with
  | nil => exact iff_of_false (by simp) fun h => by simpa using h.start
  | cons first rest =>
    dsimp only
    split_ifs with hstart hending hcharacters
    · refine iff_of_false (by simp) fun h => ?_
      obtain ⟨letter, hletter, halphabetic⟩ := h.start
      obtain rfl := Option.some.inj hletter
      simp [halphabetic] at hstart
    · exact iff_of_false (by simp) fun h => h.ending hending
    · refine iff_of_false (by simp) fun h => ?_
      simp only [(hall _).mpr h.characters, Bool.not_true, Bool.false_eq_true] at hcharacters
    · refine iff_of_true rfl ⟨⟨first, rfl, by simpa using hstart⟩, hending, ?_⟩
      exact (hall _).mp (by simpa only [Bool.not_eq_true', Bool.not_eq_false] using hcharacters)

lemma checkAlias_eq_ok_iff {text : String} : checkAlias text = .ok () ↔ IsAlias text := by
  rw [checkAlias_eq_ok_iff_name]
  constructor
  · intro hname
    obtain ⟨hyphens, hhyphens, htext⟩ := exists_hyphens text
    exact ⟨hyphens, _, hhyphens, htext, hname⟩
  · rintro ⟨hyphens, name, hhyphens, htext, hname⟩
    rwa [aliasName_eq hhyphens htext hname]

lemma check_eq_ok_iff {command : CommandDeclaration} :
    command.check = .ok () ↔ command.aliases ≠ [] ∧ ∀ text ∈ command.aliases, IsAlias text := by
  rw [check]
  split_ifs with hnone
  · exact iff_of_false (by simp [bind, Except.bind]) fun h => h.1 hnone
  · rw [and_iff_right hnone]
    refine forM_eq_ok_iff.trans (forall₂_congr fun text _ => ?_)
    rw [Except.mapError_eq_ok_iff, checkAlias_eq_ok_iff]

/-- One command by itself is not refused for a duplicate. -/
lemma ne_duplicateAlias_of_check {command : CommandDeclaration} {fault : CommandFault}
    {name : String} (h : command.check = .error fault) : fault ≠ .duplicateAlias name := by
  rintro rfl
  rw [check] at h
  split_ifs at h
  · simp [bind, Except.bind] at h
  · obtain ⟨text, -, htext⟩ := exists_of_forM_eq_error h
    cases hfault : checkAlias text <;> simp [hfault, Except.mapError] at htext

end CommandDeclaration

/-! ### Repeated aliases -/

lemma two_le_count_of_firstRepeated? {α : Type} [DecidableEq α] {before list : List α} {x : α}
    (h : firstRepeated? before list = some x) : x ∈ before ∧ x ∈ list ∨ 2 ≤ list.count x := by
  induction list generalizing before with
  | nil => simp [firstRepeated?] at h
  | cons first rest ih =>
    rw [firstRepeated?] at h
    split_ifs at h with hbefore
    · obtain rfl := Option.some.inj h
      exact .inl ⟨hbefore, List.mem_cons_self ..⟩
    · rcases ih h with ⟨hmem, hrest⟩ | hcount
      · rcases List.mem_cons.mp hmem with rfl | hmem
        · refine .inr ?_
          have hpos := List.count_pos_iff.mpr hrest
          rw [List.count_cons_self]
          omega
        · exact .inl ⟨hmem, List.mem_cons_of_mem _ hrest⟩
      · exact .inr (Nat.le_trans hcount (List.count_le_count_cons ..))

namespace ProgramSettings

variable {settings : ProgramSettings}

def declaredAliases (settings : ProgramSettings) : List String :=
  settings.commands.flatMap (·.aliases)

lemma claims_eq_true_iff {name : String} :
    settings.claims name = true ↔ name ∈ settings.declaredAliases := by
  simp [claims, declaredAliases]

/-- The aliases of the built-in commands that are there are claimed by no declared command. -/
lemma builtIn_aliases :
    (settings.builtIn.flatMap (·.aliases)).Nodup ∧
      ∀ name ∈ settings.builtIn.flatMap (·.aliases), name ∉ settings.declaredAliases := by
  have hhelp : settings.claims "--help" = true ↔ "--help" ∈ settings.declaredAliases :=
    claims_eq_true_iff
  have hversion : settings.claims "--version" = true ↔ "--version" ∈ settings.declaredAliases :=
    claims_eq_true_iff
  rw [builtIn]
  split_ifs with hnoHelp hnoVersion hnoVersion <;>
    simp_all [CommandDeclaration.help, CommandDeclaration.version]

lemma flatMap_aliases_table :
    settings.table.flatMap (·.aliases) =
      settings.builtIn.flatMap (·.aliases) ++ settings.declaredAliases :=
  List.flatMap_append ..

lemma nodup_table_iff :
    (settings.table.flatMap (·.aliases)).Nodup ↔ settings.declaredAliases.Nodup := by
  obtain ⟨hnodup, hapart⟩ := settings.builtIn_aliases
  rw [flatMap_aliases_table, List.nodup_append', and_iff_right hnodup, and_iff_left]
  exact hapart

/-- What is there twice in the whole table is there twice among the declared commands. -/
lemma two_le_count_declared {name : String}
    (h : 2 ≤ (settings.table.flatMap (·.aliases)).count name) :
    2 ≤ settings.declaredAliases.count name := by
  obtain ⟨hnodup, hapart⟩ := settings.builtIn_aliases
  rw [flatMap_aliases_table, List.count_append] at h
  by_cases hbuiltIn : name ∈ settings.builtIn.flatMap (·.aliases)
  · have hone := List.nodup_iff_count_le_one.mp hnodup name
    have hnone := List.count_eq_zero.mpr (hapart name hbuiltIn)
    omega
  · have hnone := List.count_eq_zero.mpr hbuiltIn
    omega

/-- Whether an alias is there twice does not depend on the built-in commands. -/
lemma check_eq_ok_iff :
    settings.check = .ok () ↔
      (∀ command ∈ settings.commands, command.aliases ≠ [] ∧
        ∀ text ∈ command.aliases, IsAlias text) ∧ settings.declaredAliases.Nodup := by
  have hchecks : settings.commands.forM CommandDeclaration.check = .ok () ↔
      ∀ command ∈ settings.commands, command.aliases ≠ [] ∧
        ∀ text ∈ command.aliases, IsAlias text :=
    forM_eq_ok_iff.trans (forall₂_congr fun command _ => CommandDeclaration.check_eq_ok_iff)
  have hrepeated : firstRepeated? [] (settings.table.flatMap (·.aliases)) = none ↔
      settings.declaredAliases.Nodup := by
    rw [firstRepeated?_eq_none_iff, nodup_table_iff]
    simp
  rw [check, Except.bind_eq_ok_iff, ← hchecks, ← hrepeated]
  cases firstRepeated? [] (settings.table.flatMap (·.aliases)) with
  | some name => simp
  | none => exact ⟨fun ⟨_, hcheck, _⟩ => ⟨hcheck, rfl⟩, fun ⟨hcheck, _⟩ => ⟨(), hcheck, rfl⟩⟩

/-- The commands of an accepted table have aliases, the built-in ones as well. -/
lemma aliases_of_check (h : settings.check = .ok ()) :
    ∀ command ∈ settings.table, command.aliases ≠ [] ∧ ∀ text ∈ command.aliases, IsAlias text := by
  intro command hcommand
  rw [table, builtIn, List.mem_append, List.mem_append] at hcommand
  rcases hcommand with (hhelp | hversion) | hdeclared
  · split_ifs at hhelp
    · simp at hhelp
    · rw [List.mem_singleton.mp hhelp]
      exact CommandDeclaration.check_eq_ok_iff.mp rfl
  · split_ifs at hversion
    · simp at hversion
    · rw [List.mem_singleton.mp hversion]
      exact CommandDeclaration.check_eq_ok_iff.mp rfl
  · exact (check_eq_ok_iff.mp h).1 command hdeclared

/-- Only a name that the declared commands repeat is refused as a duplicate. -/
lemma two_le_count_of_check {name : String} (h : settings.check = .error (.duplicateAlias name)) :
    2 ≤ settings.declaredAliases.count name := by
  rw [check] at h
  cases hchecks : settings.commands.forM CommandDeclaration.check with
  | error fault =>
    obtain ⟨command, -, hcommand⟩ := exists_of_forM_eq_error hchecks
    rw [hchecks] at h
    obtain rfl := Except.error.inj h
    exact absurd rfl (command.ne_duplicateAlias_of_check hcommand)
  | ok done =>
    rw [hchecks] at h
    apply two_le_count_declared
    cases hrepeated : firstRepeated? [] (settings.table.flatMap (·.aliases)) with
    | none => simp [hrepeated, bind, Except.bind] at h
    | some repeated =>
      simp only [hrepeated, bind, Except.bind, Except.error.injEq,
        CommandFault.duplicateAlias.injEq] at h
      obtain rfl := h
      simpa using two_le_count_of_firstRepeated? hrepeated

end ProgramSettings

namespace ProgramSettings

/-! ### The table -/

variable {settings : ProgramSettings}

lemma ofAttributes_eq {attributes : List Attribute}
    (h : reader.readAll empty (attributes.map Attribute.entry) = .ok settings) :
    ofAttributes attributes = settings.check.map fun _ => settings := by
  rw [ofAttributes, h]
  cases hcheck : settings.check <;>
    simp [hcheck, bind, Except.bind, Except.map, Except.mapError, pure, Except.pure]

/-- A built-in command is there unless it is suppressed or its alias is claimed. -/
lemma builtIn_eq :
    settings.builtIn =
      (if settings.noHelp = true ∨ ∃ command ∈ settings.commands, "--help" ∈ command.aliases
        then [] else [.help]) ++
      (if settings.noVersion = true ∨ ∃ command ∈ settings.commands, "--version" ∈ command.aliases
        then [] else [.version]) := by
  simp [builtIn, claims]

/-- A built-in command that nothing keeps out is there. -/
lemma mem_of_stays {suppressed : Bool} {name : String} {command : CommandDeclaration}
    (hkept : suppressed = false)
    (hfree : ∀ other ∈ settings.commands, name ∉ other.aliases) :
    command ∈ if suppressed = true ∨ ∃ other ∈ settings.commands, name ∈ other.aliases
      then [] else [command] := by
  have hstays : ¬ (suppressed = true ∨ ∃ other ∈ settings.commands, name ∈ other.aliases) := by
    simpa [hkept] using hfree
  rw [if_neg hstays]
  exact List.mem_singleton_self command

lemma help_mem_table (hkept : settings.noHelp = false)
    (hfree : ∀ command ∈ settings.commands, "--help" ∉ command.aliases) :
    .help ∈ settings.table := by
  rw [table, builtIn_eq]
  exact List.mem_append_left _ (List.mem_append_left _ (mem_of_stays hkept hfree))

lemma version_mem_table (hkept : settings.noVersion = false)
    (hfree : ∀ command ∈ settings.commands, "--version" ∉ command.aliases) :
    .version ∈ settings.table := by
  rw [table, builtIn_eq]
  exact List.mem_append_left _ (List.mem_append_right _ (mem_of_stays hkept hfree))

lemma nodup_aliases_model {interface : Interface} (hcheck : interface.settings.check = .ok ())
    {α : Type} (environment : Environment α) :
    ((interface.model environment).commands.flatMap (·.aliases)).Nodup := by
  rw [Interface.model, List.flatMap_map]
  exact nodup_of_check hcheck

/-- Any commands can be declared in attributes, with the built-in ones suppressed or not. Where
attributes can be read, they are accepted exactly if every command has an alias, every alias is a
name behind at most two hyphens, and no alias is there twice, in one command or in several. Then the
table holds the built-in help and the built-in version, each unless it is suppressed or a declared
command claims its alias, and after them the declared commands in order. So a command that claims
one of these aliases leaves the other command in place. A look-up finds for every alias in the table
the command that declares it, and nothing for any other text. What is refused as a duplicate stands
twice among the aliases of the declared commands, so claiming a built-in alias is never a collision.
-/
theorem command_table :
    (∀ (noHelp noVersion : Bool) (sources : List CommandSource)
        (commands : List CommandDeclaration),
      sources.map CommandSource.declared? = commands.map some →
      reader.readAll empty
          ((suppressions noHelp noVersion ++ sources.map CommandSource.written).map
            Attribute.entry) =
        .ok { empty with noHelp := noHelp, noVersion := noVersion, commands := commands }) ∧
    ∀ (attributes : List Attribute) (settings : ProgramSettings),
      reader.readAll empty (attributes.map Attribute.entry) = .ok settings →
      ((∃ found, ofAttributes attributes = .ok found) ↔
        (∀ command ∈ settings.commands, command.aliases ≠ [] ∧
          ∀ text ∈ command.aliases, IsAlias text) ∧
        (settings.commands.flatMap (·.aliases)).Nodup) ∧
      (∀ name, ofAttributes attributes = .error (.duplicateAlias name) →
        2 ≤ (settings.commands.flatMap (·.aliases)).count name) ∧
      ∀ found, ofAttributes attributes = .ok found →
        found = settings ∧
        found.table =
          (if settings.noHelp = true ∨ ∃ command ∈ settings.commands, "--help" ∈ command.aliases
            then [] else [.help]) ++
          (if settings.noVersion = true ∨
              ∃ command ∈ settings.commands, "--version" ∈ command.aliases
            then [] else [.version]) ++
          settings.commands ∧
        (settings.noHelp = false → (∀ command ∈ settings.commands, "--help" ∉ command.aliases) →
          .help ∈ found.table) ∧
        (settings.noVersion = false →
          (∀ command ∈ settings.commands, "--version" ∉ command.aliases) →
          .version ∈ found.table) ∧
        ∀ (interface : Interface) (α : Type) (environment : Environment α),
          interface.settings = found →
          let model := interface.model environment
          (∀ command ∈ found.table, ∀ text ∈ command.aliases,
            model.findCommand text = some (command.spec environment) ∧
            model.select text = some ⟨text, command.handler.handler environment⟩) ∧
          ∀ text, (∀ command ∈ found.table, text ∉ command.aliases) →
            model.findCommand text = none ∧ model.select text = none := by
  refine ⟨fun noHelp noVersion sources commands h => readAll_written h noHelp noVersion, ?_⟩
  intro attributes settings hsettings
  rw [ofAttributes_eq hsettings]
  refine ⟨?_, fun name hname => ?_, fun found hfound => ?_⟩
  · rw [← declaredAliases, ← check_eq_ok_iff]
    constructor
    · rintro ⟨found, hfound⟩
      obtain ⟨_, hcheck, -⟩ := Except.map_eq_ok_iff.mp hfound
      exact hcheck
    · intro hcheck
      exact ⟨settings, Except.map_eq_ok_iff.mpr ⟨(), hcheck, rfl⟩⟩
  · cases hcheck : settings.check with
    | ok done => simp [hcheck, Except.map] at hname
    | error fault =>
      rw [hcheck] at hname
      obtain rfl := Except.error.inj hname
      exact two_le_count_of_check hcheck
  · obtain ⟨_, hcheck, rfl⟩ := Except.map_eq_ok_iff.mp hfound
    refine ⟨rfl, by rw [table, builtIn_eq], help_mem_table, version_mem_table, ?_⟩
    rintro interface α environment rfl model
    have hnodup := nodup_aliases_model hcheck environment
    refine ⟨fun command hcommand text htext => ?_, fun text hnone => ?_⟩
    · have hfind : model.findCommand text = some (command.spec environment) :=
        (Model.findCommand_eq_some_iff hnodup).mpr ⟨List.mem_map_of_mem hcommand, htext⟩
      exact ⟨hfind, by simp [Model.select, hfind, CommandDeclaration.spec]⟩
    · have hfind : model.findCommand text = none :=
        Model.findCommand_eq_none_iff.mpr (List.forall_mem_map.mpr hnone)
      exact ⟨hfind, by simp [Model.select, hfind]⟩

/-- A command takes the place of the built-in help, and another one repeats an alias. -/
theorem command_table_replaced :
    let source := CommandSource.mk "Other" ["--help", "-o"] none
    let command := CommandDeclaration.mk ["--help", "-o"] (.type "Other") ""
    let attributes := suppressions false false ++ [source].map CommandSource.written
    let again := suppressions false false ++ [source, source].map CommandSource.written
    let settings : ProgramSettings := { empty with commands := [command] }
    let model := Interface.model ⟨settings, [], [], none⟩ Sample.archiveEnvironment
    [source].map CommandSource.declared? = [command].map some ∧
      reader.readAll empty (attributes.map Attribute.entry) = .ok settings ∧
      ofAttributes attributes = .ok settings ∧ settings.noVersion = false ∧
      (∀ other ∈ settings.commands, "--version" ∉ other.aliases) ∧
      .version ∈ settings.table ∧
      (∀ other ∈ settings.commands, other.aliases ≠ [] ∧ ∀ text ∈ other.aliases, IsAlias text) ∧
      model.findCommand "--help" = some (command.spec Sample.archiveEnvironment) ∧
      model.findCommand "-h" = none ∧
      ofAttributes again = .error (.duplicateAlias "--help") ∧
      2 ≤ ([command, command].flatMap (·.aliases)).count "--help" := by
  intro source command attributes again settings model
  obtain ⟨hwritten, hattributes⟩ := command_table
  have hdeclared : [source].map CommandSource.declared? = [command].map some := by decide +kernel
  have hread := hwritten false false [source] [command] hdeclared
  have htwice := hwritten false false [source, source] [command, command] (by decide +kernel)
  have haccepted : ofAttributes attributes = .ok settings := (ofAttributes_eq hread).trans rfl
  have hrefused : ofAttributes again = .error (.duplicateAlias "--help") :=
    (ofAttributes_eq htwice).trans rfl
  obtain ⟨hiff, -, hfound⟩ := hattributes attributes settings hread
  obtain ⟨-, -, -, hversion, hmodel⟩ := hfound settings haccepted
  obtain ⟨hfind, hnone⟩ := hmodel ⟨settings, [], [], none⟩ Scalar Sample.archiveEnvironment rfl
  have hfree : ∀ other ∈ settings.commands, "--version" ∉ other.aliases := by decide
  refine ⟨hdeclared, hread, haccepted, rfl, hfree, hversion rfl hfree,
    (hiff.mp ⟨_, haccepted⟩).1, ?_, ?_, hrefused, (hattributes again _ htwice).2.1 "--help" hrefused⟩
  · exact (hfind command (by decide) "--help" (by decide)).1
  · exact (hnone "-h" (by decide)).1

end ProgramSettings

end CommandLine
