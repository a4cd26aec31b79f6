import CommandLine.Declaration.Commands
import Mathlib.Data.List.Basic

/-!
# Written commands

Commands can be written down as attributes: what is written to declare a list of commands, with the
built-in ones suppressed or not, is read as exactly these commands.
-/

namespace CommandLine

/-! ### What is written -/

/-- What is written to declare a command. -/
structure CommandSource where
  handler : String
  aliases : List String
  description : Option String

namespace CommandSource

def written (source : CommandSource) : Attribute :=
  .command source.handler source.aliases source.description

def textEntry (name text : String) : String × Payload Unit :=
  (name, .value (.string text))

/-- What is written inside of the attribute. -/
def entries (source : CommandSource) : List (String × Payload Unit) :=
  textEntry "handler" source.handler :: (source.aliases.map (textEntry "alias") ++
    source.description.toList.map (textEntry "description"))

lemma written_eq (source : CommandSource) :
    ∃ items, source.written = ⟨"command", .list items⟩ ∧
      items.map Setting.entry = source.entries := by
  refine ⟨_, rfl, ?_⟩
  rw [List.map_append, List.map_cons, List.map_map, List.map_map]
  rfl

/-- The command that is declared, if its handler is a type. -/
def declared? (source : CommandSource) : Option CommandDeclaration :=
  (TypeExpr.ofSource? source.handler).map fun type =>
    ⟨source.aliases, .type type.text, source.description.getD ""⟩

end CommandSource

section Forms

variable {β : Type}

lemma checkForms_eq_ok_iff {entries : List (String × Payload β)} :
    checkForms entries = .ok () ↔ ∀ entry ∈ entries, formFault? entry.1 entry.2 = none := by
  rw [checkForms, ← List.findSome?_eq_none_iff]
  cases entries.findSome? fun entry => formFault? entry.1 entry.2 with
  | none => simp
  | some fault => simp

/-- What is no truth value and no keyword can be the name of an attribute. -/
lemma formFault?_eq_none {name : String} {payload : Payload β}
    (htruth : name ∉ truthWords) (hkeyword : name ∉ Lexeme.keywords)
    (hpayload : ∀ expression, payload = .value expression → expression.construct ≠ .attributed) :
    formFault? name payload = none := by
  cases payload with
  | word => simp [formFault?, formFault?.keywordFault?, htruth, hkeyword]
  | list items => simp [formFault?, formFault?.keywordFault?, htruth, hkeyword]
  | value expression =>
    simp [formFault?, formFault?.keywordFault?, htruth, hkeyword, hpayload expression rfl]

end Forms

namespace AttributeReader

variable {σ β : Type} {reader : AttributeReader σ β}

/-- An attribute that is known, and new if it can be there once only, is read before the others. -/
lemma readFrom_cons {state next : σ} {met : List String} {name : String} {payload : Payload β}
    {rest : List (String × Payload β)} (htruth : name ∉ truthWords)
    (hknown : name ∈ reader.once ∨ name ∈ reader.repeated) (hnew : name ∈ reader.once → name ∉ met)
    (hread : reader.read state rest.isEmpty name payload = .ok next) :
    reader.readFrom state met ((name, payload) :: rest) =
      reader.readFrom next (name :: met) rest := by
  rw [readFrom, if_neg, if_neg, if_neg, hread]
  · exact fun h => hnew h.1 h.2
  · exact fun h => hknown.elim h.1 h.2
  · simp [htruth]

end AttributeReader

namespace CommandSettings

/-- Aliases are collected in order, and a description may follow them. -/
lemma readFrom_aliases {handler : Option String} {found : List String} {met : List String}
    (hmet : "description" ∉ met) (aliases : List String) (description : Option String) :
    reader.readFrom ⟨handler, found, none⟩ met (aliases.map (CommandSource.textEntry "alias") ++
        description.toList.map (CommandSource.textEntry "description")) =
      (⟨handler, found ++ aliases, description⟩, []) := by
  induction aliases generalizing found met with
  | nil =>
    rw [List.map_nil, List.nil_append, List.append_nil]
    cases description with
    | none => rfl
    | some text =>
      have hread (last : Bool) :
          reader.read ⟨handler, found, none⟩ last "description" (.value (.string text)) =
            .ok ⟨handler, found, some text⟩ := rfl
      rw [Option.toList_some, List.map_singleton, CommandSource.textEntry,
        AttributeReader.readFrom_cons (by decide) (.inl (by decide)) (fun _ => hmet) (hread _)]
      rfl
  | cons first rest ih =>
    have hread (last : Bool) :
        reader.read ⟨handler, found, none⟩ last "alias" (.value (.string first)) =
          .ok ⟨handler, found ++ [first], none⟩ := rfl
    have hmet : "description" ∉ "alias" :: met := by simp [hmet]
    rw [List.map_cons, List.cons_append, CommandSource.textEntry, AttributeReader.readFrom_cons
      (by decide) (.inr (by decide)) (fun h => absurd h (by decide)) (hread _), ih hmet,
      List.append_assoc, List.singleton_append]

lemma checkForms_entries (source : CommandSource) : checkForms source.entries = .ok () := by
  have htext (name text : String) (htruth : name ∉ truthWords) (hkeyword : name ∉ Lexeme.keywords) :
      formFault? (CommandSource.textEntry name text).1 (CommandSource.textEntry name text).2 =
        none := by
    refine formFault?_eq_none htruth hkeyword fun expression h => ?_
    obtain rfl := Payload.value.inj h
    simp [Expression.string]
  rw [checkForms_eq_ok_iff]
  intro entry hentry
  simp only [CommandSource.entries, List.mem_cons, List.mem_append, List.mem_map] at hentry
  rcases hentry with rfl | ⟨text, -, rfl⟩ | ⟨text, -, rfl⟩
  · exact htext "handler" source.handler (by decide) (by decide)
  · exact htext "alias" text (by decide) (by decide)
  · exact htext "description" text (by decide) (by decide)

/-- What is written to declare a command is read as this command. -/
lemma command_of_source {source : CommandSource} {declared : CommandDeclaration}
    (h : source.declared? = some declared) (place : Nat) :
    ∃ items, source.written = ⟨"command", .list items⟩ ∧
      command place items = .ok declared := by
  obtain ⟨items, hwritten, hentries⟩ := source.written_eq
  refine ⟨items, hwritten, ?_⟩
  obtain ⟨type, htype, rfl⟩ := Option.map_eq_some_iff.mp h
  have hread (last : Bool) : reader.read empty last "handler" (.value (.string source.handler)) =
      .ok ⟨some type.text, [], none⟩ := by
    simp [reader, read, single, Payload.type, Payload.valueOf, Payload.literal?, Expression.string,
      htype, empty, Except.map, Except.mapError, bind, Except.bind]
  have hall : reader.readFrom empty [] source.entries =
      (⟨some type.text, source.aliases, source.description⟩, []) := by
    rw [CommandSource.entries, CommandSource.textEntry, AttributeReader.readFrom_cons (by decide)
      (.inl (by decide)) (by simp) (hread _), readFrom_aliases (by decide), List.nil_append]
  have hhandler : source.entries.any (·.1 = "handler") = true := by
    simp [CommandSource.entries, CommandSource.textEntry]
  rw [command, hentries, checkForms_entries]
  simp [bind, Except.bind, hall, hhandler]

end CommandSettings

namespace ProgramSettings

/-- The attributes that suppress the built-in commands. -/
def suppressions (noHelp noVersion : Bool) : List Attribute :=
  (if noHelp then [.bare "no_help"] else []) ++ if noVersion then [.bare "no_version"] else []

/-- Commands are collected in order. -/
lemma readFrom_commands {settings : ProgramSettings} {met : List String}
    {sources : List CommandSource} {commands : List CommandDeclaration}
    (h : sources.map CommandSource.declared? = commands.map some) :
    reader.readFrom settings met ((sources.map CommandSource.written).map Attribute.entry) =
      ({ settings with commands := settings.commands ++ commands }, []) := by
  induction sources generalizing settings met commands with
  | nil =>
    obtain rfl : commands = [] := by simpa using h
    simp [AttributeReader.readFrom]
  | cons source rest ih =>
    obtain ⟨declared, commands, rfl⟩ : ∃ declared others, commands = declared :: others := by
      cases commands with
      | nil => simp at h
      | cons declared others => exact ⟨declared, others, rfl⟩
    obtain ⟨hdeclared, hrest⟩ := List.cons.inj h
    obtain ⟨items, hwritten, hcommand⟩ :=
      CommandSettings.command_of_source hdeclared settings.commands.length
    have hread (last : Bool) : reader.read settings last "command" (.list items) =
        .ok { settings with commands := settings.commands ++ [declared] } := by
      simp [reader, read, readCommand, hcommand, Except.map]
    rw [List.map_cons, List.map_cons, hwritten, Attribute.entry, AttributeReader.readFrom_cons
      (by decide) (.inr (by decide)) (fun h => absurd h (by decide)) (hread _), ih hrest]
    simp

lemma readFrom_suppressions (noHelp noVersion : Bool) (entries : List (String × Payload _)) :
    ∃ met, reader.readFrom empty []
        ((suppressions noHelp noVersion).map Attribute.entry ++ entries) =
      reader.readFrom { empty with noHelp := noHelp, noVersion := noVersion } met entries := by
  have hhelp (settings : ProgramSettings) (met : List String) (hmet : "no_help" ∉ met) rest :
      reader.readFrom settings met (("no_help", .word) :: rest) =
        reader.readFrom { settings with noHelp := true } ("no_help" :: met) rest :=
    AttributeReader.readFrom_cons (by decide) (.inl (by decide)) (fun _ => hmet) rfl
  have hversion (settings : ProgramSettings) (met : List String) (hmet : "no_version" ∉ met) rest :
      reader.readFrom settings met (("no_version", .word) :: rest) =
        reader.readFrom { settings with noVersion := true } ("no_version" :: met) rest :=
    AttributeReader.readFrom_cons (by decide) (.inl (by decide)) (fun _ => hmet) rfl
  cases noHelp <;> cases noVersion
  · exact ⟨_, rfl⟩
  · exact ⟨_, hversion _ _ (by decide) _⟩
  · exact ⟨_, hhelp _ _ (by decide) _⟩
  · exact ⟨_, (hhelp _ _ (by decide) _).trans (hversion _ _ (by decide) _)⟩

/-- Every list of commands can be declared, whichever built-in commands are suppressed. -/
lemma readAll_written {sources : List CommandSource} {commands : List CommandDeclaration}
    (h : sources.map CommandSource.declared? = commands.map some) (noHelp noVersion : Bool) :
    reader.readAll empty
        ((suppressions noHelp noVersion ++ sources.map CommandSource.written).map
          Attribute.entry) =
      .ok { empty with noHelp := noHelp, noVersion := noVersion, commands := commands } := by
  have hforms : checkForms ((suppressions noHelp noVersion ++
      sources.map CommandSource.written).map Attribute.entry) = .ok () := by
    rw [checkForms_eq_ok_iff, List.forall_mem_map, List.forall_mem_append, List.forall_mem_map]
    refine ⟨?_, fun source _ => ?_⟩
    · cases noHelp <;> cases noVersion <;> decide
    · have htruth : "command" ∉ truthWords := by decide
      have hkeyword : "command" ∉ Lexeme.keywords := by decide
      exact formFault?_eq_none htruth hkeyword nofun
  obtain ⟨met, hall⟩ := readFrom_suppressions noHelp noVersion
    ((sources.map CommandSource.written).map Attribute.entry)
  rw [readFrom_commands h] at hall
  rw [AttributeReader.readAll, hforms, List.map_append]
  simp only [bind, Except.bind, hall]
  rfl

end ProgramSettings

end CommandLine
