import CommandLine.Declaration.Attribute

/-!
# Commands of a declaration

The attributes of a whole declaration name the program and declare its commands. A help command and
a version command are there without being declared, unless they are suppressed or a declared command
claims their alias. No alias may be claimed twice.
-/

namespace CommandLine

/-- What a declared command runs. -/
inductive HandlerSource where
  /-- The help screen. -/
  | help
  /-- The name and the version of the program. -/
  | version
  /-- A type by its path. -/
  | type (path : String)
  deriving DecidableEq, Repr

structure CommandDeclaration where
  aliases : List String
  handler : HandlerSource
  description : String
  deriving DecidableEq, Repr

/-- What the attributes of one command say. -/
structure CommandSettings where
  handler : Option String
  aliases : List String
  description : Option String
  deriving DecidableEq, Repr

/-- What the attributes of a declaration say. -/
structure ProgramSettings where
  name : Option String
  version : Option String
  copyright : Option String
  noHelp : Bool
  noVersion : Bool
  helpText : Option String
  messages : Option String
  /-- The declared commands. -/
  commands : List CommandDeclaration
  deriving DecidableEq, Repr

namespace CommandSettings

def empty : CommandSettings :=
  ⟨none, [], none⟩

def read (settings : CommandSettings) (last : Bool) (name : String) (payload : Payload Unit) :
    Except (List AttributeFault) CommandSettings :=
  single <|
    match name with
    | "handler" => (payload.type last).map fun type => { settings with handler := some type }
    | "alias" =>
      (payload.text last).map fun text => { settings with aliases := settings.aliases ++ [text] }
    | "description" =>
      (payload.text last).map fun text => { settings with description := some text }
    | other => .error (.unknown other)

def reader : AttributeReader CommandSettings Unit where
  once := ["handler", "description"]
  repeated := ["alias"]
  read := read

/-- The faults of a command at a place. Something missing has no place in the source, so it is
described if there are other faults. -/
def located (place : Nat) (faults : List AttributeFault) : List AttributeFault :=
  if faults.length ≤ 1 then faults
  else
    faults.map fun
      | .missing name => .missingInCommand name place
      | fault => fault

def command (place : Nat) (settings : List Setting) :
    Except (List AttributeFault) CommandDeclaration := do
  let entries := settings.map Setting.entry
  checkForms entries
  let (found, faults) := reader.readFrom empty [] entries
  let absent := if entries.any (·.1 = "handler") then [] else [.missing "handler"]
  match found.handler, faults ++ absent with
  | some handler, [] => .ok ⟨found.aliases, .type handler, found.description.getD ""⟩
  | _, faults => .error (located place faults)

end CommandSettings

namespace ProgramSettings

def empty : ProgramSettings :=
  ⟨none, none, none, false, false, none, none, []⟩

def readCommand (settings : ProgramSettings) (last : Bool) (payload : Payload (List Setting)) :
    Except (List AttributeFault) ProgramSettings :=
  match payload with
  | .list items =>
    (CommandSettings.command settings.commands.length items).map fun command =>
      { settings with commands := settings.commands ++ [command] }
  | .word => .error [.unexpectedForm "word"]
  | .value expression =>
    single <| do
      let (_, literal) ← Payload.literal? last expression
      .error (.unexpectedType literal.typeName)

def read (settings : ProgramSettings) (last : Bool) (name : String)
    (payload : Payload (List Setting)) : Except (List AttributeFault) ProgramSettings :=
  match name with
  | "name" => single <| (payload.text last).map fun text => { settings with name := some text }
  | "version" =>
    single <| (payload.text last).map fun text => { settings with version := some text }
  | "copyright" =>
    single <| (payload.text last).map fun text => { settings with copyright := some text }
  | "no_help" => single <| (payload.bare last).map fun _ => { settings with noHelp := true }
  | "no_version" => single <| (payload.bare last).map fun _ => { settings with noVersion := true }
  | "help_text" =>
    single <| (payload.path last).map fun path => { settings with helpText := some path }
  | "messages" =>
    single <| (payload.path last).map fun path => { settings with messages := some path }
  | "command" => readCommand settings last payload
  | other => .error [.unknown other]

def reader : AttributeReader ProgramSettings (List Setting) where
  once := ["name", "version", "copyright", "no_help", "no_version", "help_text", "messages"]
  repeated := ["command"]
  read := read

end ProgramSettings

/-! ### Aliases -/

inductive AliasFault where
  | noName
  | start
  | ending
  | characters
  deriving DecidableEq, Repr

def AliasFault.message : AliasFault → String
  | .noName => "special command aliases need a name"
  | .start => "special command names must start with a letter"
  | .ending => "special command names can't end with '-'"
  | .characters =>
    "special command names may only contain letters, digits, and hyphens"

inductive CommandFault where
  | attributes (faults : List AttributeFault)
  | noAlias
  | aliasFault (fault : AliasFault)
  | duplicateAlias (name : String)
  deriving DecidableEq, Repr

def CommandFault.messages : CommandFault → List String
  | .attributes faults => faults.map AttributeFault.message
  | .noAlias => ["a special command needs at least one `alias`"]
  | .aliasFault fault => [fault.message]
  | .duplicateAlias name => ["duplicate special command alias: " ++ name, "original use here"]

namespace CommandDeclaration

/-- An alias without the hyphens in front of its name. -/
def aliasName (text : String) : List Char :=
  match text.toList with
  | '-' :: '-' :: name => name
  | '-' :: name => name
  | name => name

/-- A name made of letters, digits and hyphens, which starts with a letter and does not end with a
hyphen. -/
def checkAlias (text : String) : Except AliasFault Unit :=
  match aliasName text with
  | [] => .error .noName
  | c :: rest =>
    if !Text.isAlphabetic c then .error .start
    else if (c :: rest).getLast? = some '-' then .error .ending
    else if !(c :: rest).all (fun c => Text.isAlphanumeric c || c = '-') then .error .characters
    else .ok ()

/-- Check the aliases of a command, of which there must be one. -/
def check (command : CommandDeclaration) : Except CommandFault Unit := do
  if command.aliases = [] then .error .noAlias
  command.aliases.forM fun text => (checkAlias text).mapError .aliasFault

def help : CommandDeclaration :=
  ⟨["--help"], .help, "Show help screen"⟩

def version : CommandDeclaration :=
  ⟨["--version"], .version, "Show version information"⟩

end CommandDeclaration

/-- The first member that was there before. -/
def firstRepeated? {α : Type} [DecidableEq α] : List α → List α → Option α
  | _, [] => none
  | before, x :: rest => if x ∈ before then some x else firstRepeated? (x :: before) rest

theorem firstRepeated?_eq_none_iff {α : Type} [DecidableEq α] {before list : List α} :
    firstRepeated? before list = none ↔ list.Nodup ∧ ∀ x ∈ list, x ∉ before := by
  induction list generalizing before with
  | nil => simp [firstRepeated?]
  | cons x rest ih =>
    by_cases h : x ∈ before
    · simp [firstRepeated?, h]
    · simp only [firstRepeated?, h, if_false, ih, List.nodup_cons, List.mem_cons, not_or]
      constructor
      · rintro ⟨nodup, new⟩
        refine ⟨⟨fun mem => (new x mem).1 rfl, nodup⟩, ?_⟩
        rintro y (rfl | mem)
        · exact h
        · exact (new y mem).2
      · rintro ⟨⟨absent, nodup⟩, new⟩
        refine ⟨nodup, fun y mem => ⟨?_, new y (.inr mem)⟩⟩
        rintro rfl
        exact absent mem

namespace ProgramSettings

def claims (settings : ProgramSettings) (name : String) : Bool :=
  settings.commands.any (name ∈ ·.aliases)

/-- The commands that are there without being declared. -/
def builtIn (settings : ProgramSettings) : List CommandDeclaration :=
  (if settings.noHelp || settings.claims "--help" then [] else [.help]) ++
    (if settings.noVersion || settings.claims "--version" then [] else [.version])

/-- All commands, the declared ones last. -/
def table (settings : ProgramSettings) : List CommandDeclaration :=
  settings.builtIn ++ settings.commands

/-- Check the declared commands and the aliases of all of them. -/
def check (settings : ProgramSettings) : Except CommandFault Unit := do
  settings.commands.forM CommandDeclaration.check
  match firstRepeated? [] (settings.table.flatMap (·.aliases)) with
  | some name => .error (.duplicateAlias name)
  | none => .ok ()

/-- The settings that attributes declare, if their commands pass. -/
def ofAttributes (attributes : List Attribute) : Except CommandFault ProgramSettings := do
  let settings ←
    (reader.readAll empty (attributes.map Attribute.entry)).mapError CommandFault.attributes
  settings.check
  return settings

end ProgramSettings

end CommandLine
