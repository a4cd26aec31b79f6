import CommandLine.Error.Collected
import CommandLine.Kind

/-!
# Models

A model says which arguments a program takes: its options, its parameters in order, what collects
the arguments after them, and the commands that are run instead of the program. It is plain data.
How values are decoded and where they are stored is the concern of a program.
-/

namespace CommandLine

/-! ### Commands -/

/-- What a special command does. -/
inductive Handler where
  /-- Show the help screen. -/
  | help
  /-- Show the name and the version of the program. -/
  | version
  /-- Write a text and exit with a code. -/
  | custom (name output : String) (code : Int)
  deriving DecidableEq, Repr

def Handler.name : Handler → String
  | .help => "HelpCommand"
  | .version => "VersionCommand"
  | .custom name _ _ => name

/-- A command that is selected by one of its aliases. -/
structure CommandSpec where
  aliases : List String
  description : String
  handler : Handler
  deriving DecidableEq, Repr

/-- A command that was selected, with the alias that did it. -/
structure SpecialCommand where
  trigger : String
  handler : Handler
  deriving Repr

/-- Two selected commands are the same if the same alias selected a handler of the same name. -/
def SpecialCommand.same (a b : SpecialCommand) : Bool :=
  a.trigger = b.trigger && a.handler.name = b.handler.name

/-! ### Arguments -/

/-- An option: a named argument. -/
structure OptionSpec where
  /-- The name of the field that holds its value. -/
  field : String
  tags : Tags
  kind : ValueKind
  required : Bool
  description : String
  deriving DecidableEq, Repr

/-- A parameter: an argument known by its position. -/
structure ParameterSpec where
  index : Nat
  /-- The name shown in help screens and errors. -/
  name : String
  kind : ValueKind
  required : Bool
  description : String
  deriving DecidableEq, Repr

/-- The collector of all positional arguments after the last parameter. -/
structure RemainingSpec where
  name : String
  kind : ValueKind
  description : String
  deriving DecidableEq, Repr

/-- What a help screen says besides the arguments. -/
structure ProgramInfo where
  name : String
  version : String
  copyright : Option String
  /-- Takes the place of the whole help screen. -/
  helpText : Option (Option ParseErrors → String)
  /-- Takes the place of the wording of some errors. -/
  messages : Option MessageTable

/-- The arguments of a program. -/
structure Model where
  info : ProgramInfo
  options : List OptionSpec
  parameters : List ParameterSpec
  remaining : Option RemainingSpec
  commands : List CommandSpec

namespace Model

/-! ### Looking things up

The first match wins everywhere. -/

/-- The place of the option with this long tag. -/
def findLong (model : Model) (name : String) : Option Nat :=
  model.options.findIdx? fun option => option.tags.long? = some name

def findShort (model : Model) (letter : Char) : Option Nat :=
  model.options.findIdx? fun option => option.tags.short? = some letter

def findCommand (model : Model) (argument : String) : Option CommandSpec :=
  model.commands.find? fun command => argument ∈ command.aliases

def select (model : Model) (argument : String) : Option SpecialCommand :=
  (model.findCommand argument).map fun command => ⟨argument, command.handler⟩

theorem findLong_lt {model : Model} {name : String} {place : Nat}
    (h : model.findLong name = some place) : place < model.options.length := by
  unfold findLong at h
  exact (List.findIdx?_eq_some_iff_getElem.1 h).1

theorem findShort_lt {model : Model} {letter : Char} {place : Nat}
    (h : model.findShort letter = some place) : place < model.options.length := by
  unfold findShort at h
  exact (List.findIdx?_eq_some_iff_getElem.1 h).1

end Model

end CommandLine
