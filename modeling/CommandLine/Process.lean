import CommandLine.Help
import CommandLine.Program
import CommandLine.Text.Utf8

/-!
# Processes

A process is started with a list of byte strings, the first of which is the name of the program. It
either goes on with the options that its arguments stand for, or it exits: after an error with the
help screen on its error output, or with the code of a command that was run instead.
-/

namespace CommandLine

structure LoadedArguments where
  arguments : List String
  deriving DecidableEq, Repr

namespace LoadedArguments

/-- The arguments that byte strings stand for. Malformed parts are replaced. -/
def ofBytes (arguments : List (List UInt8)) : LoadedArguments :=
  ⟨arguments.map Text.decodeLossy⟩

def programName (loaded : LoadedArguments) : Option String :=
  loaded.arguments.head?

/-- The arguments after the name of the program. -/
def rest (loaded : LoadedArguments) : List String :=
  loaded.arguments.tail

end LoadedArguments

structure Exit where
  code : Int
  /-- What it has written to its output. -/
  output : String
  /-- What it has written to its error output. -/
  errors : String
  deriving DecidableEq, Repr

/-- The exit code as a system reports it: its last eight bits. -/
def Exit.reportedCode (exit : Exit) : Nat :=
  (exit.code % 256).toNat

def Handler.run (model : Model) : Handler → Exit
  | .help => ⟨0, model.help none, ""⟩
  | .version => ⟨0, model.info.name ++ " " ++ model.info.version ++ "\n", ""⟩
  | .custom _ output code => ⟨code, output, ""⟩

/-- Go on with the options, or exit. -/
def Program.parseOrExit {σ α : Type} (program : Program σ α) (loaded : LoadedArguments) :
    Except Exit α :=
  match program.parse loaded.rest with
  | .options options => .ok options
  | .command command => .error (command.handler.run program.model)
  | .errors errors => .error ⟨1, "", program.model.help (some errors)⟩

end CommandLine
