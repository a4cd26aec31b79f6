import CommandLine.Error.Collected

/-!
# Message tables of the sample programs

Tables with wordings for no kind of error, for two, for some with repeated lines and empty messages,
and for all of them. A help text that takes the place of a whole help screen is here as well.
-/

namespace CommandLine.Sample

def noMessages : MessageTable :=
  .empty

/-- Wordings for a missing parameter and an unknown option. -/
def partialMessages : MessageTable :=
  (MessageTable.empty.set .missingParameter fun error =>
    match error with
    | .missingParameter parameter _ => "please provide a <" ++ parameter ++ ">"
    | other => other.message).set .unknownOption fun error =>
    match error with
    | .unknownOption option _ => "what is " ++ option ++ "?"
    | other => other.message

/-- Wordings of several lines, and one that is replaced. -/
def linesMessages : MessageTable :=
  ((MessageTable.empty.set .unrecognizedArgument fun error =>
    "first line\n\n" ++ error.message ++ "\n  last line").set .duplicateOption fun _ => "").set
    .duplicateOption fun _ => "again?"

/-- Every kind of error with its number in front. -/
def fullMessages : MessageTable :=
  ErrorKind.all.zipIdx.foldl
    (fun table (kind, place) =>
      table.set kind fun error => "E" ++ toString place ++ " " ++ error.message)
    .empty

def messages? (name : String) : Option MessageTable :=
  match name with
  | "NONE" => some noMessages
  | "PARTIAL" => some partialMessages
  | "MULTI" => some linesMessages
  | "FULL" => some fullMessages
  | _ => none

def style? (name : String) : Option (ParseError → String) :=
  match name with
  | "empty" => some fun _ => ""
  | "star" => some fun error => "* " ++ error.message
  | "lines" => some fun error => error.message ++ "\n\n  " ++ error.message ++ "\n"
  | _ => none

/-- A help text that counts the errors. -/
def helpText (errors : Option ParseErrors) : String :=
  match errors with
  | none => "usage: custom [--value VALUE]\n"
  | some errors =>
    toString errors.errors.length ++ " problem(s)\n" ++ errors.display ++ "\n"

end CommandLine.Sample
