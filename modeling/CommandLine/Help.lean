import CommandLine.Model
import CommandLine.Text.Reflow

/-!
# Help screens

A help screen has a title, perhaps a line about copyright, and up to four sections: errors, options,
parameters and commands. A section is a header and indented lines; one without lines is left out. An
item takes a single line, with its description after a tab. A message of an error may take several.
-/

namespace CommandLine

namespace Help

/-- Indent every line that is not empty by two spaces. -/
def indent (text : List Char) : List Char :=
  (Text.joined '\n' ((Text.pieces '\n' text).map fun line =>
    if line = [] then [] else ' ' :: ' ' :: line))

/-- A section with a body, whose lines are indented. -/
def sectionText (header : String) (body : List String) : String :=
  "\n" ++ header ++ ":\n" ++ String.ofList (indent (String.join (body.map (· ++ "\n"))).toList)

/-- A section, unless it has no lines. -/
def optionalSection (header : String) (body : List String) : String :=
  if body = [] then "" else sectionText header body

/-- An item with its description, which is put on one line. -/
def describe (item description : String) : String :=
  let description := Text.trim description.toList
  if description = [] then item else item ++ "\t" ++ String.ofList (Text.reflow description)

def title (info : ProgramInfo) : String :=
  info.name ++ " " ++ info.version ++ "\n" ++
    (match info.copyright with
      | some copyright => "Copyright (C) " ++ copyright ++ "\n"
      | none => "")

def optionLines (model : Model) : List String :=
  model.options.map fun option => describe option.tags.display option.description

def parameterLines (model : Model) : List String :=
  model.parameters.map (fun parameter => describe parameter.name parameter.description) ++
    model.remaining.toList.map fun remaining =>
      describe (remaining.name ++ "...") remaining.description

def commandLines (model : Model) : List String :=
  model.commands.map fun command => describe (", ".intercalate command.aliases) command.description

def errorSection (model : Model) (errors : Option ParseErrors) : String :=
  match errors with
  | some errors => sectionText "ERROR(S)" (errors.messages model.info.messages)
  | none => ""

/-- The help screen of a model, whatever its own help text is. -/
def screen (model : Model) (errors : Option ParseErrors) : String :=
  title model.info ++ errorSection model errors ++
    optionalSection "OPTIONS" (optionLines model) ++
    optionalSection "PARAMETERS" (parameterLines model) ++
    optionalSection "COMMANDS" (commandLines model)

end Help

/-- The help text of a model: its own, or the help screen. -/
def Model.help (model : Model) (errors : Option ParseErrors) : String :=
  match model.info.helpText with
  | some own => own errors
  | none => Help.screen model errors

end CommandLine
