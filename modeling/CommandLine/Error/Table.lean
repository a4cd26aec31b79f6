import CommandLine.Error

/-!
# Message tables

A program can have its own wording for some kinds of errors. The other kinds keep theirs.
-/

namespace CommandLine

/-- Wordings by kind of error. -/
structure MessageTable where
  entry? : ErrorKind → Option (ParseError → String)

namespace MessageTable

def empty : MessageTable :=
  ⟨fun _ => none⟩

/-- The table with another wording for one kind. A later wording replaces an earlier one. -/
def set (table : MessageTable) (kind : ErrorKind) (wording : ParseError → String) : MessageTable :=
  ⟨fun other => if other = kind then some wording else table.entry? other⟩

def kinds (table : MessageTable) : List ErrorKind :=
  ErrorKind.all.filter fun kind => (table.entry? kind).isSome

def message (table : MessageTable) (error : ParseError) : String :=
  match table.entry? error.kind with
  | some wording => wording error
  | none => error.message

end MessageTable

/-- The wording of an error under a table, if there is one. -/
def ParseError.messageFrom (table : Option MessageTable) (error : ParseError) : String :=
  match table with
  | some table => table.message error
  | none => error.message

end CommandLine
