/-!
# Tags

An option is written on the command line with a long tag, a short tag, or either of both.
-/

namespace CommandLine

inductive Tags where
  | long (name : String)
  | short (letter : Char)
  | both (name : String) (letter : Char)
  deriving DecidableEq, Repr

namespace Tags

/-- The long tag, without its hyphens. -/
def long? : Tags → Option String
  | .long name | .both name _ => some name
  | .short _ => none

/-- The short tag, without its hyphen. -/
def short? : Tags → Option Char
  | .short letter | .both _ letter => some letter
  | .long _ => none

/-- Tags as a help screen shows them: `-s, --long`. -/
def display : Tags → String
  | .long name => "--" ++ name
  | .short letter => "-" ++ String.singleton letter
  | .both name letter => "-" ++ String.singleton letter ++ ", --" ++ name

theorem long?_isSome_or_short?_isSome (tags : Tags) :
    tags.long?.isSome = true ∨ tags.short?.isSome = true := by
  cases tags <;> simp [long?, short?]

end Tags

end CommandLine
