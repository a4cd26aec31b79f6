import CommandLine.Text.Blank
import CommandLine.Text.Pieces

/-!
# Reflowing a paragraph

A description may be laid out over several lines, each with an indentation, a comment sign or a list
bullet in front. Reflowing puts it on one line: the marks in front of the first line go, so do the
marks that all later lines have in common, empty lines are left out, and the rest is joined by
single spaces.
-/

namespace CommandLine.Text

/-- A character that can stand in a line's indentation. -/
def isMark (c : Char) : Bool :=
  c ∈ [' ', '-', '+', '*', '>', '#', '/']

/-- The marks in front of a line. -/
def marks (line : List Char) : List Char :=
  line.takeWhile isMark

/-- The longest common beginning of two texts. -/
def commonStart : List Char → List Char → List Char
  | a :: s, b :: t => if a = b then a :: commonStart s t else []
  | _, _ => []

/-- The marks that all lines have in front. -/
def commonMarks : List (List Char) → List Char
  | [] => []
  | [line] => marks line
  | line :: others => commonStart (marks line) (commonMarks others)

/-- The words of a text put together with single spaces. -/
def spaced : List (List Char) → List Char
  | [] => []
  | [line] => line
  | line :: others => line ++ ' ' :: spaced others

/-- The text on one line. -/
def reflow (text : List Char) : List Char :=
  match brokenLines '\n' '\r' text with
  | [] => []
  | first :: later =>
    let initial := (marks first).length
    let subsequent := (commonMarks later).length
    match (first :: later).filter (· ≠ []) with
    | [] => []
    | line :: others => spaced (line.drop initial :: others.map (·.drop subsequent))

end CommandLine.Text
