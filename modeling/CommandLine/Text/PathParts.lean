import CommandLine.Text.Pieces

/-!
# Parts of path names

A path name is compared by its parts, which stand between slashes. An empty part says nothing, and
neither does a single dot that is not the first part; a slash in front of all parts is the root.
-/

namespace CommandLine

inductive PathPart where
  /-- The slash in front of all parts. -/
  | root
  /-- A single dot in front of all parts. -/
  | here
  /-- Two dots. -/
  | parent
  | name (text : List Char)
  deriving DecidableEq, Repr

namespace PathPart

def ofPiece (piece : List Char) : PathPart :=
  if piece = ['.'] then .here
  else if piece = ['.', '.'] then .parent
  else .name piece

/-- The order of parts, as a list of numbers none of which is the beginning of another one. -/
def rank : PathPart → List Int
  | .root => [1]
  | .here => [2]
  | .parent => [3]
  | .name text => 4 :: text.map (fun c => (c.toNat : Int) + 1) ++ [0]

end PathPart

def Text.pathParts (text : List Char) : List PathPart :=
  match pieces '/' text with
  | [] => []
  | first :: later =>
    let front :=
      if first ≠ [] then [PathPart.ofPiece first]
      else if later = [] then [] else [.root]
    front ++ (later.filter fun piece => piece ≠ [] && piece ≠ ['.']).map PathPart.ofPiece

example : Text.pathParts "./a//b/./../".toList =
    [.here, .name ['a'], .name ['b'], .parent] := by rfl

end CommandLine
