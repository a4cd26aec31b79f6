/-!
# Occurrences of a pattern

A pattern occurs in a text if the text has it as a contiguous part. Occurrences are replaced from
left to right, and a replaced one is not looked at again. The empty pattern occurs before every
member of the text and at its end.
-/

namespace CommandLine.Text

variable {α : Type} [DecidableEq α]

def occurs (pattern : List α) : List α → Bool
  | [] => pattern = []
  | c :: rest => pattern.isPrefixOf (c :: rest) || occurs pattern rest

/-- Replace the occurrences of a pattern, after some members that belong to a replaced one. -/
def replaceFrom (pattern replacement : List α) : Nat → List α → List α
  | _, [] => if pattern = [] then replacement else []
  | skipped + 1, _ :: rest => replaceFrom pattern replacement skipped rest
  | 0, c :: rest =>
    if pattern = [] then replacement ++ c :: replaceFrom pattern replacement 0 rest
    else if pattern.isPrefixOf (c :: rest) then
      replacement ++ replaceFrom pattern replacement (pattern.length - 1) rest
    else c :: replaceFrom pattern replacement 0 rest

def replaceAll (pattern replacement text : List α) : List α :=
  replaceFrom pattern replacement 0 text

end CommandLine.Text
