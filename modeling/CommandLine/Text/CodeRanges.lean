/-!
# Sets of characters given by ranges

Unicode character properties are long lists of code point ranges. ASCII is decided before any table
is read, so the tables of the other modules start at `0x80`.
-/

namespace CommandLine.Text

/-- Inclusive ranges of code points. -/
abbrev CodeRanges := List (Nat × Nat)

def CodeRanges.holds (ranges : CodeRanges) (c : Char) : Bool :=
  ranges.any fun range => range.1 ≤ c.toNat && c.toNat ≤ range.2

/-- Ranges in which only every second code point may count: first, last and distance. -/
abbrev CodeSteps := List (Nat × Nat × Nat)

/-- Some range reaches the character in whole steps from its first code point. -/
def CodeSteps.holds (steps : CodeSteps) (c : Char) : Bool :=
  steps.any fun (first, last, distance) =>
    first ≤ c.toNat && c.toNat ≤ last && (c.toNat - first) % distance == 0

/-- The first 128 code points. -/
def isAscii (c : Char) : Bool :=
  c.toNat < 0x80

end CommandLine.Text
