import CommandLine.Text.CodeRanges

/-!
# White space

White space is the Unicode property `White_Space`. Trimming removes it from one or both ends of a
text.
-/

namespace CommandLine.Text

/-- The characters with the property `White_Space`. -/
def blankRanges : CodeRanges :=
  [(0x9, 0xD), (0x20, 0x20), (0x85, 0x85), (0xA0, 0xA0), (0x1680, 0x1680), (0x2000, 0x200A),
   (0x2028, 0x2029), (0x202F, 0x202F), (0x205F, 0x205F), (0x3000, 0x3000)]

def isBlank (c : Char) : Bool :=
  blankRanges.holds c

def trimStart (text : List Char) : List Char :=
  text.dropWhile isBlank

def trimEnd (text : List Char) : List Char :=
  (text.reverse.dropWhile isBlank).reverse

def trim (text : List Char) : List Char :=
  trimEnd (trimStart text)

def withoutBlanks (text : List Char) : List Char :=
  text.filter fun c => !isBlank c

@[simp] theorem withoutBlanks_append (s t : List Char) :
    withoutBlanks (s ++ t) = withoutBlanks s ++ withoutBlanks t := by
  simp [withoutBlanks]

theorem withoutBlanks_dropWhile (text : List Char) :
    withoutBlanks (text.dropWhile isBlank) = withoutBlanks text := by
  induction text with
  | nil => rfl
  | cons c rest ih =>
    by_cases h : isBlank c = true
    · simpa [h, withoutBlanks] using ih
    · simp [h]

/-- Trimming takes nothing but white space. -/
theorem withoutBlanks_trim (text : List Char) : withoutBlanks (trim text) = withoutBlanks text := by
  have flip (s : List Char) : withoutBlanks s.reverse = (withoutBlanks s).reverse := by
    simp [withoutBlanks]
  simp [trim, trimEnd, trimStart, flip, withoutBlanks_dropWhile]

end CommandLine.Text
