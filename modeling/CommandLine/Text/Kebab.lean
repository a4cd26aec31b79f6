import CommandLine.Text.Numeric
import CommandLine.Text.LetterCase
import CommandLine.Text.Pieces

/-!
# Kebab case

The spelling of an identifier on the command line: its words in lower case with hyphens between
them. Words are separated by characters that are neither letters nor numbers, by a step from lower
to upper case, and before the last of several capitals that a small letter follows: `HTTPServer` is
`http-server`.
-/

namespace CommandLine.Text

/-- The case of the letters read last within a word. -/
inductive WordCase where
  /-- No cased letter yet. -/
  | unknown
  | lower
  | upper
  deriving DecidableEq, Repr

/-- The case after one more character of the same word. -/
def WordCase.after (before : WordCase) (c : Char) : WordCase :=
  if isLowercase c then .lower else if isUppercase c then .upper else before

/-- The words of a run of letters and numbers; `word` holds the current word backwards. -/
def caseWords (state : WordCase) (word : List Char) : List Char → List (List Char)
  | [] => []
  | [c] => [(c :: word).reverse]
  | c :: next :: rest =>
    if state.after c = .lower ∧ isUppercase next then
      (c :: word).reverse :: caseWords .unknown [] (next :: rest)
    else if state = .upper ∧ isUppercase c ∧ isLowercase next then
      word.reverse :: caseWords .unknown [c] (next :: rest)
    else caseWords (state.after c) (c :: word) (next :: rest)

/-- The runs of letters and numbers in a text. -/
def alphanumericRuns : List Char → List (List Char)
  | [] => [[]]
  | c :: rest =>
    if isAlphanumeric c then
      match alphanumericRuns rest with
      | [] => [[c]]
      | run :: others => (c :: run) :: others
    else [] :: alphanumericRuns rest

/-- A word in lower case. A capital sigma at its end becomes the final form. -/
def lowerWord : List Char → List Char
  | [] => []
  | ['Σ'] => ['ς']
  | c :: rest => lowered c ++ lowerWord rest

def kebabCase (name : String) : String :=
  let words := (alphanumericRuns name.toList).flatMap (caseWords .unknown [])
  String.ofList (joined '-' (words.map lowerWord))

end CommandLine.Text
