import CommandLine.Text.Alphabetic
import CommandLine.Text.Pieces
import CommandLine.Text.Quoted

/-!
# Tokens

The shape of a single argument, decided without knowing any model: a bare `--`, a `--name` with or
without a value, a cluster of short options, or a positional argument. Whether `--output` takes a
value, and whether `-abc` is three flags or one option with a value, is decided later by whoever
knows the model. An argument such as `-5`, with no letter after its hyphen, is positional.
-/

namespace CommandLine

open Text

/-! ### Clusters -/

/-- The body of a cluster of short options, such as the `abc` in `-abc`. -/
structure Cluster where
  body : String
  nonempty : body ≠ ""
  deriving DecidableEq

def Cluster.ofBody? (body : String) : Option Cluster :=
  if h : body = "" then none else some ⟨body, h⟩

/-- Every character of a text with what follows it. -/
def splits : List Char → List (Char × String)
  | [] => []
  | c :: rest => (c, String.ofList rest) :: splits rest

/-- The options of a cluster. Each comes with the rest of the body, which is its value if it turns
out to need one. -/
def Cluster.options (cluster : Cluster) : List (Char × String) :=
  splits cluster.body.toList

/-- The cluster as an argument, with its body quoted. -/
def Cluster.quoted (cluster : Cluster) : String :=
  "-" ++ quote cluster.body

@[simp] theorem length_splits (text : List Char) : (splits text).length = text.length := by
  induction text with
  | nil => rfl
  | cons c rest ih => simp [splits, ih]

theorem splits_getElem? (text : List Char) (i : Nat) :
    (splits text)[i]? = text[i]?.map fun c => (c, String.ofList (text.drop (i + 1))) := by
  induction text generalizing i with
  | nil => rfl
  | cons c rest ih =>
    cases i with
    | zero => simp [splits]
    | succ i => simp [splits, ih]

/-! ### Tokens -/

/-- The shape of an argument. -/
inductive Token where
  /-- A bare `--`: everything after it is positional. -/
  | terminator
  /-- A `--name` or `--name=value`. The name ends at the first `=` and may be empty. -/
  | long (name : String) (value : Option String)
  /-- A `-abc`. -/
  | short (cluster : Cluster)
  /-- Anything else, such as `-`, `-5` and `-1.5`. -/
  | positional (text : String)
  deriving DecidableEq

/-- A hyphen with a letter somewhere after it. -/
def looksLikeOption (argument : String) : Bool :=
  match argument.toList with
  | '-' :: rest => rest.any isAlphabetic
  | _ => false

/-- What follows the two hyphens of a long option. -/
def Token.ofLong (text : List Char) : Token :=
  match cutFirst '=' text with
  | some (name, value) => .long (String.ofList name) (some (String.ofList value))
  | none => .long (String.ofList text) none

/-- What follows the only hyphen of an argument. -/
def Token.ofShort (body : List Char) : Token :=
  if h : body.any isAlphabetic = true then
    .short ⟨String.ofList body, by
      intro empty
      rw [← String.toList_inj, String.toList_ofList] at empty
      simp [empty] at h⟩
  else .positional (String.ofList ('-' :: body))

/-- The shape of an argument given by its characters. -/
def Token.ofChars : List Char → Token
  | ['-', '-'] => .terminator
  | '-' :: '-' :: text => .ofLong text
  | '-' :: body => .ofShort body
  | text => .positional (String.ofList text)

def classify (argument : String) : Token :=
  .ofChars argument.toList

def Token.isPositional : Token → Bool
  | .positional _ => true
  | _ => false

/-- The argument that a token is written as. -/
def Token.unparse : Token → String
  | .terminator => "--"
  | .long name none => "--" ++ name
  | .long name (some value) => "--" ++ name ++ "=" ++ value
  | .short cluster => "-" ++ cluster.body
  | .positional text => text

end CommandLine
