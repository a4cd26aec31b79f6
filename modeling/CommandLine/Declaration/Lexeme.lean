import CommandLine.Declaration.Literal
import CommandLine.Text.Blank

/-!
# Lexemes of declarations

Declarations mention types, paths and expressions as source text. A source is a sequence of
lexemes: words, lifetimes, literals, brackets and signs, with blanks and comments between them.
Operators of several characters are several signs that stand next to each other. Sources are
compared and shown without their blanks.
-/

namespace CommandLine

inductive Bracket where
  | round
  | square
  | curly
  deriving DecidableEq, Repr

/-- The smallest parts of a source. -/
inductive Lexeme where
  /-- An identifier or a keyword. -/
  | word (text : String)
  /-- A name after a single quote. -/
  | lifetime (text : String)
  | literal (literal : Literal) (text : String)
  | opening (bracket : Bracket)
  | closing (bracket : Bracket)
  /-- A punctuation character, and whether another one directly follows. -/
  | sign (char : Char) (joint : Bool)
  deriving DecidableEq, Repr

namespace Lexeme

def unspaced (text : String) : String :=
  String.ofList (text.toList.filter (· ≠ ' '))

def text : Lexeme → String
  | .word text | .lifetime text => text
  | .literal _ text => unspaced text
  | .opening .round => "("
  | .opening .square => "["
  | .opening .curly => "\x7b"
  | .closing .round => ")"
  | .closing .square => "]"
  | .closing .curly => "\x7d"
  | .sign c _ => String.singleton c

/-- A source without its blanks. -/
def compact (lexemes : List Lexeme) : String :=
  String.join (lexemes.map text)

/-- The words that are no names. -/
def keywords : List String :=
  ["abstract", "as", "async", "await", "become", "box", "break", "const", "continue", "crate",
   "do", "dyn", "else", "enum", "extern", "final", "fn", "for", "if", "impl", "in", "let", "loop",
   "macro", "match", "mod", "move", "mut", "override", "priv", "pub", "ref", "return", "Self",
   "self", "static", "struct", "super", "trait", "try", "type", "typeof", "unsafe", "unsized",
   "use", "virtual", "where", "while", "yield", "_"]

/-! ### Reading -/

def signChars : List Char :=
  ['~', '!', '@', '#', '$', '%', '^', '&', '*', '-', '=', '+', '|', ';', ':', ',', '<', '.', '>',
   '/', '?', '\'']

/-- A sign stands at the start of a text, and no comment. -/
def startsSign : List Char → Bool
  | '/' :: '/' :: _ | '/' :: '*' :: _ => false
  | c :: _ => c ∈ signChars
  | [] => false

def bracket? : Char → Option Lexeme
  | '(' => some (.opening .round)
  | '[' => some (.opening .square)
  | '\x7b' => some (.opening .curly)
  | ')' => some (.closing .round)
  | ']' => some (.closing .square)
  | '\x7d' => some (.closing .curly)
  | _ => none

/-- The start of a text up to its rest. -/
def upTo (rest text : List Char) : String :=
  String.ofList (text.take (text.length - rest.length))

def readWord (text : List Char) : Lexeme × List Char :=
  let rest := Literal.afterWord text
  let found := upTo rest text
  let lexeme :=
    if found = "true" then .literal (.bool true) found
    else if found = "false" then .literal (.bool false) found
    else .word found
  (lexeme, rest)

/-- The lexeme at the start of a text that is no literal. A word can be marked as an identifier by
`r#`. -/
def firstPlain? (text : List Char) : Option (Lexeme × List Char) :=
  match text with
  | [] => none
  | c :: rest =>
    match bracket? c with
    | some bracket => some (bracket, rest)
    | none =>
      let marked := match text with
        | 'r' :: '#' :: name => name
        | _ => []
      let name := if c = '\'' then rest else marked
      if name.head?.any Literal.startsWord then
        let after := Literal.afterWord name
        let found := upTo after text
        some (if c = '\'' then .lifetime found else .word found, after)
      else if Literal.startsWord c then some (readWord text)
      else if startsSign text ∧ c ≠ '\'' then some (.sign c (startsSign rest), rest)
      else none

/-- The lexeme at the start of a text that does not start with a blank. -/
def first? (text : List Char) : Option (Lexeme × List Char) :=
  match Literal.first? text with
  | some (found, rest) => some (.literal found (upTo rest text), rest)
  | none => firstPlain? text

/-- A text after a comment between `/*` and `*/`; comments may be nested. -/
def afterComment? : Nat → List Char → Option (List Char)
  | _, [] => none
  | depth, '/' :: '*' :: rest => afterComment? (depth + 1) rest
  | 0, '*' :: '/' :: rest => some rest
  | depth + 1, '*' :: '/' :: rest => afterComment? depth rest
  | depth, _ :: rest => afterComment? depth rest

/-- The comment at the start of a text documents what follows, so that it is no blank. -/
def documents : List Char → Bool
  | '/' :: '/' :: '!' :: _ | '/' :: '*' :: '!' :: _ => true
  | '/' :: '/' :: '/' :: rest => rest.head? ≠ some '/'
  | '/' :: '*' :: '*' :: rest => rest.head? ≠ some '*' ∧ rest.head? ≠ some '/'
  | _ => false

/-- The character separates lexemes: a blank, or a mark of the direction of writing. -/
def separates (c : Char) : Bool :=
  Text.isBlank c || c = '\u200e' || c = '\u200f'

/-- The lexemes of a text; the fuel bounds their number. -/
def readWithin : Nat → List Char → Option (List Lexeme)
  | _, [] => some []
  | 0, _ => none
  | fuel + 1, text =>
    match text with
    | [] => some []
    | '/' :: '/' :: rest =>
      if documents text then none else readWithin fuel (rest.dropWhile (· ≠ '\n'))
    | '/' :: '*' :: rest =>
      if documents text then none else (afterComment? 0 rest).bind (readWithin fuel)
    | c :: rest =>
      if separates c then readWithin fuel rest
      else
        match first? text with
        | some (lexeme, after) => (readWithin fuel after).map (lexeme :: ·)
        | none => none

/-- Every bracket is closed by one of its kind. The brackets that are open already are given, the
innermost one first. -/
def balanced : List Bracket → List Lexeme → Bool
  | pending, [] => pending.isEmpty
  | pending, .opening bracket :: rest => balanced (bracket :: pending) rest
  | bracket :: pending, .closing found :: rest => bracket = found && balanced pending rest
  | [], .closing _ :: _ => false
  | pending, _ :: rest => balanced pending rest

/-- The lexemes of a source, if it consists of lexemes and its brackets stand in pairs. -/
def ofSource? (source : String) : Option (List Lexeme) :=
  (readWithin (source.length + 1) source.toList).filter (balanced [])

end Lexeme

end CommandLine
