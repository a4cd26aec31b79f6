import CommandLine.Declaration.Literal

/-!
# Expressions of declarations

An expression is kept as its source without blanks. Besides that only its outermost construct
matters: a literal can be the value of an attribute, most other constructs cannot, and a message
says which one was found.
-/

namespace CommandLine

/-- The outermost construct of an expression. -/
inductive Construct where
  | literal (literal : Literal)
  /-- A number after a minus sign. -/
  | negative (literal : Literal)
  /-- A path, by its source. -/
  | path (text : String)
  | macroCall
  /-- Any construct with attributes in front of it. -/
  | attributed
  | array
  | assignment
  | asyncBlock
  | await
  | binary
  /-- Two values compared, which cannot be compared with a third one. -/
  | comparison
  | block
  | breaking
  | call
  | cast
  | closure
  | constBlock
  | continuing
  | field
  | forLoop
  | conditional
  | index
  | placeholder
  | binding
  | loop
  | selection
  | methodCall
  | paren
  | range
  | rawAddress
  | reference
  | repetition
  | returning
  | record
  | question
  | tryBlock
  | tuple
  | unary
  | unsafeBlock
  /-- What has no construct of its own. -/
  | verbatim
  | whileLoop
  | yielding
  deriving DecidableEq, Repr

/-- What a construct is called in messages. -/
def Construct.name : Construct → String
  | .literal _ => "lit"
  | .negative _ | .unary => "unary"
  | .path _ => "path"
  | .macroCall => "macro"
  | .array => "array"
  | .assignment => "assign"
  | .asyncBlock => "async"
  | .await => "await"
  | .binary | .comparison => "binary"
  | .block => "block"
  | .breaking => "break"
  | .call => "call"
  | .cast => "cast"
  | .closure => "closure"
  | .constBlock => "const"
  | .continuing => "continue"
  | .field => "field"
  | .forLoop => "for_loop"
  | .conditional => "if"
  | .index => "index"
  | .placeholder => "infer"
  | .binding => "let"
  | .loop => "loop"
  | .selection => "match"
  | .methodCall => "method_call"
  | .paren => "paren"
  | .range => "range"
  | .attributed | .rawAddress => "unknown"
  | .reference => "reference"
  | .repetition => "repeat"
  | .returning => "return"
  | .record => "struct"
  | .question => "try"
  | .tryBlock => "try_block"
  | .tuple => "tuple"
  | .unsafeBlock => "unsafe"
  | .verbatim => "verbatim"
  | .whileLoop => "while"
  | .yielding => "yield"

structure Expression where
  text : String
  construct : Construct
  deriving DecidableEq, Repr

namespace Expression

def string (value : String) : Expression :=
  ⟨value, .literal (.string value)⟩

def char (value : Char) : Expression :=
  ⟨String.singleton value, .literal (.char value)⟩

end Expression

end CommandLine
