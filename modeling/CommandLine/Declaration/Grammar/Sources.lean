import CommandLine.Declaration.Grammar.Expressions

/-!
# Reading sources

The grammar whose rules can nest to a given depth, and what sources of types, arguments, paths and
expressions spell. Something nested starts at least one lexeme after what it is nested in, so that
there is no need to nest deeper than the number of lexemes.
-/

namespace CommandLine

namespace Grammar

/-- The grammar that can nest once more than a given one. -/
def deeper (g : Grammar) : Grammar where
  type := g.anyType
  argument := g.anyArgument
  pattern := g.anyPattern
  operand := g.anyOperand
  operation := g.anyOperation

def ofDepth : Nat → Grammar
  | 0 => flat
  | depth + 1 => (ofDepth depth).deeper

/-- An expression by itself. Attributes in front of it count as its outermost construct. -/
def whole (g : Grammar) : Rule Construct := do
  let attributed ← Rule.sees (.signs "#")
  let found ← g.expression true
  return if attributed then .attributed else found

/-- What a source spells according to a rule of the grammar. -/
def read? {α : Type} (rule : Grammar → Rule α) (source : String) : Option α := do
  let lexemes ← Lexeme.ofSource? source
  (rule (ofDepth (lexemes.length + 1))).run? lexemes

/-- The source without its blanks, if it consists of lexemes. -/
def compact (source : String) : String :=
  (Lexeme.ofSource? source).elim source Lexeme.compact

end Grammar

namespace TypeExpr

def ofSource? (source : String) : Option TypeExpr :=
  Grammar.read? (fun g => g.type true) source

/-- The type that a source spells, whatever it is. -/
def ofSource (source : String) : TypeExpr :=
  (ofSource? source).getD (.other (Grammar.compact source))

def Argument.ofSource (source : String) : Argument :=
  (Grammar.read? (fun g => g.argument) source).getD (.other (Grammar.compact source))

/-- A path applied to arguments, given by its source. A path with a type in front is taken as it
is. -/
def ofApplication (path : String) (arguments : List Argument) : TypeExpr :=
  match ofSource path with
  | .path text name | .applied text name _ => apply text name (Argument.spaced arguments)
  | type => .other (type.text ++ Argument.listText (Argument.spaced arguments))

end TypeExpr

def Path.ofSource? (source : String) : Option Path :=
  Grammar.read? (fun g => g.path false) source

def Expression.ofSource (source : String) : Expression :=
  ⟨Grammar.compact source,
    (Grammar.read? Grammar.whole source).getD .verbatim⟩

end CommandLine
