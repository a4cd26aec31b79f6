import CommandLine.Declaration.Expression
import CommandLine.Declaration.Rule
import CommandLine.Declaration.TypeExpr

/-!
# The grammar of types and expressions

Types hold expressions, expressions hold types, and both hold patterns. A grammar is a choice of
rules for what is nested: each rule is written for any grammar, and reads a lexeme before it asks
the grammar for what is nested there. Rules that can nest to any depth that some lexemes have room
for come out of this by repetition.
-/

namespace CommandLine

/-- How tightly operators bind, the loosest ones first. -/
inductive Precedence where
  | loosest
  | assignment
  | range
  | or
  | and
  | binding
  | comparison
  | bitOr
  | bitXor
  | bitAnd
  | shift
  | sum
  | product
  | cast
  deriving DecidableEq, Repr

namespace Precedence

def rank : Precedence → Nat
  | .loosest => 0
  | .assignment => 1
  | .range => 2
  | .or => 3
  | .and => 4
  | .binding => 5
  | .comparison => 6
  | .bitOr => 7
  | .bitXor => 8
  | .bitAnd => 9
  | .shift => 10
  | .sum => 11
  | .product => 12
  | .cast => 13

instance : LE Precedence := ⟨fun a b => a.rank ≤ b.rank⟩
instance : LT Precedence := ⟨fun a b => a.rank < b.rank⟩
instance (a b : Precedence) : Decidable (a ≤ b) := inferInstanceAs (Decidable (a.rank ≤ b.rank))
instance (a b : Precedence) : Decidable (a < b) := inferInstanceAs (Decidable (a.rank < b.rank))

end Precedence

/-- The rules for what is nested. -/
structure Grammar where
  /-- A type. The flag says whether bounds may be added to it. -/
  type : Bool → Rule TypeExpr
  /-- An argument in angle brackets. -/
  argument : Rule TypeExpr.Argument
  /-- A single pattern. -/
  pattern : Rule Unit
  /-- An operand with its signs. The flag says whether it may be a record, whose fields stand in
  curly brackets. -/
  operand : Bool → Rule Construct
  /-- What operators that bind at least as tightly as given make of a left operand. -/
  operation : Bool → Precedence → Construct → Rule Construct

namespace Grammar

open Rule

/-- The grammar in which nothing can be nested. -/
def flat : Grammar where
  type _ := failure
  argument := failure
  pattern := failure
  operand _ := failure
  operation _ _ _ := failure

def expression (g : Grammar) (records : Bool) : Rule Construct := do
  g.operation records .loosest (← g.operand records)

/-- Attributes in front of a part of an expression or a type. -/
def attributes : Rule Unit := do
  iterate (fun _ => do
    if ← accept (.signs "#") then
      group .square
      return some ()
    return none) ()

/-- Lifetimes that are bound for what follows. -/
def binder : Rule Unit := do
  expect (.word "for")
  expect (.signs "<")
  let _ ← separated "," (sees (.signs ">")) do
    attributes
    expect .lifetime
  expect (.signs ">")

def acceptBinder : Rule Bool := do
  if ← sees (.word "for") then
    binder
    return true
  return false

end Grammar

end CommandLine
