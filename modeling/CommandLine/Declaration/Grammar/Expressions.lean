import CommandLine.Declaration.Grammar.Patterns

/-!
# Rules for expressions

An expression is an operand, perhaps followed by operators with further operands. An operand is an
atom with signs in front of it and calls, members and indexes behind it. What is kept of each of
them is the construct, so that blocks, calls and the like are passed over as a whole.
-/

namespace CommandLine.Grammar

open Rule

variable (g : Grammar)

/-! ### Operators -/

/-- The operators with two operands, longer ones first. -/
def operators : List (String × Precedence) :=
  [("+=", .assignment), ("-=", .assignment), ("*=", .assignment), ("/=", .assignment),
   ("%=", .assignment), ("^=", .assignment), ("&=", .assignment), ("|=", .assignment),
   ("<<=", .assignment), (">>=", .assignment), ("&&", .and), ("||", .or), ("<<", .shift),
   (">>", .shift), ("==", .comparison), ("<=", .comparison), ("!=", .comparison),
   (">=", .comparison), ("+", .sum), ("-", .sum), ("*", .product), ("/", .product),
   ("%", .product), ("^", .bitXor), ("&", .bitAnd), ("|", .bitOr), ("<", .comparison),
   (">", .comparison)]

def seesOperator : Rule (Option (String × Precedence)) := do
  let rest := (← get).rest
  return operators.find? fun (signs, _) => (Terminal.signs signs).starts rest

/-- How tightly what comes next binds. -/
def seesPrecedence : Rule Precedence := do
  match ← seesOperator with
  | some (_, precedence) => return precedence
  | none =>
    if ← seesOnly "=" ["=>"] then return .assignment
    if ← sees (.signs "..") then return .range
    if ← sees (.word "as") then return .cast
    return .loosest

/-! ### Parts of expressions -/

/-- An expression in front of a block. It is no record, whose fields could be taken for the
block. -/
def condition : Rule Unit := do
  let _ ← g.expression false

def seesExpression : Rule Bool := do
  if ← sees .anyWord then return !(← sees (.word "as"))
  if ← seesAny [.opening .round, .opening .square, .opening .curly, .literal, .signs "..",
    .signs "::", .lifetime, .signs "#"] then return true
  return (← seesOnly "!" ["!="]) || (← seesOnly "-" ["-=", "->"]) || (← seesOnly "*" ["*="]) ||
    (← seesOnly "|" ["|="]) || (← seesOnly "&" ["&="]) || (← seesOnly "<" ["<=", "<<="])

def acceptExpression : Rule Unit := do
  if ← seesExpression then
    let _ ← g.expression true

/-- Nothing that could end a range comes next. -/
def seesOpenEnd (records : Bool) : Rule Bool := do
  if ← atEnd then return true
  if !records && (← sees (.opening .curly)) then return true
  if ← seesOnly "." [".."] then return true
  seesAny [.signs ",", .signs ";", .signs "?", .signs "=>", .signs "=", .signs "+", .signs "/",
    .signs "%", .signs "^", .signs ">", .signs "<=", .signs "!=", .signs "-=", .signs "*=",
    .signs "&=", .signs "|=", .signs "<<=", .word "as"]

/-! ### Atoms -/

/-- What an expression that starts with a path is. -/
def pathAtom (records : Bool) : Rule Construct := do
  let (qualified, path) ← g.anyPath true
  if !qualified && path.isPlain && (← seesOnly "!" ["!="]) then
    expect (.signs "!")
    anyGroup
    return .macroCall
  if records && (← sees (.opening .curly)) then
    group .curly
    return .record
  return .path path.text

/-- An expression in round brackets, or several ones with commas. -/
def roundAtom : Rule Construct := do
  expect (.opening .round)
  if ← accept (.closing .round) then return .tuple
  let _ ← g.expression true
  if ← accept (.closing .round) then return .paren
  expect (.signs ",")
  close
  return .tuple

/-- Expressions in square brackets, or one that is repeated. -/
def squareAtom : Rule Construct := do
  expect (.opening .square)
  if ← accept (.closing .square) then return .array
  let _ ← g.expression true
  let repeated ← sees (.signs ";")
  close
  return if repeated then .repetition else .array

def closureInput : Rule Unit := do
  attributes
  g.pattern
  if ← accept (.signs ":") then
    let _ ← g.type true

/-- A closure. Its body is a block if the type of the result is given. -/
def closure (records : Bool) : Rule Construct := do
  let _ ← acceptBinder
  let _ ← accept (.word "const")
  let _ ← accept (.word "static")
  let _ ← accept (.word "async")
  let _ ← accept (.word "move")
  expect (.signs "|")
  let _ ← separated "," (sees (.signs "|")) g.closureInput
  expect (.signs "|")
  if ← accept (.signs "->") then
    let _ ← g.type true
    group .curly
  else
    let _ ← g.expression records
  return .closure

def conditional : Rule Construct := do
  let _ ← iterate (fun another => do
    if !another then return none
    expect (.word "if")
    g.condition
    group .curly
    if ← accept (.word "else") then
      if ← sees (.word "if") then return some true
      group .curly
    return some false) true
  return .conditional

/-- A block or a loop, which can have a label. -/
def labeled : Rule Construct := do
  if ← accept .lifetime then expect (.signs ":")
  if ← accept (.word "while") then
    g.condition
    group .curly
    return .whileLoop
  if ← accept (.word "for") then
    g.patterns
    expect (.word "in")
    g.condition
    group .curly
    return .forLoop
  if ← accept (.word "loop") then
    group .curly
    return .loop
  group .curly
  return .block

/-- A closure comes next, though not one that starts with bound lifetimes. -/
def seesClosure : Rule Bool := do
  if ← seesAny [.signs "|", .word "move", .word "static"] then return true
  if ← sees (.word "const") then
    return !(← seesAll [.word "const", .opening .curly])
  return (← seesAll [.word "async", .signs "|"]) || (← seesAll [.word "async", .word "move"])

/-- Bound lifetimes come next, and no loop. -/
def seesBinder : Rule Bool := do
  let start := [Terminal.word "for", .signs "<"]
  return (← seesAll (start ++ [.lifetime])) || (← seesAll (start ++ [.signs ">"]))

def seesPath : Rule Bool := do
  if ← seesAny pathStarts then return true
  return (← seesAll [.word "try", .signs "!"]) || (← seesAll [.word "try", .signs "::"])

def seesBlock (word : String) : Rule Bool :=
  seesAll [.word word, .opening .curly]

/-- An atom that starts with a keyword or a label. -/
def wordAtom (records : Bool) : Rule Construct := do
  if ← accept (.word "break") then
    if ← accept .lifetime then guard !(← sees (.signs ":"))
    if records || !(← sees (.opening .curly)) then g.acceptExpression
    return .breaking
  if ← accept (.word "continue") then
    let _ ← accept .lifetime
    return .continuing
  if ← accept (.word "return") then
    g.acceptExpression
    return .returning
  if ← accept (.word "become") then
    let _ ← g.expression true
    return .verbatim
  if ← accept (.word "let") then
    g.patterns
    expect (.signs "=")
    let _ ← g.operation records .comparison (← g.operand records)
    return .binding
  if ← sees (.word "if") then return ← g.conditional
  if ← accept (.word "match") then
    g.condition
    group .curly
    return .selection
  if ← accept (.word "yield") then
    g.acceptExpression
    return .yielding
  if ← accept (.word "unsafe") then
    group .curly
    return .unsafeBlock
  if ← accept (.word "const") then
    group .curly
    return .constBlock
  if ← accept (.word "_") then return .placeholder
  g.labeled

def seesLiteral : Rule (Option Literal) := do
  match (← get).rest with
  | .literal literal _ :: _ => return some literal
  | _ => return none

/-- The range after its start: the signs and the end, if it has one. -/
def rangeAfter (records : Bool) (last : Rule Construct) : Rule Construct := do
  guard !(← sees (.signs "..."))
  if ← accept (.signs "..=") then
    let _ ← last
  else
    expect (.signs "..")
    if !(← seesOpenEnd records) then
      let _ ← last
  return .range

/-- What operators that bind more tightly than a given one make of the next operand. Assignments
are grouped from the right. -/
def rightOperand (records : Bool) (precedence : Precedence) (first : Construct) :
    Rule Construct :=
  iterate (fun found => do
    let upcoming ← seesPrecedence
    if precedence < upcoming ∨ (upcoming = precedence ∧ precedence = .assignment) then
      let before := (← get).rest.length
      let whole ← g.operation records upcoming found
      return if (← get).rest.length = before then none else some whole
    return none) first

/-- An atom: an operand without signs in front of it and without anything behind it. -/
def atom (records : Bool) : Rule Construct := do
  if let some literal ← seesLiteral then
    skip 1
    return .literal literal
  if (← seesBlock "async") || (← seesAll [.word "async", .word "move", .opening .curly]) then
    expect (.word "async")
    let _ ← accept (.word "move")
    group .curly
    return .asyncBlock
  if ← seesBlock "try" then
    expect (.word "try")
    group .curly
    return .tryBlock
  if (← seesClosure) || (← seesBinder) then return ← g.closure records
  if ← seesAll [.word "builtin", .signs "#"] then
    skip 2
    expect .name
    group .round
    return .verbatim
  if ← seesPath then return ← g.pathAtom records
  if ← sees (.opening .round) then return ← g.roundAtom
  if ← sees (.opening .square) then return ← g.squareAtom
  if ← sees (.signs "..") then
    return ← rangeAfter records do
      g.rightOperand records .range (← g.operand records)
  g.wordAtom records

/-! ### Operands -/

/-- A member after a point: a field, a method with its inputs, or the result of what is awaited. -/
def member : Rule Construct := do
  if ← accept (.word "await") then return .await
  if ← accept .literal then return .field
  expect .name
  let generic ← sees (.signs "::")
  if generic then
    let _ ← g.arguments
  if generic || (← sees (.opening .round)) then
    group .round
    return .methodCall
  return .field

/-- A number after a point that holds a point itself: two fields, or one with a point behind it. -/
def acceptFields : Rule Bool := do
  if (← seesLiteral) = some .float then
    let whole := (← next).text.endsWith "."
    return !whole
  return false

def trailers (first : Construct) : Rule Construct :=
  iterate (fun found => do
    if ← sees (.opening .round) then
      group .round
      return some .call
    if ← sees (.opening .square) then
      group .square
      return some .index
    if found = .range then return none
    if ← seesOnly "." [".."] then
      expect (.signs ".")
      if ← acceptFields then return some .field
      return some (← g.member)
    if ← accept (.signs "?") then return some .question
    return none) first

/-- What a minus sign makes of an operand. -/
def negated : Construct → Construct
  | .literal literal => if literal.isNumber then .negative literal else .unary
  | _ => .unary

/-- An operand: an atom with signs in front of it and calls, members and indexes behind it. -/
def anyOperand (records : Bool) : Rule Construct := do
  attributes
  if ← accept (.signs "&") then
    if (← seesAll [.word "raw", .word "mut"]) || (← seesAll [.word "raw", .word "const"]) then
      skip 2
      let _ ← g.operand records
      return .rawAddress
    let _ ← accept (.word "mut")
    let _ ← g.operand records
    return .reference
  if ← accept (.signs "-") then return negated (← g.operand records)
  if ← seesAny [.signs "*", .signs "!"] then
    skip 1
    let _ ← g.operand records
    return .unary
  g.trailers (← g.atom records)

/-! ### Operations -/

def rightSide (records : Bool) (precedence : Precedence) : Rule Construct := do
  g.rightOperand records precedence (← g.anyOperand records)

/-- What operators that bind at least as tightly as given make of a left operand. Nothing is added
to a range, and comparisons are not compared. -/
def anyOperation (records : Bool) (base : Precedence) (first : Construct) : Rule Construct :=
  iterate (fun left => do
    if left = .range then return none
    match ← seesOperator with
    | some (signs, precedence) =>
      if precedence < base then return none
      guard !(precedence = .comparison && left = .comparison)
      expect (.signs signs)
      let _ ← g.rightSide records precedence
      return some (if precedence = .comparison then .comparison else .binary)
    | none =>
      if base ≤ .assignment then
        if ← seesOnly "=" ["=>"] then
          expect (.signs "=")
          let _ ← g.rightSide records .assignment
          return some .assignment
      if base ≤ .range then
        if ← sees (.signs "..") then
          return some (← rangeAfter records (g.rightSide records .range))
      if ← accept (.word "as") then
        let _ ← g.type false
        return some .cast
      return none) first

end CommandLine.Grammar
