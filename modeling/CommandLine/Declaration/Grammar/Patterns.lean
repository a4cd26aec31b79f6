import CommandLine.Declaration.Grammar.Types

/-!
# Rules for patterns

Patterns stand in the inputs of closures, after `let` and in loops. Nothing is kept of them, they
only have to be passed over. What they hold in brackets is passed over as a whole.
-/

namespace CommandLine.Grammar

open Rule

variable (g : Grammar)

/-- The end of a range in a pattern, if it has one. -/
def acceptRangeBound : Rule Bool := do
  if ← atEnd then return false
  if ← seesAny [.signs "|", .signs "=", .signs ",", .signs ";", .word "if"] then return false
  if ← seesOnly ":" ["::"] then return false
  if ← seesAll [.signs "-", .literal] then
    skip 2
  else if ← sees .literal then
    skip 1
  else if ← accept (.word "const") then
    group .curly
  else
    let _ ← g.anyPath true
  return true

/-- The signs of a range and its end. A range that is closed has an end. -/
def rangeRest : Rule Unit := do
  let closed ← (return (← sees (.signs "..=")) || (← sees (.signs "...")) : Rule Bool)
  skip (if closed then 3 else 2)
  let bounded ← g.acceptRangeBound
  guard (bounded || !closed)

def pathPattern : Rule Unit := do
  let (qualified, path) ← g.anyPath true
  if !qualified && path.isPlain && (← seesOnly "!" ["!="]) then
    expect (.signs "!")
    anyGroup
  else if ← sees (.opening .curly) then
    group .curly
  else if ← sees (.opening .round) then
    group .round
  else if ← sees (.signs "..") then
    g.rangeRest

/-- What makes a name the start of a path in a pattern. -/
def pathMarks : List Terminal :=
  [.signs "::", .signs "!", .opening .curly, .opening .round, .signs ".."]

def seesPathPattern : Rule Bool := do
  if ← seesAny [.signs "::", .signs "<", .word "Self", .word "super", .word "crate"] then
    return true
  if ← seesAll [.word "self", .signs "::"] then return true
  let rest := (← get).rest
  return pathMarks.any fun mark => Terminal.startAll [.name, mark] rest

/-- A name that is bound, perhaps to what another pattern matches. -/
def bindingPattern : Rule Unit := do
  let _ ← accept (.word "ref")
  let _ ← accept (.word "mut")
  guard (← seesAny [.name, .word "self"])
  skip 1
  if ← accept (.signs "@") then g.pattern

def anyPattern : Rule Unit := do
  if ← seesPathPattern then
    g.pathPattern
  else if ← accept (.word "_") then
    return ()
  else if ← accept (.word "box") then
    g.pattern
  else if ← seesAny [.signs "-", .literal, .word "const"] then
    guard (← g.acceptRangeBound)
    if ← sees (.signs "..") then g.rangeRest
  else if ← accept (.signs "&") then
    let _ ← accept (.word "mut")
    g.pattern
  else if ← sees (.opening .round) then
    group .round
  else if ← sees (.opening .square) then
    group .square
  else if ← seesOnly ".." ["..."] then
    g.rangeRest
  else
    g.bindingPattern

/-- Patterns with bars between them, and perhaps one in front. -/
def patterns : Rule Unit := do
  let _ ← accept (.signs "|")
  g.pattern
  iterate (fun _ => do
    if ← seesOnly "|" ["||", "|="] then
      expect (.signs "|")
      g.pattern
      return some ()
    return none) ()

end CommandLine.Grammar
