import CommandLine.Declaration.Lexeme

/-!
# Rules for lexemes

A rule reads something at the start of some lexemes, or fails. It keeps the source of what it has
read, so that the text of a construct is at hand when the construct is complete. Most rules look at
the next one, two or three lexemes to decide what to read.
-/

namespace CommandLine

/-- What a rule can look for. -/
inductive Terminal where
  /-- A certain word. -/
  | word (text : String)
  /-- A word that is no keyword. -/
  | name
  /-- Any word. -/
  | anyWord
  | lifetime
  | literal
  /-- A literal that is a text. -/
  | string
  /-- Signs that stand next to each other. Another one may follow. -/
  | signs (text : String)
  | opening (bracket : Bracket)
  | closing (bracket : Bracket)
  deriving DecidableEq, Repr

namespace Terminal

def startsSigns : List Char → List Lexeme → Bool
  | [], _ => true
  | [c], .sign found _ :: _ => c = found
  | c :: others, .sign found joint :: rest => c = found && joint && startsSigns others rest
  | _, _ => false

/-- Some lexemes start with what is looked for. -/
def starts : Terminal → List Lexeme → Bool
  | .word text, .word found :: _ => text = found
  | .name, .word found :: _ => found ∉ Lexeme.keywords
  | .anyWord, .word _ :: _ => true
  | .anyWord, .literal (.bool _) _ :: _ => true
  | .lifetime, .lifetime _ :: _ => true
  | .literal, .literal _ _ :: _ => true
  | .string, .literal (.string _) _ :: _ => true
  | .signs text, lexemes => startsSigns text.toList lexemes
  | .opening bracket, .opening found :: _ => bracket = found
  | .closing bracket, .closing found :: _ => bracket = found
  | _, _ => false

def size : Terminal → Nat
  | .signs text => text.length
  | _ => 1

/-- Some lexemes start with several things, one after the other. -/
def startAll : List Terminal → List Lexeme → Bool
  | [], _ => true
  | terminal :: others, lexemes =>
    terminal.starts lexemes && startAll others (lexemes.drop terminal.size)

end Terminal

/-- What is left to read, and the source of what was read, without blanks. -/
structure Scan where
  rest : List Lexeme
  written : String
  deriving DecidableEq, Repr

/-- A rule reads something, or fails. -/
abbrev Rule (α : Type) : Type :=
  StateT Scan Option α

namespace Rule

variable {α : Type}

/-- What a rule reads if it reads all of some lexemes. -/
def run? (rule : Rule α) (lexemes : List Lexeme) : Option α :=
  match StateT.run rule ⟨lexemes, ""⟩ with
  | some (found, ⟨[], _⟩) => some found
  | _ => none

/-! ### Looking ahead -/

def sees (terminal : Terminal) : Rule Bool :=
  return terminal.starts (← get).rest

def seesAny (terminals : List Terminal) : Rule Bool := do
  let rest := (← get).rest
  return terminals.any (·.starts rest)

/-- Several things come next, one after the other. -/
def seesAll (terminals : List Terminal) : Rule Bool :=
  return Terminal.startAll terminals (← get).rest

/-- Some signs come next, and not others that start with them. -/
def seesOnly (signs : String) (longer : List String) : Rule Bool := do
  let rest := (← get).rest
  return (Terminal.signs signs).starts rest && !longer.any fun text =>
    (Terminal.signs text).starts rest

/-- Nothing is left inside of the innermost bracket. -/
def atEnd : Rule Bool :=
  return match (← get).rest with
    | [] | .closing _ :: _ => true
    | _ => false

/-! ### Reading -/

def next : Rule Lexeme := do
  match ← get with
  | ⟨lexeme :: rest, written⟩ =>
    set (Scan.mk rest (written ++ lexeme.text))
    return lexeme
  | ⟨[], _⟩ => failure

def skip : Nat → Rule Unit
  | 0 => return ()
  | count + 1 => do
    let _ ← next
    skip count

/-- What must come next. -/
def expect (terminal : Terminal) : Rule Unit := do
  guard (← sees terminal)
  skip terminal.size

/-- What may come next, and whether it does. -/
def accept (terminal : Terminal) : Rule Bool := do
  if ← sees terminal then
    skip terminal.size
    return true
  return false

/-- Write a source that was kept apart. -/
def write (text : String) : Rule Unit :=
  modify fun scan => { scan with written := scan.written ++ text }

/-- What a rule reads, with its source, which is not written. -/
def apart (rule : Rule α) : Rule (α × String) := do
  let before := (← get).written
  modify fun scan => { scan with written := "" }
  let found ← rule
  let text := (← get).written
  modify fun scan => { scan with written := before }
  return (found, text)

/-! ### Repetition -/

/-- Repeat a step until there is no next one; the fuel bounds their number. -/
def iterateWithin (step : α → Rule (Option α)) : Nat → α → Rule α
  | 0, found => return found
  | fuel + 1, found => do
    match ← step found with
    | some more => iterateWithin step fuel more
    | none => return found

/-- Repeat a step until there is no next one. A step that is followed by another one reads at least
one lexeme, which bounds their number. -/
def iterate (step : α → Rule (Option α)) (initial : α) : Rule α := do
  iterateWithin step ((← get).rest.length + 1) initial

/-- Items with signs between them, up to where a rule says that there is no other one; with each of
them whether the signs follow. -/
def separated (signs : String) (stops : Rule Bool) (item : Rule α) : Rule (List (α × Bool)) := do
  let (found, _) ← iterate (fun (found, done) => do
    if done || (← stops) then return none
    let value ← item
    let follows ← accept (.signs signs)
    return some (found ++ [(value, follows)], !follows)) ([], false)
  return found

/-! ### Brackets -/

/-- What a rule reads between brackets. It must read all that is there. -/
def enclosed (bracket : Bracket) (rule : Rule α) : Rule α := do
  expect (.opening bracket)
  let found ← rule
  expect (.closing bracket)
  return found

/-- Everything up to the bracket that closes the innermost open one, and that bracket. -/
def close : Rule Unit := do
  let _ ← iterate (fun
    | 0 => return none
    | depth + 1 => do
      match ← next with
      | .opening _ => return some (depth + 2)
      | .closing _ => return some depth
      | _ => return some (depth + 1)) 1

/-- A bracket of a kind, whatever it holds. -/
def group (bracket : Bracket) : Rule Unit := do
  expect (.opening bracket)
  close

/-- A bracket of any kind, whatever it holds. -/
def anyGroup : Rule Unit := do
  guard (← seesAny [.opening .round, .opening .square, .opening .curly])
  let _ ← next
  close

end Rule

end CommandLine
