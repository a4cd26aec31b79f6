import CommandLine.Reader

/-!
# Programs

A program is a model together with a storage for the values of its arguments. Running it performs
the events of its arguments: texts are decoded and stored, and errors are collected. If there are
none, the options are built from the storage.
-/

namespace CommandLine

/-- What a list of arguments comes to. -/
inductive Outcome (α : Type) where
  | options (options : α)
  | errors (errors : ParseErrors)
  /-- The first argument selected a command. -/
  | command (command : SpecialCommand)

/-- Outcomes are the same if they hold the same options, the same errors in the same order, or the
same command. -/
def Outcome.same {α : Type} (same : α → α → Bool) : Outcome α → Outcome α → Bool
  | .options x, .options y => same x y
  | .errors x, .errors y => x = y
  | .command x, .command y => x.same y
  | _, _ => false

/-- A model with a storage for its values. -/
structure Program (σ α : Type) where
  model : Model
  /-- The storage before any value is stored. -/
  initial : σ
  /-- Decode a text and store its value. -/
  store : Slot → String → σ → Except ValueError σ
  /-- The options that a storage stands for. -/
  build : σ → Except ParseError α

namespace Program

variable {σ α : Type}

/-- Perform an event. The errors are those found so far. -/
def perform (program : Program σ α) (so : σ × List ParseError) : Event → σ × List ParseError
  | .mention _ => so
  | .report error => (so.1, so.2 ++ [error])
  | .store slot text blame =>
    match program.store slot text so.1 with
    | .ok stored => (stored, so.2)
    | .error _ => (so.1, so.2 ++ [blame])

def performAll (program : Program σ α) (events : List Event) : σ × List ParseError :=
  events.foldl program.perform (program.initial, [])

/-- The outcome of all events, those of the end included. -/
def conclude (program : Program σ α) (events : List Event) : Outcome α :=
  let (stored, errors) := program.performAll events
  match ParseErrors.collect errors with
  | some collected => .errors collected
  | none =>
    match program.build stored with
    | .ok options => .options options
    | .error error => .errors (.single error)

/-- The outcome of a list of arguments. -/
def parse (program : Program σ α) (arguments : List String) : Outcome α :=
  match Reader.readAll program.model .initial arguments with
  | .error command => .command command
  | .ok (last, events) => program.conclude (events ++ last.finish program.model)

end Program

end CommandLine
