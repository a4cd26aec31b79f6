import CommandLine.Declaration.TypeExpr

/-!
# Entry points

The entry point of a program is a function one of whose inputs receives the parsed arguments: the
only one, or the first one marked with `#[args]`. That input becomes a binding at the start of the
body, and the others stay as they are.
-/

namespace CommandLine

/-- What a method is called on, such as `&self`, with its attributes, all without blanks. -/
structure Receiver where
  source : String
  attributes : List String
  deriving DecidableEq, Repr

/-- A pattern with its type and its attributes, all without blanks. -/
structure TypedInput where
  pattern : String
  type : TypeExpr
  attributes : List String
  deriving DecidableEq, Repr

inductive Input where
  | receiver (input : Receiver)
  | typed (input : TypedInput)
  deriving DecidableEq, Repr

inductive Statement where
  /-- Load and parse the command line, and bind the result to a pattern with its type. -/
  | binding (pattern : String) (type : TypeExpr)
  /-- Any other statement, as its source. -/
  | other (source : String)
  deriving DecidableEq, Repr

structure EntryFunction where
  inputs : List Input
  body : List Statement
  deriving DecidableEq, Repr

inductive EntryFault where
  | hasArguments
  | noInput
  | onlyReceiver
  | unmarkedInputs
  | strangeAttribute
  deriving DecidableEq, Repr

def EntryFault.message : EntryFault → String
  | .hasArguments => "#[parley::main] doesn't take any arguments"
  | .noInput =>
    "#[parley::main] function requires an argument to receive the parsed command line"
  | .onlyReceiver => "#[parley::main] function requires an argument (`self` doesn't count)"
  | .unmarkedInputs =>
    "#[parley::main] function with more than one argument must use #[args] " ++
      "to identify the command line arguments parameter"
  | .strangeAttribute => "unrecognized attribute on #[parley::main] arguments parameter"

/-- The attribute that marks an input. -/
def marker : String := "args"

def TypedInput.isMarked (input : TypedInput) : Bool :=
  marker ∈ input.attributes

def attributesText (attributes : List String) : String :=
  String.join (attributes.map fun name => "#[" ++ name ++ "]")

def Input.text : Input → String
  | .receiver input => attributesText input.attributes ++ input.source
  | .typed input => attributesText input.attributes ++ input.pattern ++ ":" ++ input.type.text

namespace EntryPoint

/-- The first marked input, and all others in order. The inputs that were passed over on the way to
it stay in front of those behind it. -/
def takeMarked (passed : List Input) : List Input → Option (TypedInput × List Input)
  | [] => none
  | .receiver input :: rest => takeMarked (passed ++ [.receiver input]) rest
  | .typed input :: rest =>
    if input.isMarked then some (input, passed ++ rest)
    else takeMarked (passed ++ [.typed input]) rest

/-- The input that receives the arguments, and the others in order. -/
def choose : List Input → Except EntryFault (TypedInput × List Input)
  | [] => .error .noInput
  | [.typed input] => .ok (input, [])
  | [.receiver _] => .error .onlyReceiver
  | inputs =>
    match takeMarked [] inputs with
    | some found => .ok found
    | none => .error .unmarkedInputs

/-- The entry point that a function becomes: the chosen input is a binding in front of the body. The
attribute that asks for it takes no arguments of its own. -/
def ofFunction (hasArguments : Bool) (function : EntryFunction) :
    Except EntryFault EntryFunction := do
  if hasArguments then .error .hasArguments
  let (chosen, others) ← choose function.inputs
  if chosen.attributes.any (· ≠ marker) then .error .strangeAttribute
  return ⟨others, .binding chosen.pattern chosen.type :: function.body⟩

end EntryPoint

end CommandLine
