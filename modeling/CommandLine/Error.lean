import CommandLine.Tags
import CommandLine.Text.Quoted

/-!
# Errors in arguments

Everything that can be wrong with a list of arguments. An error carries what its message needs, so
equal errors have equal messages.
-/

namespace CommandLine

/-- A problem found in the arguments. -/
inductive ParseError where
  /-- An option that the model does not have, in the argument that mentions it. -/
  | unknownOption (option argument : String)
  /-- A positional argument that nothing accepts, or a long option without a name. -/
  | unrecognizedArgument (argument : String)
  /-- An option needs a value and did not get one. -/
  | optionValueMissing (option : String)
  /-- An option appears again. -/
  | duplicateOption (option : String)
  /-- The value of an option cannot be decoded. -/
  | badOptionValue (value option : String)
  /-- The value of a parameter cannot be decoded. -/
  | badParameterValue (value parameter : String) (index : Nat)
  /-- A further argument cannot be decoded. The index counts further arguments only. -/
  | badRemainingValue (value : String) (index : Nat)
  /-- A flag is given a value, as in `--verbose=yes`. -/
  | flagValue (option value : String)
  /-- A required option is absent. -/
  | missingOption (tags : Tags)
  /-- A required parameter is absent. -/
  | missingParameter (parameter : String) (index : Nat)
  deriving DecidableEq, Repr

inductive ErrorKind where
  | unknownOption
  | unrecognizedArgument
  | optionValueMissing
  | duplicateOption
  | badOptionValue
  | badParameterValue
  | badRemainingValue
  | flagValue
  | missingOption
  | missingParameter
  deriving DecidableEq, Repr

def ErrorKind.all : List ErrorKind :=
  [.unknownOption, .unrecognizedArgument, .optionValueMissing, .duplicateOption, .badOptionValue,
   .badParameterValue, .badRemainingValue, .flagValue, .missingOption, .missingParameter]

namespace ParseError

def kind : ParseError → ErrorKind
  | .unknownOption .. => .unknownOption
  | .unrecognizedArgument .. => .unrecognizedArgument
  | .optionValueMissing .. => .optionValueMissing
  | .duplicateOption .. => .duplicateOption
  | .badOptionValue .. => .badOptionValue
  | .badParameterValue .. => .badParameterValue
  | .badRemainingValue .. => .badRemainingValue
  | .flagValue .. => .flagValue
  | .missingOption .. => .missingOption
  | .missingParameter .. => .missingParameter

/-- A parameter with its position. -/
def position (parameter : String) (index : Nat) : String :=
  "parameter <" ++ parameter ++ "> (position " ++ toString index ++ ")"

/-- The wording of an error. Foreign text in it is quoted, so it is a single line as long as the
names of the model are. -/
def message : ParseError → String
  | .unknownOption option argument =>
    "unknown option " ++ Text.quote option ++ " in argument " ++ Text.quote argument
  | .unrecognizedArgument argument => "unrecognized argument " ++ Text.quote argument
  | .optionValueMissing option => "option " ++ Text.quote option ++ " requires a value"
  | .duplicateOption option => "option " ++ Text.quote option ++ " appeared more than once"
  | .badOptionValue value option =>
    "option " ++ Text.quote option ++ " can't accept " ++ Text.quote value
  | .badParameterValue value parameter index =>
    position parameter index ++ " can't accept " ++ Text.quote value
  | .badRemainingValue value index =>
    "remaining argument " ++ toString index ++ " can't accept " ++ Text.quote value
  | .flagValue option value =>
    "option " ++ Text.quote option ++ " is a flag and doesn't take a value (got " ++
      Text.quote value ++ ")"
  | .missingOption tags => "required option " ++ tags.display ++ " was omitted"
  | .missingParameter parameter index =>
    "required " ++ position parameter index ++ " was omitted"

end ParseError

end CommandLine
