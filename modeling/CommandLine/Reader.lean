import CommandLine.Model
import CommandLine.Token
import CommandLine.Value.Decoder

/-!
# Reading arguments

Arguments are read one after the other. What the next one may be depends on those before it: it may
be the value of an option, or the supposed value of an unknown option, or anything. Reading never
stops at an error. It yields the events that the arguments bring about, such as a text to be stored
or an error to be reported; whether a text can be decoded has no influence on how the arguments
after it are read.
-/

namespace CommandLine

/-! ### Options as they are written -/

/-- The tag with which an option is written. -/
inductive OptionName where
  | long (name : String)
  | short (letter : Char)
  deriving DecidableEq, Repr

/-- The tag without its hyphens. -/
def OptionName.text : OptionName → String
  | .long name => name
  | .short letter => String.singleton letter

/-- An option of the model as it is mentioned by an argument. -/
structure Mention where
  /-- The place of the option in the model. -/
  option : Nat
  kind : ValueKind
  name : OptionName
  deriving DecidableEq, Repr

def Model.mention? (model : Model) (name : OptionName) (place : Nat) : Option Mention :=
  (model.options[place]?).map fun option => ⟨place, option.kind, name⟩

def Model.mentionLong? (model : Model) (name : String) : Option Mention :=
  (model.findLong name).bind (model.mention? (.long name))

def Model.mentionShort? (model : Model) (letter : Char) : Option Mention :=
  (model.findShort letter).bind (model.mention? (.short letter))

/-! ### Events -/

/-- A place of a model that takes values. -/
inductive Slot where
  | option (place : Nat)
  | parameter (place : Nat)
  | remaining
  deriving DecidableEq, Repr

/-- What an argument brings about. -/
inductive Event where
  /-- An option of the model was recognised. -/
  | mention (mention : Mention)
  /-- A text is to be stored. If it cannot be decoded, the error is to be reported. -/
  | store (slot : Slot) (text : String) (blame : ParseError)
  /-- An error is to be reported. -/
  | report (error : ParseError)
  deriving DecidableEq, Repr

/-- A text is to be stored as the value of an option. -/
def Mention.store (mention : Mention) (text : String) : Event :=
  .store (.option mention.option) text (.badOptionValue text mention.name.text)

/-! ### States -/

/-- What the next argument may be. -/
inductive Expectation where
  /-- Anything, even the alias of a command: nothing was read. -/
  | start
  /-- A positional argument, whatever it looks like: there was a `--`. -/
  | verbatim
  /-- A positional argument is the value of an unknown option and is ignored. -/
  | orphan
  /-- Anything but a command. -/
  | fresh
  /-- A positional argument is a value of the option. Once the option has a value, another one is
  welcome but not needed. -/
  | value (mention : Mention) (taken : Bool)
  deriving DecidableEq, Repr

/-- What is known after some arguments. -/
structure Reader where
  expectation : Expectation
  /-- The places of the options that were mentioned. -/
  seen : List Nat
  /-- How many parameters were given. -/
  filled : Nat
  /-- How many arguments were collected after the last parameter. -/
  collected : Nat
  deriving DecidableEq, Repr

namespace Reader

def initial : Reader :=
  ⟨.start, [], 0, 0⟩

/-- The same with another expectation. -/
def expecting (reader : Reader) (expectation : Expectation) : Reader :=
  { reader with expectation }

/-! ### Single arguments -/

/-- An option that still needs a value will get none. -/
def abandoned (reader : Reader) : List Event :=
  match reader.expectation with
  | .value mention false =>
    if mention.kind.isNullableFlag then []
    else [.report (.optionValueMissing mention.name.text)]
  | _ => []

/-- Take note of an option, which should not have been mentioned before. -/
def note (reader : Reader) (mention : Mention) : Reader × List Event :=
  if mention.option ∈ reader.seen then
    (reader, [.mention mention, .report (.duplicateOption mention.name.text)])
  else
    ({ reader with seen := mention.option :: reader.seen }, [.mention mention])

/-- An option without a value in the same argument. -/
def begin (reader : Reader) (mention : Mention) : Reader × List Event :=
  if mention.kind.isNullableFlag then
    (reader.expecting (.value mention false), [mention.store "true"])
  else if mention.kind.isFlag then (reader, [mention.store "true"])
  else (reader.expecting (.value mention false), [])

/-- What follows a value of an option: a sequence takes more of them. -/
def afterValue (mention : Mention) : Expectation :=
  if mention.kind.isSequence then .value mention true else .fresh

def take (reader : Reader) (mention : Mention) (text : String) : Reader × List Event :=
  (reader.expecting (afterValue mention), [mention.store text])

def long (model : Model) (reader : Reader) (argument name : String) (value : Option String) :
    Reader × List Event :=
  match model.mentionLong? name with
  | none =>
    (reader.expecting (if value.isNone then .orphan else .fresh),
      [.report (.unknownOption name argument)])
  | some mention =>
    let (noted, events) := reader.note mention
    let (after, more) :=
      match value with
      | none => noted.begin mention
      | some text =>
        if mention.kind.isFlag then (noted, [.report (.flagValue mention.name.text text)])
        else noted.take mention text
    (after, events ++ more)

/-- The options of a cluster. The first one that is no flag takes the rest of the cluster as its
value, and the first unknown one ends the cluster. -/
def cluster (model : Model) (argument : String) (reader : Reader) :
    List (Char × String) → Reader × List Event
  | [] => (reader, [])
  | (letter, rest) :: others =>
    match model.mentionShort? letter with
    | none =>
      (reader.expecting .orphan,
        [.report (.unknownOption (String.singleton letter) argument)])
    | some mention =>
      let (noted, events) := (reader.expecting .fresh).note mention
      if mention.kind.isFlag then
        let (begun, stored) := noted.begin mention
        let (after, more) := cluster model argument begun others
        (after, events ++ stored ++ more)
      else
        let (after, more) := if rest = "" then noted.begin mention else noted.take mention rest
        (after, events ++ more)

/-- An argument for the next parameter, or for the collector after the last one. -/
def place (model : Model) (reader : Reader) (text : String) : Reader × List Event :=
  match model.parameters[reader.filled]? with
  | some parameter =>
    ({ reader with filled := reader.filled + 1 },
      [.store (.parameter reader.filled) text
        (.badParameterValue text parameter.name parameter.index)])
  | none =>
    if model.remaining.isSome then
      ({ reader with collected := reader.collected + 1 },
        [.store .remaining text (.badRemainingValue text reader.collected)])
    else (reader, [.report (.unrecognizedArgument text)])

/-- A positional argument. After a flag that can be absent it is taken as the flag's value only if
it is a truth value. -/
def positional (model : Model) (reader : Reader) (text : String) : Reader × List Event :=
  match reader.expectation with
  | .orphan => (reader.expecting .fresh, [])
  | .value mention _ =>
    if mention.kind.isNullableFlag && (Decoder.truth? text).isNone then
      place model (reader.expecting .fresh) text
    else reader.take mention text
  | _ => place model reader text

/-- An argument that starts no command. -/
def readToken (model : Model) (reader : Reader) (argument : String) : Token → Reader × List Event
  | .positional text => positional model reader text
  | token =>
    let cleared := reader.expecting .fresh
    let (after, events) :=
      match token with
      | .terminator => (cleared.expecting .verbatim, [])
      | .long name value =>
        if name = "" then (cleared, [.report (.unrecognizedArgument argument)])
        else long model cleared argument name value
      | .short cluster => Reader.cluster model argument cleared cluster.options
      | .positional _ => (cleared, [])
    (after, reader.abandoned ++ events)

/-- An argument that selects no command. -/
def read (model : Model) (reader : Reader) (argument : String) : Reader × List Event :=
  if reader.expectation = .verbatim then positional model reader argument
  else readToken model reader argument (classify argument)

/-! ### Lists of arguments -/

/-- What becomes of an argument. -/
inductive Step where
  /-- It selects a command, and reading is over. -/
  | selected (command : SpecialCommand)
  | next (reader : Reader) (events : List Event)

def advance (model : Model) (reader : Reader) (argument : String) : Step :=
  let (after, events) := read model reader argument
  .next after events

/-- Read an argument. Only the very first one can select a command. -/
def step (model : Model) (reader : Reader) (argument : String) : Step :=
  if reader.expectation = .start then
    match model.select argument with
    | some command => .selected command
    | none => advance model (reader.expecting .fresh) argument
  else advance model reader argument

def readAll (model : Model) (reader : Reader) :
    List String → Except SpecialCommand (Reader × List Event)
  | [] => .ok (reader, [])
  | argument :: rest =>
    match step model reader argument with
    | .selected command => .error command
    | .next after events =>
      match readAll model after rest with
      | .error command => .error command
      | .ok (last, more) => .ok (last, events ++ more)

def missingOptions (reader : Reader) (model : Model) : List Event :=
  (model.options.zipIdx.filter fun (option, place) => option.required && place ∉ reader.seen).map
    fun (option, _) => .report (.missingOption option.tags)

def missingParameters (reader : Reader) (model : Model) : List Event :=
  ((model.parameters.drop reader.filled).filter (·.required)).map
    fun parameter => .report (.missingParameter parameter.name parameter.index)

/-- What the end of the arguments brings about. -/
def finish (reader : Reader) (model : Model) : List Event :=
  reader.abandoned ++ reader.missingOptions model ++ reader.missingParameters model

end Reader

end CommandLine
