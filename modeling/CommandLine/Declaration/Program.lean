import CommandLine.Declaration.Interface
import CommandLine.Program
import CommandLine.Record

/-!
# Programs of declarations

An interface becomes a program once its names are given a meaning: types decode values, paths are
handlers, help texts and message tables, and default expressions are values. The storage of such a
program holds the values of every slot of its model in the order in which they came.
-/

namespace CommandLine

/-- What the names in a declaration mean. Values are of type `α`. -/
structure Environment (α : Type) where
  /-- The decoder of a type. -/
  decoder : TypeExpr → Decoder α
  /-- The value of an expression. -/
  value : Expression → FieldValue α
  /-- The order of the members of sets. -/
  order : α → α → Ordering
  /-- The handler of a path. -/
  handler : String → Handler
  /-- The help text of a path. -/
  helpText : String → Option ParseErrors → String
  /-- The message table of a path. -/
  messages : String → MessageTable
  /-- The name of a program that has no other. -/
  defaultName : String
  /-- The version of a program that has no other. -/
  defaultVersion : String

variable {α : Type}

/-! ### Models -/

namespace FieldBase

def kind (base : FieldBase) (environment : Environment α) : ValueKind :=
  ⟨base.shape.wrapper, (environment.decoder base.shape.scalar).kind⟩

end FieldBase

def OptionField.spec (field : OptionField) (environment : Environment α) : OptionSpec where
  field := field.base.name
  tags := field.tags
  kind := field.base.kind environment
  required := field.base.required
  description := field.base.docs

def ParameterField.spec (field : ParameterField) (index : Nat) (environment : Environment α) :
    ParameterSpec where
  index := index
  name := field.name
  kind := field.base.kind environment
  required := field.base.required
  description := field.base.docs

def RemainingField.spec (field : RemainingField) (environment : Environment α) : RemainingSpec where
  name := field.name
  kind := field.base.kind environment
  description := field.base.docs

def HandlerSource.handler (source : HandlerSource) (environment : Environment α) : Handler :=
  match source with
  | .help => .help
  | .version => .version
  | .type path => environment.handler path

def CommandDeclaration.spec (command : CommandDeclaration) (environment : Environment α) :
    CommandSpec where
  aliases := command.aliases
  description := command.description
  handler := command.handler.handler environment

namespace Interface

variable (interface : Interface) (environment : Environment α)

/-- What a help screen says besides the arguments. -/
def info : ProgramInfo where
  name := interface.settings.name.getD environment.defaultName
  version := interface.settings.version.getD environment.defaultVersion
  copyright := interface.settings.copyright
  helpText := interface.settings.helpText.map environment.helpText
  messages := interface.settings.messages.map environment.messages

def model : Model where
  info := interface.info environment
  options := interface.options.map (·.spec environment)
  parameters := interface.parameters.zipIdx.map fun (field, index) => field.spec index environment
  remaining := interface.remaining.map (·.spec environment)
  commands := interface.settings.table.map (·.spec environment)

def base? : Slot → Option FieldBase
  | .option place => (interface.options[place]?).map (·.base)
  | .parameter place => (interface.parameters[place]?).map (·.base)
  | .remaining => interface.remaining.map (·.base)

end Interface

/-! ### Storage -/

/-- The values of every slot, in the order in which they came. -/
abbrev Storage (α : Type) := Slot → List α

namespace Storage

def empty : Storage α :=
  fun _ => []

def set (storage : Storage α) (slot : Slot) (values : List α) : Storage α :=
  fun other => if other = slot then values else storage other

@[simp] theorem set_self (storage : Storage α) (slot : Slot) (values : List α) :
    storage.set slot values slot = values := by
  simp [set]

theorem set_of_ne (storage : Storage α) {slot other : Slot} (values : List α) (h : other ≠ slot) :
    storage.set slot values other = storage other := by
  simp [set, h]

end Storage

namespace FieldBase

variable (base : FieldBase) (environment : Environment α)

/-- The values of a field after one more: a sequence keeps all of them, any other field the last
one. -/
def stored (before : List α) (value : α) : List α :=
  if base.shape.wrapper = .sequence then before ++ [value] else [value]

/-- The members of a collection as it shows them. -/
def arranged (values : List α) : List α :=
  match base.shape.wrapping with
  | some (.sequence .set) => sortedDistinct environment.order values
  | some (.sequence .heap) => sorted environment.order values
  | _ => values

/-- The value of a field that was given. -/
def present (values : List α) (last : α) : FieldValue α :=
  match base.shape.wrapper with
  | .single => .single last
  | .nullable => .nullable (some last)
  | .sequence => .sequence (base.arranged environment values)

/-- The value that a type itself provides: nothing, or no members, or an initial value. -/
def initial : FieldValue α :=
  match base.shape.wrapper with
  | .single => .single (environment.decoder base.shape.scalar).initial
  | .nullable => .nullable none
  | .sequence => .sequence []

/-- The value of a field that was not given, unless it is missing. -/
def absent (missing : Option ParseError) : Except ParseError (FieldValue α) :=
  match base.default with
  | .expression expression => .ok (environment.value expression)
  | .initial => .ok (base.initial environment)
  | .none =>
    match missing with
    | some error => if base.required then .error error else .ok (base.initial environment)
    | none => .ok (base.initial environment)

def entry (values : List α) (missing : Option ParseError) :
    Except ParseError (String × FieldValue α) :=
  match values.getLast? with
  | some last => .ok (base.name, base.present environment values last)
  | none => (base.absent environment missing).map fun value => (base.name, value)

end FieldBase

namespace Interface

variable (interface : Interface) (environment : Environment α)

/-- Decode a text and store its value in a slot. -/
def store (slot : Slot) (text : String) (storage : Storage α) :
    Except ValueError (Storage α) :=
  match interface.base? slot with
  | none => .error (.custom "no such slot")
  | some base =>
    match (environment.decoder base.shape.scalar).decode text with
    | .ok value => .ok (storage.set slot (base.stored (storage slot) value))
    | .error error => .error error

/-- The record of a storage: the options, the parameters, and the collector. The first required
field without a value is missing. -/
def build (storage : Storage α) : Except ParseError (Record α) := do
  let options ← interface.options.zipIdx.mapM fun (field, place) =>
    field.base.entry environment (storage (.option place)) (some (.missingOption field.tags))
  let parameters ← interface.parameters.zipIdx.mapM fun (field, place) =>
    field.base.entry environment (storage (.parameter place))
      (some (.missingParameter field.name place))
  let remaining ← interface.remaining.toList.mapM fun field =>
    field.base.entry environment (storage .remaining) none
  return options ++ parameters ++ remaining

def program : Program (Storage α) (Record α) where
  model := interface.model environment
  initial := Storage.empty
  store := interface.store environment
  build := interface.build environment

end Interface

end CommandLine
