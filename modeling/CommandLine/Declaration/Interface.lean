import CommandLine.Declaration.Commands
import CommandLine.Declaration.Field
import CommandLine.Declaration.Generics

/-!
# Interfaces

An interface is what an accepted declaration stands for: its options, its parameters in order, its
collector, and its commands. A declaration is accepted if it is a structure with named fields, every
field passes on its own, no tag is used twice, the parameters can be put in order, and at most one
field collects the remaining arguments. The first fault counts.
-/

namespace CommandLine

inductive DeclarationForm where
  /-- A structure with named fields. -/
  | named
  /-- A structure whose fields have no names. -/
  | tuple
  /-- A structure without fields. -/
  | unit
  | enumeration
  | union
  deriving DecidableEq, Repr

structure Declaration where
  form : DeclarationForm
  generics : List GenericKind
  attributes : List Attribute
  fields : List FieldDeclaration
  deriving DecidableEq, Repr

inductive DeclarationFault where
  | generics (kind : GenericKind)
  | notNamed
  | enumeration
  | union
  | command (fault : CommandFault)
  | field (fault : FieldFault)
  | duplicateLong (tag : String)
  | duplicateShort (tag : Char)
  | partialIndexes
  | duplicateIndex (index : Nat)
  | indexGap (expected : Nat)
  | requiredAfterOptional
  | severalRemaining
  deriving DecidableEq, Repr

def DeclarationFault.messages : DeclarationFault → List String
  | .generics kind => [kind.message .program]
  | .notNamed => ["can only derive `Parse` on structs with named fields"]
  | .enumeration =>
    ["can't derive `Parse` on an enum; use `derive(Value)` for enum values"]
  | .union => ["can't derive `Parse` on a union"]
  | .command fault => fault.messages
  | .field fault => fault.messages
  | .duplicateLong tag => ["duplicate long option: --" ++ tag, "original use here"]
  | .duplicateShort tag =>
    ["duplicate short option: -" ++ String.singleton tag, "original use here"]
  | .partialIndexes => ["if any positional parameter has an `index`, all of them must"]
  | .duplicateIndex index => ["duplicate parameter index: " ++ toString index, "original use here"]
  | .indexGap expected =>
    ["parameter indexes must count up from 0 without gaps; expected index " ++
      toString expected ++ " here"]
  | .requiredAfterOptional => ["a required parameter can't come after an optional one"]
  | .severalRemaining =>
    ["only one field can collect the `remaining` parameters", "first `remaining` field here"]

/-- What an accepted declaration stands for. -/
structure Interface where
  settings : ProgramSettings
  options : List OptionField
  /-- The parameters in order: the place of a parameter is its index. -/
  parameters : List ParameterField
  remaining : Option RemainingField
  deriving DecidableEq, Repr

namespace Interface

/-! ### Tags -/

/-- The tags of options are all different. The options are looked at in order, and a long tag
before a short one. -/
def checkTags : List String → List Char → List OptionField → Except DeclarationFault Unit
  | _, _, [] => .ok ()
  | longs, shorts, option :: rest => do
    let longs ←
      match option.tags.long? with
      | some tag => if tag ∈ longs then .error (.duplicateLong tag) else .ok (tag :: longs)
      | none => .ok longs
    let shorts ←
      match option.tags.short? with
      | some tag => if tag ∈ shorts then .error (.duplicateShort tag) else .ok (tag :: shorts)
      | none => .ok shorts
    checkTags longs shorts rest

/-! ### Parameters -/

/-- Parameters with their indexes: all declared, or none and then counted. -/
def indexed (parameters : List (ParameterField × Option Nat)) :
    Except DeclarationFault (List (ParameterField × Nat)) :=
  if parameters.all (·.2.isNone) then .ok (parameters.map (·.1)).zipIdx
  else if parameters.any (·.2.isNone) then .error .partialIndexes
  else
    let numbered := parameters.filterMap fun (field, index) => index.map fun index => (field, index)
    match firstRepeated? [] (numbered.map (·.2)) with
    | some index => .error (.duplicateIndex index)
    | none => .ok numbered

/-- Insert a parameter before the first one with a greater index. -/
def insertIndexed (entry : ParameterField × Nat) :
    List (ParameterField × Nat) → List (ParameterField × Nat)
  | [] => [entry]
  | first :: rest =>
    if entry.2 ≤ first.2 then entry :: first :: rest else first :: insertIndexed entry rest

def sortIndexed (entries : List (ParameterField × Nat)) : List (ParameterField × Nat) :=
  entries.foldr insertIndexed []

/-- The first place, counted from `expected`, whose parameter has another index. -/
def gap? : Nat → List (ParameterField × Nat) → Option Nat
  | _, [] => none
  | expected, (_, index) :: rest =>
    if index = expected then gap? (expected + 1) rest else some expected

/-- A required parameter follows one that is not. -/
def hasMisplaced (parameters : List ParameterField) : Bool :=
  (parameters.dropWhile (·.base.required)).any (·.base.required)

/-- Parameters in order. Their indexes count up from zero, and those that are required come
first. -/
def resolveParameters (parameters : List (ParameterField × Option Nat)) :
    Except DeclarationFault (List ParameterField) := do
  let sorted := sortIndexed (← indexed parameters)
  match gap? 0 sorted with
  | some expected => .error (.indexGap expected)
  | none =>
    let fields := sorted.map (·.1)
    if hasMisplaced fields then .error .requiredAfterOptional else .ok fields

/-! ### The whole -/

/-- The only collector, if there is one. -/
def resolveRemaining : List RemainingField → Except DeclarationFault (Option RemainingField)
  | [] => .ok none
  | [field] => .ok (some field)
  | _ => .error .severalRemaining

def ofFields (settings : ProgramSettings) (fields : List Field) :
    Except DeclarationFault Interface := do
  let options := fields.filterMap Field.option?
  checkTags [] [] options
  let parameters ← resolveParameters (fields.filterMap Field.parameter?)
  let remaining ← resolveRemaining (fields.filterMap Field.remaining?)
  return ⟨settings, options, parameters, remaining⟩

/-- Only structures with named fields have an interface. -/
def checkForm : DeclarationForm → Except DeclarationFault Unit
  | .named => .ok ()
  | .tuple | .unit => .error .notNamed
  | .enumeration => .error .enumeration
  | .union => .error .union

def ofDeclaration (declaration : Declaration) : Except DeclarationFault Interface := do
  match GenericKind.reported? declaration.generics with
  | some kind => .error (.generics kind)
  | none => .ok ()
  checkForm declaration.form
  let settings ←
    (ProgramSettings.ofAttributes declaration.attributes).mapError DeclarationFault.command
  let fields ← declaration.fields.mapM fun field =>
    (Field.ofDeclaration field).mapError DeclarationFault.field
  ofFields settings fields

end Interface

end CommandLine
