import CommandLine.Declaration.Grammar.Sources
import CommandLine.Number.Integer

/-!
# Attributes

Attributes are named settings: a bare name, a name with a value, or a name with a list of further
settings. They are read in the order in which they are written. All faults of one list are reported
together, and those about absent settings come last.
-/

namespace CommandLine

/-- What follows the name of an attribute. Lists hold values of type `β`. -/
inductive Payload (β : Type) where
  | word
  | value (expression : Expression)
  | list (items : β)
  deriving DecidableEq, Repr

/-- A setting inside a list. The contents of a list inside a list do not matter. -/
structure Setting where
  name : String
  payload : Payload Unit
  deriving DecidableEq, Repr

structure Attribute where
  name : String
  payload : Payload (List Setting)
  deriving DecidableEq, Repr

namespace Attribute

def bare (name : String) : Attribute :=
  ⟨name, .word⟩

def ofText (name text : String) : Attribute :=
  ⟨name, .value (.string text)⟩

def ofChar (name : String) (letter : Char) : Attribute :=
  ⟨name, .value (.char letter)⟩

/-- An attribute with an expression given by its source. -/
def ofSource (name source : String) : Attribute :=
  ⟨name, .value (.ofSource source)⟩

def command (handler : String) (aliases : List String) (description : Option String) : Attribute :=
  ⟨"command", .list (⟨"handler", .value (.string handler)⟩ ::
    (aliases.map fun text => ⟨"alias", .value (.string text)⟩) ++
    description.toList.map fun text => ⟨"description", .value (.string text)⟩)⟩

end Attribute

/-! ### Faults -/

inductive AttributeFault where
  /-- No attribute has this name. -/
  | unknown (name : String)
  /-- The attribute was there before. -/
  | duplicate (name : String)
  | missing (name : String)
  /-- Something is missing in the command at a place, which has other faults as well. -/
  | missingInCommand (name : String) (place : Nat)
  /-- The value is of another type. -/
  | unexpectedType (type : String)
  /-- The value is of the right type but stands for nothing. -/
  | unknownValue (text : String)
  /-- The attribute does not come as a word, a list, or a literal. -/
  | unexpectedForm (form : String)
  /-- The name of an attribute is a keyword. -/
  | keyword (name : String)
  /-- A list follows what can only stand by itself. -/
  | unseparated
  /-- The value of an attribute has attributes of its own. -/
  | attributed
  | integer (fault : IntegerFault)
  deriving DecidableEq, Repr

def AttributeFault.message : AttributeFault → String
  | .unknown name => "Unknown field: `" ++ name ++ "`"
  | .duplicate name => "Duplicate field `" ++ name ++ "`"
  | .missing name => "Missing field `" ++ name ++ "`"
  | .missingInCommand name place =>
    "Missing field `" ++ name ++ "` at command[" ++ toString place ++ "]"
  | .unexpectedType type => "Unexpected type `" ++ type ++ "`"
  | .unknownValue text => "Unknown literal value `" ++ text ++ "`"
  | .unexpectedForm form => "Unexpected meta-item format `" ++ form ++ "`"
  | .keyword name => "expected identifier, found keyword `" ++ name ++ "`"
  | .unseparated => "expected `,`"
  | .attributed => "unexpected attribute inside of attribute"
  | .integer fault => fault.message

namespace Payload

variable {β : Type}

def isWord : Payload β → Bool
  | .word => true
  | _ => false

/-! ### Values -/

/-- The literal that a value is. A minus sign belongs to the literal only at the end of the
attributes, otherwise it is an operator. -/
def literal? (last : Bool) (expression : Expression) :
    Except AttributeFault (Bool × Literal) :=
  match expression.construct with
  | .literal literal => .ok (false, literal)
  | .negative literal =>
    if last then .ok (true, literal) else .error (.unexpectedType expression.construct.name)
  | construct => .error (.unexpectedType construct.name)

def valueOf : Payload β → Except AttributeFault Expression
  | .word => .error (.unexpectedForm "word")
  | .list _ => .error (.unexpectedForm "list")
  | .value expression => .ok expression

def bare (last : Bool) : Payload β → Except AttributeFault Unit
  | .word => .ok ()
  | .list _ => .error (.unexpectedForm "list")
  | .value expression => do
    let (_, literal) ← literal? last expression
    .error (.unexpectedType literal.typeName)

def text (last : Bool) (payload : Payload β) : Except AttributeFault String := do
  match ← literal? last (← payload.valueOf) with
  | (_, .string found) => .ok found
  | (_, literal) => .error (.unexpectedType literal.typeName)

/-- An attribute with a character, which can also be written as a text of one character. -/
def character (last : Bool) (payload : Payload β) : Except AttributeFault Char := do
  match ← literal? last (← payload.valueOf) with
  | (_, .char found) => .ok found
  | (_, .string found) =>
    match found.toList with
    | [c] => .ok c
    | _ => .error (.unexpectedType "string")
  | (_, literal) => .error (.unexpectedType literal.typeName)

def numberWidth : IntegerWidth := ⟨64, false⟩

/-- An attribute with a number, which can also be written as a text. -/
def number (last : Bool) (payload : Payload β) : Except AttributeFault Nat := do
  match ← literal? last (← payload.valueOf) with
  | (negative, .int found) =>
    match numberWidth.decode ((if negative then ['-'] else []) ++ (toString found).toList) with
    | .ok found => .ok found.toNat
    | .error fault => .error (.integer fault)
  | (_, .string text) =>
    match numberWidth.decode text.toList with
    | .ok found => .ok found.toNat
    | .error _ => .error (.unknownValue text)
  | (_, literal) => .error (.unexpectedType literal.typeName)

/-- An attribute with a path, which can also be written as a text. -/
def path (last : Bool) (payload : Payload β) : Except AttributeFault String := do
  let expression ← payload.valueOf
  match expression.construct with
  | .path text => .ok text
  | _ =>
    match ← literal? last expression with
    | (_, .string source) =>
      match Path.ofSource? source with
      | some found => .ok found.text
      | none => .error (.unknownValue source)
    | (_, literal) => .error (.unexpectedType literal.typeName)

/-- An attribute with a type, which is written as a text. -/
def type (last : Bool) (payload : Payload β) : Except AttributeFault String := do
  match ← literal? last (← payload.valueOf) with
  | (_, .string source) =>
    match TypeExpr.ofSource? source with
    | some found => .ok found.text
    | none => .error (.unknownValue source)
  | (_, literal) => .error (.unexpectedType literal.typeName)

/-- An attribute that can have a value or be nothing but its name. -/
def optional {γ : Type} (read : Payload β → Except AttributeFault γ) :
    Payload β → Except AttributeFault (Option γ)
  | .word => .ok none
  | payload => (read payload).map some

/-- An attribute that can have any expression or be nothing but its name. -/
def expression : Payload β → Except AttributeFault (Option Expression)
  | .word => .ok none
  | .value expression => .ok (some expression)
  | .list _ => .error (.unexpectedForm "list")

end Payload

/-! ### Lists of attributes -/

/-- How attributes of one kind are read. `σ` is what they come to. -/
structure AttributeReader (σ β : Type) where
  /-- The attributes that can be there once. -/
  once : List String
  /-- The attributes that can be there any number of times. -/
  repeated : List String
  /-- Read one attribute. The flag says that it is the last one. -/
  read : σ → Bool → String → Payload β → Except (List AttributeFault) σ

/-- The truth values, which are literals by themselves. -/
def truthWords : List String :=
  ["true", "false"]

/-- The keywords that can be the name of an attribute. -/
def namingKeywords : List String :=
  ["crate", "self", "Self", "super", "unsafe"]

/-- Why an attribute cannot be written like this. -/
def formFault? {β : Type} (name : String) (payload : Payload β) : Option AttributeFault :=
  match payload with
  | .word => if name ∈ truthWords then none else keywordFault?
  | .list _ => if name ∈ truthWords then some .unseparated else keywordFault?
  | .value expression =>
    if name ∈ truthWords then some (.keyword name)
    else keywordFault?.or (if expression.construct = .attributed then some .attributed else none)
where
  /-- The name is a keyword that cannot be one. -/
  keywordFault? :=
    if name ∈ Lexeme.keywords ∧ name ∉ namingKeywords then some (.keyword name) else none

/-- Attributes are written as they can be. The first fault leaves nothing to read. -/
def checkForms {β : Type} (attributes : List (String × Payload β)) :
    Except (List AttributeFault) Unit :=
  match attributes.findSome? fun (name, payload) => formFault? name payload with
  | some fault => .error [fault]
  | none => .ok ()

namespace AttributeReader

variable {σ β : Type}

/-- Read attributes in order, given the names that were there before. A bare truth value is no
attribute. -/
def readFrom (reader : AttributeReader σ β) (state : σ) (met : List String) :
    List (String × Payload β) → σ × List AttributeFault
  | [] => (state, [])
  | (name, payload) :: rest =>
    if payload.isWord && name ∈ truthWords then
      let (last, faults) := readFrom reader state met rest
      (last, .unexpectedForm "literal" :: faults)
    else if name ∉ reader.once ∧ name ∉ reader.repeated then
      let (last, faults) := readFrom reader state met rest
      (last, .unknown name :: faults)
    else if name ∈ reader.once ∧ name ∈ met then
      let (last, faults) := readFrom reader state met rest
      (last, .duplicate name :: faults)
    else
      match reader.read state rest.isEmpty name payload with
      | .ok next => readFrom reader next (name :: met) rest
      | .error found =>
        let (last, faults) := readFrom reader state (name :: met) rest
        (last, found ++ faults)

/-- What attributes come to, if they have no faults. -/
def readAll (reader : AttributeReader σ β) (initial : σ) (attributes : List (String × Payload β)) :
    Except (List AttributeFault) σ := do
  checkForms attributes
  match reader.readFrom initial [] attributes with
  | (state, []) => .ok state
  | (_, faults) => .error faults

end AttributeReader

/-- The name and the payload of an attribute. -/
def Attribute.entry (item : Attribute) : String × Payload (List Setting) :=
  (item.name, item.payload)

def Setting.entry (setting : Setting) : String × Payload Unit :=
  (setting.name, setting.payload)

/-- Read a single value: it has at most one fault. -/
def single {α : Type} (result : Except AttributeFault α) : Except (List AttributeFault) α :=
  result.mapError fun fault => [fault]

end CommandLine
