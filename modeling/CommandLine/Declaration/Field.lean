import CommandLine.Declaration.Attribute
import CommandLine.Declaration.Shape
import CommandLine.Tags
import CommandLine.Text.Kebab

/-!
# Fields

A field of a declaration becomes an option, a parameter, or the collector of the remaining
arguments, depending on its attributes. Names and tags that are not given are the field's name in
kebab case. A field is checked on its own here; the first fault counts.
-/

namespace CommandLine

/-! ### Documentation -/

inductive DocsFault where
  /-- A line is no text. -/
  | malformed
  /-- A line is a macro call. -/
  | macroCall
  deriving DecidableEq, Repr

def docsLine (line : Expression) : Except DocsFault String :=
  match line.construct with
  | .literal (.string text) => .ok text
  | .macroCall => .error .macroCall
  | _ => .error .malformed

/-- Documentation, with blanks removed from both ends of every line and of the whole. -/
def docsText (lines : List Expression) : Except DocsFault String := do
  let texts ← lines.mapM docsLine
  let trimmed := texts.map fun text => Text.trim text.toList
  return String.ofList (Text.trim (Text.joined '\n' trimmed))

/-! ### Declarations of fields -/

structure FieldDeclaration where
  name : String
  type : TypeExpr
  attributes : List Attribute
  docs : List Expression
  deriving DecidableEq, Repr

/-- A field with lines of documentation as they stand after the comment sign. -/
def FieldDeclaration.ofSource (name type : String) (attributes : List Attribute)
    (docs : List String) : FieldDeclaration :=
  ⟨name, .ofSource type, attributes, docs.map Expression.string⟩

/-- An identifier without the marker of a raw one. -/
def unmarked (identifier : String) : String :=
  match identifier.toList with
  | 'r' :: '#' :: name => String.ofList name
  | _ => identifier

structure FieldSettings where
  option : Bool
  /-- A long tag, perhaps without its text. -/
  long : Option (Option String)
  /-- A short tag, perhaps without its letter. -/
  short : Option (Option Char)
  noLong : Bool
  remaining : Bool
  index : Option Nat
  name : Option String
  required : Bool
  /-- A default, perhaps without its expression. -/
  default : Option (Option Expression)
  deriving DecidableEq, Repr

namespace FieldSettings

def empty : FieldSettings :=
  ⟨false, none, none, false, false, none, none, false, none⟩

def read (settings : FieldSettings) (last : Bool) (name : String)
    (payload : Payload (List Setting)) : Except (List AttributeFault) FieldSettings :=
  single <|
    match name with
    | "option" => (payload.bare last).map fun _ => { settings with option := true }
    | "long" =>
      (payload.optional (Payload.text last)).map fun tag => { settings with long := some tag }
    | "short" =>
      (payload.optional (Payload.character last)).map fun tag => { settings with short := some tag }
    | "no_long" => (payload.bare last).map fun _ => { settings with noLong := true }
    | "remaining" => (payload.bare last).map fun _ => { settings with remaining := true }
    | "index" => (payload.number last).map fun index => { settings with index := some index }
    | "name" => (payload.text last).map fun name => { settings with name := some name }
    | "required" => (payload.bare last).map fun _ => { settings with required := true }
    | "default" =>
      payload.expression.map fun expression => { settings with default := some expression }
    | other => .error (.unknown other)

def reader : AttributeReader FieldSettings (List Setting) where
  once :=
    ["option", "long", "short", "no_long", "remaining", "index", "name", "required", "default"]
  repeated := []
  read := read

def isOption (settings : FieldSettings) : Bool :=
  settings.option || settings.long.isSome || settings.short.isSome || settings.noLong

end FieldSettings

/-! ### Checked fields -/

/-- The value of a field that is absent. -/
inductive FieldDefault where
  | none
  /-- The value that the type itself provides. -/
  | initial
  | expression (expression : Expression)
  deriving DecidableEq, Repr

structure FieldBase where
  name : String
  shape : Shape
  required : Bool
  default : FieldDefault
  docs : String
  deriving DecidableEq, Repr

structure OptionField where
  base : FieldBase
  tags : Tags
  deriving DecidableEq, Repr

structure ParameterField where
  base : FieldBase
  name : String
  deriving DecidableEq, Repr

structure RemainingField where
  base : FieldBase
  name : String
  deriving DecidableEq, Repr

inductive Field where
  | option (field : OptionField)
  /-- A parameter, with its index if one is declared. -/
  | parameter (field : ParameterField) (index : Option Nat)
  | remaining (field : RemainingField)
  deriving DecidableEq, Repr

inductive FieldFault where
  | attributes (faults : List AttributeFault)
  | docs (fault : DocsFault)
  | nestedWrapper
  | requiredDefault
  | remainingOption
  | remainingIndex
  | remainingRequired
  | remainingNoSequence
  | optionIndex
  | optionName
  | sequenceOfFlags
  | requiredFlag
  | noLongWithLong
  | longHyphens
  | longHyphen
  | longStart
  | longEquals
  | longBlank
  | noLetter
  | shortHyphen
  | shortLetter
  | noTag
  | sequenceParameter
  | emptyName
  | blankInName
  deriving DecidableEq, Repr

/-- The wording of a fault. Every fault of an attribute has a message of its own. -/
def FieldFault.messages : FieldFault → List String
  | .attributes faults => faults.map AttributeFault.message
  | .docs .malformed => ["malformed #[doc] attribute"]
  | .docs .macroCall => ["macro #[doc] attributes aren't supported"]
  | .nestedWrapper => ["nested wrapper types like `Option<Vec<T>>` aren't supported"]
  | .requiredDefault => ["a field with a `default` can't also be `required`"]
  | .remainingOption => ["`remaining` can't be combined with option attributes"]
  | .remainingIndex =>
    ["`remaining` collects everything after the last indexed parameter, " ++
      "so it can't have an `index`"]
  | .remainingRequired => ["`remaining` can't be `required`"]
  | .remainingNoSequence => ["`remaining` must be a sequence, like `Vec<T>`"]
  | .optionIndex => ["options are named, so they can't have an `index`"]
  | .optionName => ["options don't have a parameter `name`; use `long` instead"]
  | .sequenceOfFlags => ["flags can't be collected into a sequence"]
  | .requiredFlag => ["flags are set by their presence, so they can't be `required`"]
  | .noLongWithLong => ["`no_long` conflicts with `long`"]
  | .longHyphens =>
    ["long options don't need to start with --; this is handled automatically"]
  | .longHyphen => ["long options don't start with '-'"]
  | .longStart => ["long options should start with something alphabetic"]
  | .longEquals =>
    ["long options must not include an '=', as it is the argument separator"]
  | .longBlank => ["long options shouldn't include whitespace"]
  | .noLetter => ["empty identifier"]
  | .shortHyphen => ["short option must not be '-'"]
  | .shortLetter =>
    ["short options must be letters, so that they aren't mistaken for numbers"]
  | .noTag => ["an option with `no_long` needs a `short` tag"]
  | .sequenceParameter =>
    ["positional parameters can't be sequences; " ++
      "use #[parley(remaining)] to collect the remaining arguments"]
  | .emptyName => ["parameter names can't be empty"]
  | .blankInName => ["parameter names shouldn't include whitespace"]

namespace Field

/-! ### Tags and names -/

/-- A long tag: it starts with a letter and holds no equals sign and no blanks. -/
def checkLong (tag : String) : Except FieldFault String :=
  match tag.toList with
  | '-' :: '-' :: _ => .error .longHyphens
  | '-' :: _ => .error .longHyphen
  | [] => .error .longStart
  | c :: rest =>
    if !Text.isAlphabetic c then .error .longStart
    else if '=' ∈ rest then .error .longEquals
    else if (c :: rest).any Text.isBlank then .error .longBlank
    else .ok tag

def checkShort (letter : Char) : Except FieldFault Char :=
  if letter = '-' then .error .shortHyphen
  else if !Text.isAlphabetic letter then .error .shortLetter
  else .ok letter

/-- A name for help screens and errors: it is not empty and holds no blanks. -/
def checkName (name : String) : Except FieldFault String :=
  if name = "" then .error .emptyName
  else if name.toList.any Text.isBlank then .error .blankInName
  else .ok name

def longTag (settings : FieldSettings) (field : String) : Except FieldFault (Option String) :=
  if settings.noLong then
    if settings.long.isSome then .error .noLongWithLong else .ok none
  else (checkLong ((settings.long.bind id).getD (Text.kebabCase field))).map some

def shortTag (settings : FieldSettings) (field : String) : Except FieldFault (Option Char) :=
  match settings.short with
  | none => .ok none
  | some (some letter) => (checkShort letter).map some
  | some none =>
    match field.toList with
    | letter :: _ => (checkShort letter).map some
    | [] => .error .noLetter

/-- The tags of an option, which needs at least one. -/
def tags (settings : FieldSettings) (field : String) : Except FieldFault Tags := do
  let long ← longTag settings field
  let short ← shortTag settings field
  match long, short with
  | none, none => .error .noTag
  | some long, none => .ok (.long long)
  | none, some short => .ok (.short short)
  | some long, some short => .ok (.both long short)

/-! ### Roles -/

/-- A check: a fault, if something is the case. -/
def refuse (condition : Bool) (fault : FieldFault) : Except FieldFault Unit :=
  if condition then .error fault else .ok ()

def asRemaining (settings : FieldSettings) (base : FieldBase) :
    Except FieldFault RemainingField := do
  refuse settings.isOption .remainingOption
  refuse settings.index.isSome .remainingIndex
  refuse settings.required .remainingRequired
  refuse (base.shape.wrapper ≠ .sequence) .remainingNoSequence
  let name ← checkName (settings.name.getD (Text.kebabCase base.name))
  return ⟨base, name⟩

def asOption (settings : FieldSettings) (base : FieldBase) : Except FieldFault OptionField := do
  refuse settings.index.isSome .optionIndex
  refuse settings.name.isSome .optionName
  refuse (base.shape.isFlag && base.shape.wrapper = .sequence) .sequenceOfFlags
  refuse (base.shape.isFlag && settings.required) .requiredFlag
  let tags ← tags settings base.name
  return ⟨base, tags⟩

def asParameter (settings : FieldSettings) (base : FieldBase) :
    Except FieldFault ParameterField := do
  refuse (base.shape.wrapper = .sequence) .sequenceParameter
  let name ← checkName (settings.name.getD (Text.kebabCase base.name))
  return ⟨base, name⟩

def defaultOf (settings : FieldSettings) : FieldDefault :=
  match settings.default with
  | none => .none
  | some none => .initial
  | some (some expression) => .expression expression

/-- A field is required if it says so, and also if nothing could stand for its absence. -/
def isRequired (settings : FieldSettings) (shape : Shape) : Bool :=
  settings.required ||
    (shape.wrapper = .single && !shape.isFlag && settings.default.isNone)

/-- Check a field on its own. -/
def ofDeclaration (declaration : FieldDeclaration) : Except FieldFault Field := do
  let settings ← (FieldSettings.reader.readAll .empty
    (declaration.attributes.map Attribute.entry)).mapError .attributes
  let docs ← (docsText declaration.docs).mapError .docs
  let shape ←
    match Shape.ofType? declaration.type with
    | some shape => .ok shape
    | none => .error .nestedWrapper
  refuse (settings.required && settings.default.isSome) .requiredDefault
  let base : FieldBase :=
    ⟨unmarked declaration.name, shape, isRequired settings shape, defaultOf settings, docs⟩
  if settings.remaining then return .remaining (← asRemaining settings base)
  if settings.isOption then return .option (← asOption settings base)
  return .parameter (← asParameter settings base) settings.index

/-! ### Views -/

def option? : Field → Option OptionField
  | .option field => some field
  | _ => none

/-- The parameter that a field is, with its declared index. -/
def parameter? : Field → Option (ParameterField × Option Nat)
  | .parameter field index => some (field, index)
  | _ => none

def remaining? : Field → Option RemainingField
  | .remaining field => some field
  | _ => none

end Field

end CommandLine
