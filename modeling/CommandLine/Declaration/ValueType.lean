import CommandLine.Declaration.Field
import CommandLine.Declaration.Generics
import CommandLine.Declaration.Interface
import CommandLine.Text.Quoted

/-!
# Value types

A declared type can be the type of single values: an enumeration, whose members are known by name,
or a structure with one field, which takes the values of that field.
-/

namespace CommandLine

structure VariantDeclaration where
  name : String
  /-- The member has no fields, not even an empty list of them. -/
  bare : Bool
  attributes : List Attribute
  deriving DecidableEq, Repr

structure ValueDeclaration where
  form : DeclarationForm
  generics : List GenericKind
  /-- The types of the fields of a structure. -/
  fields : List TypeExpr
  variants : List VariantDeclaration
  deriving DecidableEq, Repr

inductive ValueType where
  /-- The names of the members, in order. -/
  | enumeration (names : List String)
  /-- Another name for a type; the flag says that its field has a name. -/
  | newtype (inner : TypeExpr) (named : Bool)
  deriving DecidableEq, Repr

inductive ValueTypeFault where
  | generics (kind : GenericKind)
  | notOneField
  | union
  | noVariants
  | variantFields
  | attributes (faults : List AttributeFault)
  | emptyName
  | duplicateName (name : String)
  deriving DecidableEq, Repr

def ValueTypeFault.messages : ValueTypeFault → List String
  | .generics kind => [kind.message .value]
  | .notOneField => ["can only derive `Value` on structs with exactly one field"]
  | .union => ["can't derive `Value` on a union"]
  | .noVariants => ["can't derive `Value` on an enum with no variants"]
  | .variantFields =>
    ["`Value` can only be derived for enums whose variants have no fields"]
  | .attributes faults => faults.map AttributeFault.message
  | .emptyName => ["variant names can't be empty"]
  | .duplicateName name =>
    ["duplicate variant name: " ++ Text.quote name, "original use here"]

namespace ValueType

/-- The attributes of members: another name. -/
def reader : AttributeReader (Option String) (List Setting) where
  once := ["name"]
  repeated := []
  read _ last name payload :=
    match name with
    | "name" => single <| (payload.text last).map some
    | other => .error [.unknown other]

/-- The name of a member: the declared one, or its identifier in kebab case. -/
def variantName (variant : VariantDeclaration) : Except ValueTypeFault String := do
  if !variant.bare then .error .variantFields
  let entries := variant.attributes.map Attribute.entry
  let declared ← (reader.readAll none entries).mapError ValueTypeFault.attributes
  let name := declared.getD (Text.kebabCase (unmarked variant.name))
  if name = "" then .error .emptyName
  return name

/-- The enumeration of some members, whose names are all different. -/
def ofVariants (variants : List VariantDeclaration) : Except ValueTypeFault ValueType := do
  if variants = [] then .error .noVariants
  let names ← variants.mapM variantName
  match firstRepeated? [] names with
  | some name => .error (.duplicateName name)
  | none => return .enumeration names

def ofDeclaration (declaration : ValueDeclaration) : Except ValueTypeFault ValueType := do
  match GenericKind.reported? declaration.generics with
  | some kind => .error (.generics kind)
  | none => .ok ()
  match declaration.form, declaration.fields with
  | .enumeration, _ => ofVariants declaration.variants
  | .union, _ => .error .union
  | .named, [inner] => return .newtype inner true
  | .tuple, [inner] => return .newtype inner false
  | _, _ => .error .notOneField

end ValueType

/-! ### Truth values -/

/-- The paths of the primitive truth values. -/
def truthPaths : List String :=
  ["bool", "std::primitive::bool", "::std::primitive::bool", "core::primitive::bool",
   "::core::primitive::bool"]

/-- A type of truth values: the primitive one by any of its paths, or a structure around a type of
truth values. Value types are known by their paths. -/
inductive TypeExpr.IsTruth (types : String → Option ValueType) : TypeExpr → Prop
  | primitive {text name : String} (h : text ∈ truthPaths) : IsTruth types (.path text name)
  | newtype {text name : String} {inner : TypeExpr} {named : Bool}
      (h : types text = some (.newtype inner named)) (hinner : IsTruth types inner) :
      IsTruth types (.path text name)
  | paren {inner : TypeExpr} (h : IsTruth types inner) : IsTruth types (.paren inner)
  | group {inner : TypeExpr} (h : IsTruth types inner) : IsTruth types (.group inner)

end CommandLine
