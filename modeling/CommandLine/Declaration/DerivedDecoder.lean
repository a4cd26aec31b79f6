import CommandLine.Declaration.ValueType
import CommandLine.Value.Decoder

/-!
# Derived decoders

A declared value type comes with a decoder. The members of an enumeration are told by their names,
and a structure with one field reads what this field reads and wraps the value.
-/

namespace CommandLine

/-- A value of any type, declared or not. -/
inductive TypedValue where
  | scalar (value : Scalar)
  /-- A structure around the value of its field. -/
  | wrapped (value : TypedValue)
  deriving DecidableEq

/-- Derived equality: structures are the same if their fields are. -/
def TypedValue.same : TypedValue → TypedValue → Bool
  | .scalar x, .scalar y => Scalar.same x y
  | .wrapped x, .wrapped y => TypedValue.same x y
  | _, _ => false

/-- A decoder whose values are made into others. -/
def Decoder.map {α β : Type} (f : α → β) (decoder : Decoder α) : Decoder β where
  kind := decoder.kind
  decode argument :=
    match decoder.decode argument with
    | .ok value => .ok (f value)
    | .error error => .error error
  initial := f decoder.initial

def ValueDeclaration.identifiers (declaration : ValueDeclaration) : List String :=
  declaration.variants.map fun variant => unmarked variant.name

/-- The decoder of a value type, given the decoders of all types and the identifiers of its
members. -/
def ValueType.decoder (decoders : TypeExpr → Decoder TypedValue) (identifiers : List String) :
    ValueType → Decoder TypedValue
  | .enumeration names => (Decoder.enumeration (names.zip identifiers)).map .scalar
  | .newtype inner _ => (decoders inner).map .wrapped

def ValueDeclaration.derive (declaration : ValueDeclaration)
    (decoders : TypeExpr → Decoder TypedValue) :
    Except ValueTypeFault (Decoder TypedValue) :=
  (ValueType.ofDeclaration declaration).map (·.decoder decoders declaration.identifiers)

end CommandLine
