import CommandLine.Declaration.DerivedDecoder
import CommandLine.Sample.Values

/-!
# Declared value types

Some value types of the sample programs as they are declared, with the decoders that they are given:
an enumeration, a structure around a number, and a structure around this structure.
-/

namespace CommandLine.Sample

/-- Severities, one of which has another name. -/
def levelDeclaration : ValueDeclaration where
  form := .enumeration
  generics := []
  fields := []
  variants :=
    [⟨"Debug", true, []⟩, ⟨"Info", true, []⟩, ⟨"Warning", true, [.ofText "name" "warn"]⟩,
     ⟨"Error", true, []⟩]

def oddDeclaration : ValueDeclaration where
  form := .enumeration
  generics := []
  fields := []
  variants :=
    [⟨"HTTPServer", true, []⟩, ⟨"Ipv6Only", true, []⟩, ⟨"snake_case_name", true, []⟩,
     ⟨"r#Type", true, []⟩, ⟨"Spaced", true, [.ofText "name" "With Space"]⟩,
     ⟨"Yes", true, [.ofText "name" "true"]⟩, ⟨"Dash", true, [.ofText "name" "--dash"]⟩,
     ⟨"Groesse", true, [.ofText "name" "größe"]⟩]

def portDeclaration : ValueDeclaration :=
  ⟨.tuple, [], [.path "u16" "u16"], []⟩

def namedDeclaration : ValueDeclaration :=
  ⟨.named, [], [.path "Port" "Port"], []⟩

def declaredTypes : String → Option ValueDeclaration
  | "Level" => some levelDeclaration
  | "Odd" => some oddDeclaration
  | "Port" => some portDeclaration
  | "Named" => some namedDeclaration
  | _ => none

/-- The decoder of a type that is not declared as a structure. -/
def scalarDecoder (text : String) : Decoder TypedValue :=
  ((decoder? text).getD .text).map .scalar

/-- The decoders of all types, with structures kept apart from what is inside of them. -/
def typedDecoder (type : TypeExpr) : Decoder TypedValue :=
  match type.stripped.text with
  | "Port" => (scalarDecoder "u16").map .wrapped
  | "Named" => ((scalarDecoder "u16").map .wrapped).map .wrapped
  | text => scalarDecoder text

end CommandLine.Sample
