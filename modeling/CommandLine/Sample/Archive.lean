import CommandLine.Declaration.ArgumentType
import CommandLine.Declaration.Program
import CommandLine.Declaration.ValueType
import CommandLine.Value.Decoder

/-!
# Sample programs with their interfaces

A program that packs files: options of every wrapper, parameters, and a collector. Its types are
given as trees, and what the declaration stands for is given beside it. Smaller samples follow:
fields that ask for the same tag, truth values that are not spelled `bool`, options that are written
like aliases, numbers as options and parameters, numbers inside of structures and collections, and
parameters that declare their indexes.
-/

namespace CommandLine.Sample

def plain (name : String) : TypeExpr :=
  .path name name

def wrapped (wrapper name : String) : TypeExpr :=
  .applied (wrapper ++ "<" ++ name ++ ">") wrapper (plain name)

def archive : Declaration where
  form := .named
  generics := []
  attributes := [.ofText "name" "archive"]
  fields :=
    [⟨"verbose", plain "bool", [.bare "short", .bare "long"], []⟩,
     ⟨"color", wrapped "Option" "bool", [.bare "long"], []⟩,
     ⟨"level", plain "i32", [.bare "short", .bare "long"], []⟩,
     ⟨"tag", wrapped "Vec" "String", [.bare "short", .bare "long"], []⟩,
     ⟨"source", plain "String", [], []⟩,
     ⟨"target", wrapped "Option" "String", [], []⟩,
     ⟨"rest", wrapped "Vec" "String", [.bare "remaining"], []⟩]

/-- A field of a plain or wrapped type with nothing said about its absence. -/
def base (name : String) (wrapping : Option Wrapping) (type : String) (required : Bool) :
    FieldBase :=
  ⟨name, ⟨wrapping, plain type⟩, required, .none, ""⟩

def archiveInterface : Interface where
  settings := ⟨some "archive", none, none, false, false, none, none, []⟩
  options :=
    [⟨base "verbose" none "bool" false, .both "verbose" 'v'⟩,
     ⟨base "color" (some .nullable) "bool" false, .long "color"⟩,
     ⟨base "level" none "i32" true, .both "level" 'l'⟩,
     ⟨base "tag" (some (.sequence .list)) "String" false, .both "tag" 't'⟩]
  parameters :=
    [⟨base "source" none "String" true, "source"⟩,
     ⟨base "target" (some .nullable) "String" false, "target"⟩]
  remaining := some ⟨base "rest" (some (.sequence .list)) "String" false, "rest"⟩

theorem ofDeclaration_archive : Interface.ofDeclaration archive = .ok archiveInterface := by
  rfl

def archiveEnvironment : Environment Scalar where
  decoder type :=
    if type.isBool then .bool else if type.text = "i32" then .integer 32 true else .text
  value _ := .sequence []
  order := Scalar.order
  handler _ := .help
  helpText _ _ := ""
  messages _ := .empty
  defaultName := ""
  defaultVersion := ""

def archiveProgram : Program (Storage Scalar) (Record Scalar) :=
  archiveInterface.program archiveEnvironment

/-! ### Fields with the same tag -/

def dryRun : FieldDeclaration :=
  ⟨"dry_run", plain "bool", [.bare "short"], []⟩

def dryRunMode : FieldDeclaration :=
  ⟨"mode", plain "String", [.ofText "long" "dry-run"], []⟩

/-- What the first field is checked to. -/
def dryRunOption : OptionField :=
  ⟨base "dry_run" none "bool" false, .both "dry-run" 'd'⟩

/-- What the second field is checked to. -/
def dryRunModeOption : OptionField :=
  ⟨base "mode" none "String" true, .long "dry-run"⟩

theorem ofDeclaration_dryRun : Field.ofDeclaration dryRun = .ok (.option dryRunOption) := by
  rfl

theorem ofDeclaration_dryRunMode :
    Field.ofDeclaration dryRunMode = .ok (.option dryRunModeOption) := by
  rfl

/-! ### Truth values by other names -/

/-- The primitive truth values by their full path. -/
def primitiveBool : TypeExpr :=
  .path "std::primitive::bool" "bool"

/-- Options whose values are truth values. Only the last one is spelled so. -/
def spellings : Declaration where
  form := .named
  generics := []
  attributes := []
  fields :=
    [⟨"verbose", .applied "Vec<std::primitive::bool>" "Vec" primitiveBool, [.bare "long"], []⟩,
     ⟨"quiet", primitiveBool, [.bare "long"], []⟩,
     ⟨"strict", plain "Strict", [.bare "long"], []⟩,
     ⟨"color", plain "bool", [.bare "long"], []⟩]

def spellingsInterface : Interface where
  settings := ⟨none, none, none, false, false, none, none, []⟩
  options :=
    [⟨⟨"verbose", ⟨some (.sequence .list), primitiveBool⟩, false, .none, ""⟩, .long "verbose"⟩,
     ⟨⟨"quiet", ⟨none, primitiveBool⟩, true, .none, ""⟩, .long "quiet"⟩,
     ⟨base "strict" none "Strict" true, .long "strict"⟩,
     ⟨base "color" none "bool" false, .long "color"⟩]
  parameters := []
  remaining := none

theorem ofDeclaration_spellings : Interface.ofDeclaration spellings = .ok spellingsInterface := by
  rfl

/-- Its value types: a structure around a truth value, and one around that. -/
def spellingsTypes (path : String) : Option ValueType :=
  if path = "Switch" then some (.newtype (plain "bool") false)
  else if path = "Strict" then some (.newtype (plain "Switch") true)
  else none

def spellingsEnvironment : Environment Scalar :=
  { archiveEnvironment with
    decoder := fun type =>
      if type.stripped.text ∈ "Switch" :: "Strict" :: truthPaths then .bool else .text }

/-! ### Options that are written like aliases -/

/-- Flags with the tags of a declared command and of a built-in one. -/
def shadows : Declaration where
  form := .named
  generics := []
  attributes := [.command "Other" ["-v"] none]
  fields :=
    [⟨"verbose", plain "bool", [.bare "short"], []⟩,
     ⟨"help", plain "bool", [.bare "long"], []⟩]

def shadowsInterface : Interface where
  settings := ⟨none, none, none, false, false, none, none, [⟨["-v"], .type "Other", ""⟩]⟩
  options :=
    [⟨base "verbose" none "bool" false, .both "verbose" 'v'⟩,
     ⟨base "help" none "bool" false, .long "help"⟩]
  parameters := []
  remaining := none

theorem ofDeclaration_shadows : Interface.ofDeclaration shadows = .ok shadowsInterface := by
  rfl

def shadowsProgram : Program (Storage Scalar) (Record Scalar) :=
  shadowsInterface.program archiveEnvironment

/-! ### Numbers as options and parameters -/

/-- A number as an option and one as a parameter, and a command with aliases like theirs. -/
def measures : Declaration where
  form := .named
  generics := []
  attributes := [.command "Limits" ["--ratio", "inf"] none]
  fields :=
    [⟨"ratio", wrapped "Option" "f64", [.bare "long"], []⟩,
     ⟨"length", plain "f64", [], []⟩]

def measuresInterface : Interface where
  settings :=
    ⟨none, none, none, false, false, none, none, [⟨["--ratio", "inf"], .type "Limits", ""⟩]⟩
  options := [⟨base "ratio" (some .nullable) "f64" false, .long "ratio"⟩]
  parameters := [⟨base "length" none "f64" true, "length"⟩]
  remaining := none

theorem ofDeclaration_measures : Interface.ofDeclaration measures = .ok measuresInterface := by
  rfl

def measuresEnvironment : Environment Scalar :=
  { archiveEnvironment with
    decoder := fun type => if type.text = "f64" then .float .binary64 else .text }

def measuresProgram : Program (Storage Scalar) (Record Scalar) :=
  measuresInterface.program measuresEnvironment

/-! ### Numbers inside of structures and collections -/

/-- A structure around a number, a set, a number, and a list of numbers. -/
def gauges : Declaration where
  form := .named
  generics := []
  attributes := []
  fields :=
    [⟨"ratio", wrapped "Option" "Share", [.bare "long"], []⟩,
     ⟨"marks", wrapped "BTreeSet" "u8", [.bare "long"], []⟩,
     ⟨"length", plain "f64", [], []⟩,
     ⟨"rest", wrapped "Vec" "f32", [.bare "remaining"], []⟩]

def gaugesInterface : Interface where
  settings := ⟨none, none, none, false, false, none, none, []⟩
  options :=
    [⟨base "ratio" (some .nullable) "Share" false, .long "ratio"⟩,
     ⟨base "marks" (some (.sequence .set)) "u8" false, .long "marks"⟩]
  parameters := [⟨base "length" none "f64" true, "length"⟩]
  remaining := some ⟨base "rest" (some (.sequence .list)) "f32" false, "rest"⟩

theorem ofDeclaration_gauges : Interface.ofDeclaration gauges = .ok gaugesInterface := by
  rfl

def gaugesType (type : TypeExpr) : ArgumentType :=
  if type.text = "Share" then .newtype (.float .binary64 (by decide))
  else if type.text = "u8" then .integer 8 false
  else if type.text = "f32" then .float .binary32 (by decide)
  else .float .binary64 (by decide)

def gaugesEnvironment : Environment TypedValue where
  decoder type := (gaugesType type).decoder
  value _ := .sequence []
  order
    | .scalar x, .scalar y => x.order y
    | _, _ => .eq
  handler _ := .help
  helpText _ _ := ""
  messages _ := .empty
  defaultName := ""
  defaultVersion := ""

def gaugesProgram : Program (Storage TypedValue) (Record TypedValue) :=
  gaugesInterface.program gaugesEnvironment

/-! ### Parameters with declared indexes -/

def copySource : ParameterField :=
  ⟨base "source" none "String" true, "source"⟩

def copyTarget : ParameterField :=
  ⟨base "target" (some .nullable) "String" false, "target"⟩

/-- The target declares an index and stands before the source. -/
def copyFields (index : Nat) : List Field :=
  [.parameter copyTarget (some index), .option dryRunOption, .parameter copySource (some 0)]

end CommandLine.Sample
