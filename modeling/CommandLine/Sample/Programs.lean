import CommandLine.Sample.Declarations
import CommandLine.Sample.Messages
import CommandLine.Sample.Values

/-!
# Sample programs

The programs of the sample declarations, and one that is made without a declaration: its storage and
its options are its own, and building them can fail although nothing is marked as required.
-/

namespace CommandLine.Sample

/-! ### Declared programs -/

def handler (path : String) : Handler :=
  .custom path "" (if path = "About" then 3 else -7)

/-- The values of default expressions by source. -/
def defaultValues : List (String × FieldValue Scalar) :=
  [("8", .single (.integer 8)),
   ("Mode::Fast", .single (.variant 0 "Fast")),
   ("Some(false)", .nullable (some (.bool false))),
   ("22", .single (.integer 22)),
   ("ByteSize(1<<20)", .single (.integer 1048576)),
   ("1", .single (.integer 1)),
   ("Level::Info", .single (.variant 1 "Info")),
   ("Some(5)", .nullable (some (.integer 5))),
   ("vec![\"a\".to_owned(),\"b\".to_owned()]", .sequence [.text "a", .text "b"]),
   ("true", .single (.bool true)),
   ("1+2*3", .single (.integer 7)),
   ("'z'", .single (.char 'z')),
   ("vec![9]", .sequence [.integer 9])]

def environment : Environment Scalar where
  decoder type := (decoder? type.text).getD .text
  value expression := (defaultValues.lookup expression.text).getD (.sequence [])
  order := Scalar.order
  handler := handler
  helpText _ := helpText
  messages path := (messages? path).getD .empty
  defaultName := ""
  defaultVersion := ""

/-! ### A program without a declaration -/

structure Manual where
  level : Option Int
  extra : List Int
  deriving DecidableEq, Repr

def levelTags : Tags :=
  .both "level" 'l'

/-- Its model. The second option shares its long tag with the first, so it is found by its short tag
only. -/
def manualModel : Model where
  info := ⟨"manual", "9", some "", none, some linesMessages⟩
  options :=
    [⟨"level", levelTags, ⟨.single, .integer 32 true⟩, false,
       "  two  spaces  \n   and indented\n"⟩,
     ⟨"shadow", .both "level" 's', ⟨.single, .flag⟩, false, ""⟩,
     ⟨"broken", .short '5', ⟨.nullable, .flag⟩, false, ""⟩]
  parameters := [⟨7, "even", ⟨.single, .text⟩, false, ""⟩]
  remaining := some ⟨"extra", ⟨.sequence, .integer 64 true⟩, "more"⟩
  commands :=
    [⟨["", "dup"], "empty alias", handler "About"⟩,
     ⟨["dup", "--"], "", handler "Other"⟩,
     ⟨[], "no alias", handler "Other"⟩]

def integer (bits : Nat) (text : String) : Except ValueError Int :=
  match (Decoder.integer bits true).decode text with
  | .ok (.integer value) => .ok value
  | .ok _ => .error (.custom "")
  | .error fault => .error fault

/-- Its way of storing values: a flag that refuses to be set, and a parameter that takes texts of
even length and forgets them. -/
def manualStore (slot : Slot) (text : String) (storage : Manual) : Except ValueError Manual :=
  match slot with
  | .option 0 => (integer 32 text).map fun level => { storage with level := some level }
  | .option 1 => .ok { storage with level := some (-1) }
  | .option _ =>
    if text = "true" then .error (.custom "no") else .ok { storage with level := some 5 }
  | .parameter _ =>
    if text.utf8ByteSize % 2 = 0 then .ok storage else .error (.custom "odd length")
  | .remaining =>
    (integer 64 text).map fun value => { storage with extra := storage.extra ++ [value] }

/-- Its way of building options: there must be a level. -/
def manualBuild (storage : Manual) : Except ParseError (Record Scalar) :=
  match storage.level with
  | none => .error (.missingOption levelTags)
  | some level =>
    .ok [("level", .single (.integer level)),
      ("extra", .sequence (storage.extra.map Scalar.integer))]

def manual : Program Manual (Record Scalar) where
  model := manualModel
  initial := ⟨none, []⟩
  store := manualStore
  build := manualBuild

/-! ### All programs -/

/-- A program with the storage that it uses, and with the comparison of its records. -/
structure Runnable where
  Storage : Type
  program : Program Storage (Record Scalar)
  same : Record Scalar → Record Scalar → Bool

def declared? (declaration : Declaration) (same : Record Scalar → Record Scalar → Bool) :
    Option Runnable :=
  match Interface.ofDeclaration declaration with
  | .ok interface => some ⟨_, interface.program environment, same⟩
  | .error _ => none

/-- A sample program by its name. The one with collections compares what its values look like. -/
def program? (name : String) : Option Runnable :=
  if name = "Manual" then some ⟨_, manual, Record.same Scalar.same⟩
  else
    (declarations.lookup name).bind fun declaration =>
      declared? declaration (Record.same (if name = "Seqs" then Scalar.alike else Scalar.same))

end CommandLine.Sample
