import CommandLine.Declaration.Program
import CommandLine.LogSearch.Severity

/-!
# Arguments of the log search

The options and parameters of the log search, as a declaration and as the structure that the search
works with.
-/

namespace CommandLine.LogSearch

def fields : List FieldDeclaration :=
  let short := Attribute.bare "short"
  let long := Attribute.bare "long"
  [.ofSource "verbose" "bool" [short, long] [" Print the file and line number of each match"],
   .ofSource "color" "Option<bool>" [long] [" Highlight matches in the output"],
   .ofSource "level" "Level" [short, long, .ofSource "default" "Level::Info"]
     [" Hide entries below this severity"],
   .ofSource "since" "Option<NaiveDateTime>" [long]
     [" Only show entries with a timestamp after this one"],
   .ofSource "max_size" "Option<ByteSize>" [long]
     [" Stop reading each file after this many bytes (e.g. 64k, 2M)"],
   .ofSource "tags" "Vec<String>" [short, .ofText "long" "tag"]
     [" Only show entries that also contain these tags. Give them all after",
      " one flag, as in `--tag db net`."],
   .ofSource "pattern" "String" [] [" The text to search for"],
   .ofSource "files" "Vec<PathBuf>" [.bare "remaining", .ofText "name" "file"]
     [" Files to search. Reads stdin if there are none."]]

/-- The declaration of the log search with a handler for its licence command. -/
def declaration (handler : String) : Declaration where
  form := .named
  generics := []
  attributes :=
    [.ofText "name" "logsift", .ofText "version" "0.1.0",
     .ofText "copyright" "2026 The Parley Developers",
     .command handler ["--license"] (some "Show license information")]
  fields := fields

def decoders : List (String × Decoder Scalar) :=
  [("bool", .bool), ("Level", Severity.decoder), ("NaiveDateTime", .dateTime),
   ("ByteSize", .byteSize), ("String", .text), ("PathBuf", .path)]

def license : Handler :=
  .custom "License" "logsift is distributed under the terms of the MPL-2.0.\n" 0

/-- What the names in the declaration mean. -/
def environment : Environment Scalar where
  decoder type := (decoders.lookup type.text).getD .text
  value _ := .single (.variant 1 "Info")
  order := Scalar.order
  handler _ := license
  helpText _ _ := ""
  messages _ := .empty
  defaultName := "logsift"
  defaultVersion := "0.1.0"

structure Arguments where
  verbose : Bool
  color : Bool
  level : Severity
  since : Option DateTime
  /-- How many bytes of every input are read. -/
  limit : Option Nat
  tags : List String
  pattern : String
  files : List String

namespace Arguments

def truth : Scalar → Bool
  | .bool value => value
  | _ => false

def text? : Scalar → Option String
  | .text value => some value
  | _ => none

def path? : Scalar → Option String
  | .path value => some value
  | _ => none

def severity : Scalar → Severity
  | .variant place _ => .ofRank place
  | _ => .debug

def moment? : Scalar → Option DateTime
  | .dateTime moment => some moment
  | _ => none

def bytes? : Scalar → Option Nat
  | .integer count => some count.toNat
  | _ => none

/-- The values of a field by its name. -/
def field (record : Record Scalar) (name : String) : List Scalar :=
  (record.lookup name).elim [] FieldValue.members

def ofRecord (record : Record Scalar) : Arguments where
  verbose := (field record "verbose").any truth
  color := (field record "color").any truth
  level := ((field record "level").head?.map severity).getD .info
  since := (field record "since").head?.bind moment?
  limit := (field record "max_size").head?.bind bytes?
  tags := (field record "tags").filterMap text?
  pattern := ((field record "pattern").head?.bind text?).getD ""
  files := (field record "files").filterMap path?

end Arguments

end CommandLine.LogSearch
