import CommandLine.Calendar.Reading
import CommandLine.LogSearch.Arguments
import CommandLine.Process
import CommandLine.Text.Occurrences
import CommandLine.Text.Utf8

/-!
# Searching logs

A search goes through its inputs in order, and through every input line by line. A line matches if
it holds the pattern and all tags, is severe enough, and is late enough. Matching lines are written
as they are found, so what was written before a failure stays. Lines without a severity or a
timestamp are not held back for the lack of it.
-/

namespace CommandLine.LogSearch

/-! ### Lines -/

/-- The beginning of a text that takes exactly some number of bytes. -/
def leadingBytes? : Nat → List Char → Option (List Char)
  | 0, _ => some []
  | _ + 1, [] => none
  | count + 1, c :: rest =>
    if c.utf8Size ≤ count + 1 then
      (leadingBytes? (count + 1 - c.utf8Size) rest).map (c :: ·)
    else none
termination_by _ text => text.length

/-- The moment that a line starts with. -/
def stamp? (line : List Char) : Option DateTime :=
  (leadingBytes? 19 line).bind fun start => (Calendar.decodeSpacedMoment false start).toOption

/-- The severity of a line: that of the first marker it holds, tried from the most severe one. -/
def severity? (line : List Char) : Option Severity :=
  [Severity.error, .warning, .info, .debug].find? fun severity =>
    Text.occurs severity.marker.toList line

/-- The line is severe enough, or has no severity. -/
def isSevere (arguments : Arguments) (line : List Char) : Bool :=
  match severity? line with
  | some severity => arguments.level.rank ≤ severity.rank
  | none => true

/-- The line is late enough, or has no timestamp. -/
def isLate (arguments : Arguments) (line : List Char) : Bool :=
  match arguments.since, stamp? line with
  | some since, some stamp => stamp.isAfter since
  | _, _ => true

def isMatch (arguments : Arguments) (line : List Char) : Bool :=
  Text.occurs arguments.pattern.toList line &&
    arguments.tags.all (fun tag => Text.occurs tag.toList line) &&
    isSevere arguments line && isLate arguments line

/-! ### Output -/

def highlightStart : List Char :=
  "\x1b[1;31m".toList

def highlightEnd : List Char :=
  "\x1b[0m".toList

def highlighted (pattern line : List Char) : List Char :=
  Text.replaceAll pattern (highlightStart ++ pattern ++ highlightEnd) line

def location (arguments : Arguments) (name : String) (number : Nat) : String :=
  if arguments.verbose then name ++ ":" ++ toString number ++ ": " else ""

def written (arguments : Arguments) (name : String) (number : Nat) (line : List Char) : String :=
  let shown :=
    if arguments.color then highlighted arguments.pattern.toList line else line
  location arguments name number ++ String.ofList shown ++ "\n"

/-! ### Inputs -/

/-- Something to search, with its contents if it can be opened. -/
structure Source where
  name : String
  contents : Option (List UInt8)
  deriving DecidableEq, Repr

inductive SearchFault where
  /-- An input cannot be opened. -/
  | missing (name : String)
  /-- A line of an input is malformed. -/
  | malformed (name : String)
  deriving DecidableEq, Repr

/-- The wording of a fault: what was done, and what went wrong. -/
def SearchFault.message : SearchFault → String
  | .missing name =>
    "Error: failed to open " ++ name ++
      "\n\nCaused by:\n    No such file or directory (os error 2)\n"
  | .malformed name =>
    "Error: failed to read from " ++ name ++
      "\n\nCaused by:\n    stream did not contain valid UTF-8\n"

/-- What a search has written, and why it ended early. -/
structure Findings where
  output : String
  fault : Option SearchFault
  deriving DecidableEq, Repr

def Findings.none : Findings :=
  ⟨"", Option.none⟩

/-- Findings followed by others, unless they ended early. -/
def Findings.andThen (first : Findings) (next : Findings) : Findings :=
  match first.fault with
  | some _ => first
  | Option.none => ⟨first.output ++ next.output, next.fault⟩

def searchLines (arguments : Arguments) (name : String) : Nat → List (List UInt8) → Findings
  | _, [] => .none
  | number, bytes :: rest =>
    match Text.decode? bytes with
    | Option.none => ⟨"", some (.malformed name)⟩
    | some text =>
      let found :=
        if isMatch arguments text.toList then written arguments name number text.toList else ""
      Findings.andThen ⟨found, Option.none⟩ (searchLines arguments name (number + 1) rest)

/-- The bytes of an input that are read. -/
def limited (arguments : Arguments) (bytes : List UInt8) : List UInt8 :=
  match arguments.limit with
  | some limit => bytes.take limit
  | Option.none => bytes

def searchSource (arguments : Arguments) (source : Source) : Findings :=
  match source.contents with
  | Option.none => ⟨"", some (.missing source.name)⟩
  | some bytes =>
    searchLines arguments source.name 1 (Text.brokenLines 10 13 (limited arguments bytes))

/-- Search inputs in order, up to the first one that fails. -/
def searchAll (arguments : Arguments) (sources : List Source) : Findings :=
  sources.foldr (fun source rest => (searchSource arguments source).andThen rest) .none

/-! ### The program -/

def start (loaded : LoadedArguments) : Except Exit Arguments :=
  match Interface.ofDeclaration (declaration "License") with
  | .ok interface =>
    ((interface.program environment).parseOrExit loaded).map Arguments.ofRecord
  | .error fault => .error ⟨1, "", String.join fault.messages⟩

/-- The inputs of a search: the files, or the standard input if there are none. -/
def sources (arguments : Arguments) (input : List UInt8) (file : String → Option (List UInt8)) :
    List Source :=
  if arguments.files = [] then [⟨"<stdin>", some input⟩]
  else arguments.files.map fun name => ⟨name, file name⟩

def Findings.exit (findings : Findings) : Exit :=
  match findings.fault with
  | some fault => ⟨1, findings.output, fault.message⟩
  | Option.none => ⟨0, findings.output, ""⟩

/-- Run the log search with a standard input and files. -/
def run (loaded : LoadedArguments) (input : List UInt8) (file : String → Option (List UInt8)) :
    Exit :=
  match start loaded with
  | .error exit => exit
  | .ok arguments => (searchAll arguments (sources arguments input file)).exit

end CommandLine.LogSearch
