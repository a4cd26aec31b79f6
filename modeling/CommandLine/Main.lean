import CommandLine.LogSearch.Search

/-!
# The log search as a process

Reads the inputs that the arguments name, runs the search on them, and writes what it has found.
-/

namespace CommandLine.LogSearch

/-- Everything that is left in a stream. -/
partial def readRest (stream : IO.FS.Stream) (before : ByteArray) : IO ByteArray := do
  let block ← stream.read 65536
  if block.isEmpty then return before else readRest stream (before ++ block)

def openFile (name : String) : IO Source := do
  let contents ← (some <$> IO.FS.readBinFile name) <|> pure none
  return ⟨name, contents.map (·.toList)⟩

def openSources (arguments : Arguments) : IO (List Source) := do
  if arguments.files = [] then
    let input ← readRest (← IO.getStdin) ByteArray.empty
    return [⟨"<stdin>", some input.toList⟩]
  arguments.files.mapM openFile

/-- Write what is to be written, and report the exit code. -/
def finish (exit : Exit) : IO UInt32 := do
  (← IO.getStdout).putStr exit.output
  (← IO.getStderr).putStr exit.errors
  return UInt32.ofNat exit.reportedCode

def runProcess (arguments : List String) : IO UInt32 := do
  match start ⟨"logsift" :: arguments⟩ with
  | .error exit => finish exit
  | .ok found => finish (searchAll found (← openSources found)).exit

end CommandLine.LogSearch

/-- The command line of the log search. -/
def main (arguments : List String) : IO UInt32 :=
  CommandLine.LogSearch.runProcess arguments
