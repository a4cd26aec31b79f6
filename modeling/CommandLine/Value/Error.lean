import CommandLine.Text.Quoted

/-!
# Rejected arguments

Why a decoder rejects an argument. A parser only needs to know that it did; the details are for
whoever calls a decoder directly.
-/

namespace CommandLine

/-- Why a decoder rejects an argument. -/
inductive ValueError where
  /-- The argument could not be read. -/
  | parse (argument message : String)
  /-- The argument is none of the names. -/
  | shouldBe (argument : String) (expected : List String)
  /-- Anything else. -/
  | custom (message : String)
  deriving DecidableEq, Repr

def ValueError.message : ValueError → String
  | .parse argument message => "failed to parse " ++ Text.quote argument ++ ": " ++ message
  | .shouldBe argument expected =>
    Text.quote argument ++ " wasn't one of the possible values: " ++ Text.quoteList expected
  | .custom message => message

end CommandLine
