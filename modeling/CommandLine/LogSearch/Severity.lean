import CommandLine.Value.Decoder

/-!
# Severities

How severe a log entry is. A line of a log tells its severity by a marker in capitals.
-/

namespace CommandLine.LogSearch

/-- The severities, the least severe one first. -/
inductive Severity where
  | debug
  | info
  | warning
  | error
  deriving DecidableEq, Repr

namespace Severity

def rank : Severity → Nat
  | .debug => 0
  | .info => 1
  | .warning => 2
  | .error => 3

def ofRank : Nat → Severity
  | 0 => .debug
  | 1 => .info
  | 2 => .warning
  | _ => .error

def marker : Severity → String
  | .debug => "DEBUG"
  | .info => "INFO"
  | .warning => "WARN"
  | .error => "ERROR"

def decoder : Decoder Scalar :=
  .enumeration [("debug", "Debug"), ("info", "Info"), ("warn", "Warning"), ("error", "Error")]

end Severity

end CommandLine.LogSearch
