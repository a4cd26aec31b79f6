import CommandLine.Calendar.Clock
import CommandLine.Calendar.Duration
import CommandLine.Number.Address
import CommandLine.Number.Binary
import CommandLine.Text.PathParts

/-!
# Single values

What one argument can be decoded to. Two relations compare values: `same`, under which a floating
point value that is not a number differs from itself, moments count by their universal time and path
names by their parts, and `order`, which arranges the members of sets.
-/

namespace CommandLine

inductive Scalar where
  | integer (value : Int)
  | float (value : BinaryFloat)
  | bool (value : Bool)
  | char (value : Char)
  | text (value : String)
  /-- The name of a file or a directory. -/
  | path (value : String)
  | ip (address : IpAddress)
  | socket (socket : Socket)
  | date (date : Date)
  | clock (clock : Clock)
  | dateTime (moment : DateTime)
  | offsetDateTime (moment : OffsetDateTime)
  /-- A moment of universal time. -/
  | utcDateTime (moment : DateTime)
  | duration (duration : Duration)
  /-- A member of an enumeration, by its place and its identifier. -/
  | variant (place : Nat) (name : String)
  deriving DecidableEq

namespace Scalar

/-- Equality as programs compare values. -/
def same : Scalar → Scalar → Bool
  | .float x, .float y => x.equal y
  | .offsetDateTime x, .offsetDateTime y => x.universal = y.universal
  | .path x, .path y => Text.pathParts x.toList = Text.pathParts y.toList
  | x, y => x = y

/-- Equality of what values look like: values that are no numbers look alike, and zeros show their
sign. -/
def alike : Scalar → Scalar → Bool
  | .float x, .float y => (x.isNaN && y.isNaN) || x = y
  | x, y => x = y

/-- What values of one type are ordered by. Floating point numbers have no order. -/
def rank : Scalar → List Int
  | .integer n => [n]
  | .float _ => []
  | .bool b => [if b then 1 else 0]
  | .char c => [c.toNat]
  | .text s => s.toList.map fun c => (c.toNat : Int)
  | .path s => (Text.pathParts s.toList).flatMap PathPart.rank
  | .ip (.v4 a) => 4 :: a.octets.map Int.ofNat
  | .ip (.v6 a) => 6 :: a.segments.map Int.ofNat
  | .socket (.v4 s) => 4 :: s.ip.octets.map Int.ofNat ++ [(s.port : Int)]
  | .socket (.v6 s) => 6 :: s.ip.segments.map Int.ofNat ++ [(s.port : Int), s.scope]
  | .date d => d.rank
  | .clock t => t.rank
  | .dateTime m => m.rank
  | .offsetDateTime m => m.universal.rank
  | .utcDateTime m => m.rank
  | .duration d => [d.nanoseconds]
  | .variant place _ => [(place : Int)]

/-- The order of values of one type. -/
def order (x y : Scalar) : Ordering :=
  compare x.rank y.rank

end Scalar

end CommandLine
