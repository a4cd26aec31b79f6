import CommandLine.Declaration.DerivedDecoder

/-!
# Types of arguments

The types that arguments can have without a decoder of their own: those of the standard library and
of the calendar, enumerations, and structures around any of them.
-/

namespace CommandLine

/-- A type that comes with a decoder. -/
inductive ArgumentType where
  | integer (bits : Nat) (signed : Bool)
  /-- There are bits enough to tell infinity from what is not a number. -/
  | float (format : BinaryFormat) (precise : 2 ≤ format.precision)
  | bool
  | char
  | text
  | path
  | ipv4
  | ipv6
  | ip
  | socketV4
  | socketV6
  | socket
  | date
  | clock
  | dateTime
  | offsetDateTime
  | utcDateTime
  | duration
  /-- The members by their names and their identifiers. -/
  | enumeration (members : List (String × String))
  | newtype (inner : ArgumentType)

namespace ArgumentType

def decoder : ArgumentType → Decoder TypedValue
  | .integer bits signed => (Decoder.integer bits signed).map .scalar
  | .float format _ => (Decoder.float format).map .scalar
  | .bool => Decoder.bool.map .scalar
  | .char => Decoder.char.map .scalar
  | .text => Decoder.text.map .scalar
  | .path => Decoder.path.map .scalar
  | .ipv4 => Decoder.ipv4.map .scalar
  | .ipv6 => Decoder.ipv6.map .scalar
  | .ip => Decoder.ip.map .scalar
  | .socketV4 => Decoder.socketV4.map .scalar
  | .socketV6 => Decoder.socketV6.map .scalar
  | .socket => Decoder.socket.map .scalar
  | .date => Decoder.date.map .scalar
  | .clock => Decoder.clock.map .scalar
  | .dateTime => Decoder.dateTime.map .scalar
  | .offsetDateTime => Decoder.offsetDateTime.map .scalar
  | .utcDateTime => Decoder.utcDateTime.map .scalar
  | .duration => Decoder.duration.map .scalar
  | .enumeration members => (Decoder.enumeration members).map .scalar
  | .newtype inner => inner.decoder.map .wrapped

/-- A floating point number is at the core of every value. -/
def isFloat : ArgumentType → Bool
  | .float _ _ => true
  | .newtype inner => inner.isFloat
  | _ => false

end ArgumentType

end CommandLine
