import CommandLine.Calendar.Reading
import CommandLine.Kind
import CommandLine.Number.ByteSize
import CommandLine.Number.Decimal
import CommandLine.Value.Error
import CommandLine.Value.Scalar

/-!
# Decoders

A decoder makes a value from a single argument. It comes with the kind that models record and with
the value that stands for an absent one. Enumerations are decoded by exact name; a type that wraps
another one shares its decoder.
-/

namespace CommandLine

/-- How a single argument is turned into a value. -/
structure Decoder (α : Type) where
  kind : ScalarKind
  decode : String → Except ValueError α
  /-- The value of a field that is absent and has no other default. -/
  initial : α

namespace Decoder

/-- A decoder whose faults are reported with the argument that could not be read. -/
def ofReader {β ε α : Type} (kind : ScalarKind) (read : List Char → Except ε β)
    (wording : ε → String) (value : β → α) (initial : α) : Decoder α where
  kind := kind
  decode argument :=
    match read argument.toList with
    | .ok found => .ok (value found)
    | .error fault => .error (.parse argument (wording fault))
  initial := initial

theorem decode_ofReader_eq_ok_iff {β ε α : Type} {kind : ScalarKind}
    {read : List Char → Except ε β} {wording : ε → String} {value : β → α} {initial : α}
    {argument : String} {found : α} :
    (ofReader kind read wording value initial).decode argument = .ok found ↔
      ∃ x, read argument.toList = .ok x ∧ value x = found := by
  cases h : read argument.toList <;> simp [ofReader, h]

/-! ### Truth values and text -/

/-- `true` or `false` in any case. -/
def truth? (argument : String) : Option Bool :=
  let name := argument.toList.map Char.toLower
  if name = ['t', 'r', 'u', 'e'] then some true
  else if name = ['f', 'a', 'l', 's', 'e'] then some false
  else none

def bool : Decoder Scalar where
  kind := .flag
  decode argument :=
    match truth? argument with
    | some value => .ok (.bool value)
    | none => .error (.shouldBe argument ["true", "false"])
  initial := .bool false

def char : Decoder Scalar where
  kind := .char
  decode argument :=
    match argument.toList with
    | [c] => .ok (.char c)
    | _ => .error (.parse argument "expected exactly one character")
  initial := .char '\x00'

def text : Decoder Scalar where
  kind := .text
  decode argument := .ok (.text argument)
  initial := .text ""

def path : Decoder Scalar where
  kind := .text
  decode argument := .ok (.path argument)
  initial := .path ""

/-! ### Numbers -/

def integer (bits : Nat) (signed : Bool) : Decoder Scalar :=
  ofReader (.integer bits signed) (IntegerWidth.decode ⟨bits, signed⟩) IntegerFault.message .integer
    (.integer 0)

/-- Why a text is no number with optional digit groups. -/
inductive GroupedFault where
  | misplacedSeparator
  | number (fault : FloatFault)

def GroupedFault.message : GroupedFault → String
  | .misplacedSeparator => "misplaced digit group separator"
  | .number fault => fault.message

/-- The number of a text whose integer part may be grouped. -/
def grouped (format : BinaryFormat) (text : List Char) : Except GroupedFault BinaryFloat :=
  match stripGrouping text with
  | none => .error .misplacedSeparator
  | some stripped => (format.decode stripped).mapError .number

def float (format : BinaryFormat) : Decoder Scalar :=
  ofReader (.float format.width) (grouped format) GroupedFault.message .float (.float ⟨format, 0⟩)

def byteSize : Decoder Scalar :=
  ofReader .parsable ByteSize.decode ByteSizeFault.message (fun n => .integer n) (.integer 0)

/-! ### Addresses -/

def address {β : Type} (form : AddressForm) (reader : Address.Reader β) (value : β → Scalar)
    (initial : Scalar) : Decoder Scalar :=
  ofReader .parsable
    (fun text =>
      match Address.whole? reader text with
      | some found => .ok found
      | none => .error form)
    AddressForm.message value initial

def zeroIp : IpAddress := .v4 ⟨[0, 0, 0, 0]⟩

def ipv4 : Decoder Scalar :=
  address .ipv4 Address.ipv4 (fun found => .ip (.v4 found)) (.ip zeroIp)

def ipv6 : Decoder Scalar :=
  address .ipv6 Address.ipv6 (fun found => .ip (.v6 found)) (.ip (.v6 ⟨List.replicate 8 0⟩))

def ip : Decoder Scalar :=
  address .ip Address.ip .ip (.ip zeroIp)

def zeroSocket : Socket := .v4 ⟨⟨[0, 0, 0, 0]⟩, 0⟩

def socketV4 : Decoder Scalar :=
  address .socketV4 Address.socketV4 (fun found => .socket (.v4 found)) (.socket zeroSocket)

def socketV6 : Decoder Scalar :=
  address .socketV6 Address.socketV6 (fun found => .socket (.v6 found))
    (.socket (.v6 ⟨⟨List.replicate 8 0⟩, 0, 0⟩))

def socket : Decoder Scalar :=
  address .socket Address.socket .socket (.socket zeroSocket)

/-! ### Dates and times -/

/-- The first day of the Unix era, which stands for an absent date. -/
def firstDate : Date := ⟨1970, 1, 1, by decide⟩

/-- The first moment of the Unix era, which stands for an absent moment. -/
def firstMoment : DateTime := ⟨firstDate, .midnight⟩

/-- A member of the date and time family. -/
def calendar {β : Type} (kind : DateTimeKind) (read : List Char → Except CalendarFault β)
    (value : β → Scalar) (initial : Scalar) : Decoder Scalar :=
  ofReader (.dateTime kind) read CalendarFault.message value initial

def date : Decoder Scalar :=
  calendar .date Calendar.decodeDate .date (.date firstDate)

def clock : Decoder Scalar :=
  calendar .time Calendar.decodeClock .clock (.clock .midnight)

def dateTime : Decoder Scalar :=
  calendar .dateTime Calendar.decodeDateTime .dateTime (.dateTime firstMoment)

def offsetDateTime : Decoder Scalar :=
  calendar .dateTimeOffset Calendar.decodeOffsetDateTime .offsetDateTime
    (.offsetDateTime ⟨0, firstMoment⟩)

/-- Moments with an offset, taken as universal time. -/
def utcDateTime : Decoder Scalar :=
  calendar .dateTimeUtc Calendar.decodeOffsetDateTime (fun found => .utcDateTime found.universal)
    (.utcDateTime firstMoment)

/-- What durations look like, as the wording of a fault. -/
def durationHint : String :=
  "expected a duration like `1.02:30:00` or `00:00:05.5`"

/-- The span that an argument stands for. -/
def span {σ : Type} (operations : SpanOperations σ) (argument : String) : Except ValueError σ :=
  match operations.read argument.toList with
  | .ok found => .ok found
  | .error _ => .error (.parse argument durationHint)

def duration : Decoder Scalar where
  kind := .dateTime .duration
  decode argument := (span Duration.operations argument).map .duration
  initial := .duration .zero

/-! ### Enumerations -/

/-- The place of a name in a list of names. -/
def placeOf? (name : String) : List String → Option Nat
  | [] => none
  | first :: others => if first = name then some 0 else (placeOf? name others).map (· + 1)

/-- A member of an enumeration, given by the names and the identifiers of its members. -/
def enumeration (members : List (String × String)) : Decoder Scalar where
  kind := .enumeration (members.map (·.1))
  decode argument :=
    match placeOf? argument (members.map (·.1)) with
    | some place => .ok (.variant place ((members[place]?.map (·.2)).getD ""))
    | none => .error (.shouldBe argument (members.map (·.1)))
  initial := .variant 0 ((members.head?.map (·.2)).getD "")

end Decoder

end CommandLine
