import CommandLine.Calendar.Clock
import CommandLine.Number.Integer
import CommandLine.Text.Blank

/-!
# Reading dates and times

Dates and times are read from the left. Each number is checked for its own range as soon as it is
read; whether the day exists is decided at the end. White space is allowed in front of every number
and in front of most signs.
-/

namespace CommandLine

inductive CalendarFault where
  | outOfRange
  | impossible
  | invalid
  | tooShort
  | tooLong
  deriving DecidableEq, Repr

def CalendarFault.message : CalendarFault → String
  | .outOfRange => "input is out of range"
  | .impossible => "no possible date and time matching input"
  | .invalid => "input contains invalid characters"
  | .tooShort => "premature end of input"
  | .tooLong => "trailing input"

namespace Calendar

/-- A reader takes what it reads from the front of a text. -/
abbrev Reader (α : Type) := StateT (List Char) (Except CalendarFault) α

/-! ### Signs and numbers -/

def blanks : Reader Unit :=
  modify Text.trimStart

def sign (expected : Char) : Reader Unit := do
  match ← get with
  | [] => throw .tooShort
  | c :: rest => if c = expected then set rest else throw .invalid

/-- Read at least one and at most `width` digits. -/
def digits (width : Nat) : Reader (List Char) := do
  match ← get with
  | [] => throw .tooShort
  | c :: rest =>
    if c.isDigit then
      let found := ((c :: rest).take width).takeWhile Char.isDigit
      set ((c :: rest).drop found.length)
      return found
    else throw .invalid

/-- Read a number of at most two digits within bounds, after white space. -/
def number (least greatest : Nat) : Reader Nat := do
  blanks
  let value := digitsValue (← digits 2)
  if least ≤ value ∧ value ≤ greatest then return value else throw .outOfRange

/-- The years that can be written: those of 32 bits. -/
def yearInRange (year : Int) : Bool :=
  -Int.pow 2 31 ≤ year && year < Int.pow 2 31

/-- Read a year: four digits at most, or any number of them after a sign. -/
def year : Reader Int := do
  blanks
  let text ← get
  let value ← match text with
    | '-' :: rest => do
      set rest
      pure (-(digitsValue (← digits rest.length) : Int))
    | '+' :: rest => do
      set rest
      pure (digitsValue (← digits rest.length) : Int)
    | _ => do pure (digitsValue (← digits 4) : Int)
  if yearInRange value then return value else throw .outOfRange

/-! ### Parts of a moment -/

/-- The numbers of a date before it is known to exist. -/
structure DateNumbers where
  year : Int
  month : Nat
  day : Nat

def DateNumbers.date (numbers : DateNumbers) : Except CalendarFault Date :=
  match Date.of? numbers.year numbers.month numbers.day with
  | some date => .ok date
  | none => .error .outOfRange

/-- Read `year-month-day`, with or without white space before the hyphens. -/
def dateNumbers (spaced : Bool) : Reader DateNumbers := do
  let y ← year
  if spaced then blanks
  sign '-'
  let m ← number 1 12
  if spaced then blanks
  sign '-'
  let d ← number 1 31
  return ⟨y, m, d⟩

/-- Read the fraction of a second, if there is one. Digits after the ninth do not count. -/
def fraction : Reader Nat := do
  match ← get with
  | '.' :: rest =>
    set rest
    let found ← digits 9
    modify (·.dropWhile Char.isDigit)
    return digitsValue found * Nat.pow 10 (9 - found.length)
  | _ => return 0

/-- The time with a second of up to 60, which stands for a leap second. -/
def clockOf (hour minute second nanosecond : Nat) : Clock :=
  if second = 60 then ⟨hour, minute, 59, 1000000000 + nanosecond⟩
  else ⟨hour, minute, second, nanosecond⟩

/-- Read `hour:minute:second` and a fraction, with or without white space before the colons. -/
def clock (spaced : Bool) : Reader Clock := do
  let h ← number 0 23
  if spaced then blanks
  sign ':'
  let m ← number 0 59
  if spaced then blanks
  sign ':'
  let s ← number 0 60
  return clockOf h m s (← fraction)

/-- Read `hour:minute`, then seconds if they can be read. -/
def clockWithoutSeconds : Reader Clock := do
  let h ← number 0 23
  blanks
  sign ':'
  let m ← number 0 59
  let seconds : Reader (Nat × Nat) := do
    blanks
    sign ':'
    let s ← number 0 60
    let nanosecond ← fraction
    blanks
    return (s, nanosecond)
  match seconds (← get) with
  | .ok ((s, nanosecond), rest) =>
    set rest
    return clockOf h m s nanosecond
  | .error _ => return ⟨h, m, 0, 0⟩

/-- Read the sign of an offset: true for a minus sign. -/
def offsetSign : Reader Bool := do
  match ← get with
  | [] => throw .tooShort
  | '+' :: rest => set rest; return false
  | '-' :: rest => set rest; return true
  | '−' :: rest => set rest; return true
  | _ => throw .invalid

def offsetHours : Reader Nat := do
  match ← get with
  | a :: b :: rest =>
    if a.isDigit && b.isDigit then
      set rest
      return digitsValue [a, b]
    else throw .invalid
  | [c] => if c.utf8Size < 2 then throw .tooShort else throw .invalid
  | [] => throw .tooShort

def offsetMinutes : Reader Nat := do
  match ← get with
  | a :: b :: rest =>
    if a.isDigit && b.isDigit then
      if digitsValue [a, b] < 60 then
        set rest
        return digitsValue [a, b]
      else throw .outOfRange
    else throw .invalid
  | [c] => if c.utf8Size < 2 then throw .tooShort else throw .invalid
  | [] => throw .tooShort

/-- Read an offset in seconds east of universal time: `Z`, `UTC`, or signed hours and minutes. -/
def offset : Reader Int := do
  match ← get with
  | 'Z' :: rest => set rest; return 0
  | 'z' :: rest => set rest; return 0
  | text =>
    if (text.take 3).map Char.toUpper = ['U', 'T', 'C'] then
      set (text.drop 3)
      return 0
    else
      let negative ← offsetSign
      let hours ← offsetHours
      modify (·.dropWhile fun c => c = ':' || Text.isBlank c)
      let minutes ← offsetMinutes
      let seconds : Int := (hours * 60 + minutes) * 60
      return if negative then -seconds else seconds

/-! ### Whole texts -/

def whole {α : Type} (reader : Reader α) (text : List Char) : Except CalendarFault α :=
  match reader text with
  | .ok (value, []) => .ok value
  | .ok _ => .error .tooLong
  | .error fault => .error fault

/-- The date of a text like `2024-01-31`. -/
def decodeDate (text : List Char) : Except CalendarFault Date := do
  let numbers ← whole (do let numbers ← dateNumbers true; blanks; return numbers) text
  numbers.date

/-- The time of a text like `10:30` or `10:30:00.5`. -/
def decodeClock (text : List Char) : Except CalendarFault Clock :=
  whole (do let time ← clockWithoutSeconds; blanks; return time) text

/-- The moment of a text like `2024-01-31T10:30:00`. -/
def decodeMoment (text : List Char) : Except CalendarFault DateTime := do
  let (numbers, time) ← whole (do
    let numbers ← dateNumbers true
    blanks
    sign 'T'
    let time ← clock true
    blanks
    return (numbers, time)) text
  return ⟨← numbers.date, time⟩

/-- The moment of a text like `2024-01-31 10:30:00`, with a fraction of a second if `fractional`. -/
def decodeSpacedMoment (fractional : Bool) (text : List Char) : Except CalendarFault DateTime := do
  let (numbers, time) ← whole (do
    let numbers ← dateNumbers false
    blanks
    let h ← number 0 23
    sign ':'
    let m ← number 0 59
    sign ':'
    let s ← number 0 60
    let nanosecond ← if fractional then fraction else pure 0
    return (numbers, clockOf h m s nanosecond)) text
  return ⟨← numbers.date, time⟩

/-- The moment of a text in either form, or midnight of a bare date. Of the faults, that of the form
with a space is reported. -/
def decodeDateTime (text : List Char) : Except CalendarFault DateTime :=
  match decodeMoment text with
  | .ok moment => .ok moment
  | .error _ =>
    match decodeSpacedMoment true text with
    | .ok moment => .ok moment
    | .error fault =>
      match decodeDate text with
      | .ok date => .ok ⟨date, .midnight⟩
      | .error _ => .error fault

/-- The moment of a text with an offset, like `2024-01-31T10:30:00+01:00`. -/
def decodeOffsetDateTime (text : List Char) : Except CalendarFault OffsetDateTime := do
  let (numbers, time, east) ← whole (do
    let numbers ← dateNumbers true
    match ← get with
    | [] => throw .tooShort
    | c :: rest => if c = 't' ∨ c = 'T' ∨ c = ' ' then set rest else throw .invalid
    let time ← clock true
    blanks
    let east ← offset
    blanks
    return (numbers, time, east)) text
  let moment : DateTime := ⟨← numbers.date, time⟩
  if (daySeconds : Int) ≤ east.natAbs then throw .outOfRange
  match moment.universal? east with
  | some universal => return ⟨east, universal⟩
  | none => throw .impossible

end Calendar

end CommandLine
