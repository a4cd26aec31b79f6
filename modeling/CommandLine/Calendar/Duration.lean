import CommandLine.Number.Integer
import CommandLine.Text.Pieces

/-!
# Durations

A duration is written `[-][d.]h:m[:s[.f]]`: days, hours below 24, minutes and seconds below 60, and
a fraction of a second whose digits after the ninth do not count. Its numbers are integers of 64
bits. It is added up from spans of a single unit, and no span on the way may be too long.
-/

namespace CommandLine

/-! ### Spans of time -/

/-- The longest duration in nanoseconds: the milliseconds that fit into 63 bits. -/
def Duration.longest : Nat := (Nat.pow 2 63 - 1) * 1_000_000

structure Duration where
  nanoseconds : Int
  bounded : nanoseconds.natAbs ≤ Duration.longest
  deriving DecidableEq, Repr

/-- What durations are computed with. An operation has no result if it would be too long. -/
structure SpanOperations (σ : Type) where
  days? : Int → Option σ
  hours? : Int → Option σ
  minutes? : Int → Option σ
  seconds? : Int → Option σ
  nanoseconds : Int → σ
  add? : σ → σ → Option σ
  negate : σ → σ

namespace Duration

def zero : Duration := ⟨0, by decide⟩

/-- The span of a number of nanoseconds, if it is not too long. -/
def of? (nanoseconds : Int) : Option Duration :=
  if h : nanoseconds.natAbs ≤ longest then some ⟨nanoseconds, h⟩ else none

def operations : SpanOperations Duration where
  days? count := of? (count * 86_400_000_000_000)
  hours? count := of? (count * 3_600_000_000_000)
  minutes? count := of? (count * 60_000_000_000)
  seconds? count := of? (count * 1_000_000_000)
  nanoseconds count := (of? count).getD zero
  add? x y := of? (x.nanoseconds + y.nanoseconds)
  negate x := ⟨-x.nanoseconds, by rw [Int.natAbs_neg]; exact x.bounded⟩

/-- Whole seconds, cut toward zero. -/
def seconds (duration : Duration) : Int :=
  duration.nanoseconds.tdiv 1_000_000_000

/-- The nanoseconds beyond the whole seconds, with the sign of the duration. -/
def subsecond (duration : Duration) : Int :=
  duration.nanoseconds.tmod 1_000_000_000

end Duration

/-! ### Numbers -/

inductive DurationFault where
  /-- The text has another form, or a number or the duration is too large. -/
  | rejected
  /-- A number that is computed leaves its range. -/
  | overflow
  deriving DecidableEq, Repr

namespace DurationText

/-- The numbers of 64 bits. -/
def IsWord (n : Int) : Prop :=
  -Int.pow 2 63 ≤ n ∧ n < Int.pow 2 63

instance (n : Int) : Decidable (IsWord n) :=
  inferInstanceAs (Decidable (_ ∧ _))

/-- A number that is computed with 64 bits. -/
def word (n : Int) : Except DurationFault Int :=
  if IsWord n then .ok n else .error .overflow

/-- A number of one or more digits. -/
def number (text : List Char) : Except DurationFault Int :=
  if text ≠ [] ∧ text.all Char.isDigit then
    match IntegerWidth.decode ⟨64, true⟩ text with
    | .ok n => .ok n
    | .error _ => .error .rejected
  else .error .rejected

def appendDigit (value : Int) (c : Char) : Except DurationFault Int := do
  let shifted ← word (value * 10)
  if c < '0' then throw .overflow
  word (shifted + digitValue c)

/-- The nanoseconds of the digits after a decimal point. -/
def fraction (text : List Char) : Except DurationFault Int :=
  if text ≠ [] ∧ text.all Char.isDigit then
    ((text ++ List.replicate 9 '0').take 9).foldlM appendDigit 0
  else .error .rejected

/-! ### Parts -/

/-- Days and hours, given by the text before the first colon. -/
def head (text : List Char) : Except DurationFault (Int × Int) :=
  match Text.cutFirst '.' text with
  | some (days, hours) => do return (← number days, ← number hours)
  | none => do return (0, ← number text)

/-- Seconds and nanoseconds, given by the text after the second colon, if there is one. -/
def tail : Option (List Char) → Except DurationFault (Int × Int)
  | none => .ok (0, 0)
  | some text =>
    match Text.cutFirst '.' text with
    | some (seconds, digits) => do return (← number seconds, ← fraction digits)
    | none => do return (← number text, 0)

structure Numbers where
  days : Int
  hours : Int
  minutes : Int
  seconds : Int
  nanoseconds : Int

/-- The numbers of an unsigned duration that is cut at its colons. -/
def numbers (first second : List Char) (third : Option (List Char)) :
    Except DurationFault Numbers := do
  let (days, hours) ← head first
  let minutes ← number second
  let (seconds, nanoseconds) ← tail third
  if 23 < hours ∨ 59 < minutes ∨ 59 < seconds then throw .rejected
  return ⟨days, hours, minutes, seconds, nanoseconds⟩

def unsigned (text : List Char) : Except DurationFault Numbers :=
  match Text.pieces ':' text with
  | [first, second] => numbers first second none
  | [first, second, third] => numbers first second (some third)
  | _ => .error .rejected

end DurationText

/-! ### Durations -/

namespace SpanOperations

variable {σ : Type} (operations : SpanOperations σ)

/-- The sum of two spans, if there are both and it is not too long. -/
def plus? (x y : Option σ) : Option σ := do
  operations.add? (← x) (← y)

/-- The sum of spans of single units. -/
def sum? (numbers : DurationText.Numbers) : Option σ :=
  let span := operations.plus? (operations.days? numbers.days) (operations.hours? numbers.hours)
  let span := operations.plus? span (operations.minutes? numbers.minutes)
  let span := operations.plus? span (operations.seconds? numbers.seconds)
  operations.plus? span (some (operations.nanoseconds numbers.nanoseconds))

def readUnsigned (text : List Char) : Except DurationFault σ := do
  match operations.sum? (← DurationText.unsigned text) with
  | some span => return span
  | none => throw .rejected

/-- The span that a text stands for. -/
def read (text : List Char) : Except DurationFault σ :=
  match text with
  | '-' :: body => (operations.readUnsigned body).map operations.negate
  | body => operations.readUnsigned body

end SpanOperations

end CommandLine
