import CommandLine.Calendar.Date

/-!
# Times of day

A time of day counts seconds and nanoseconds. A leap second is the second 59 with a nanosecond of
one billion or more. An offset moves a local time to universal time, at most to a neighbouring day,
and keeps leap seconds.
-/

namespace CommandLine

structure Clock where
  hour : Nat
  minute : Nat
  second : Nat
  nanosecond : Nat
  deriving DecidableEq, Repr

def Clock.midnight : Clock := ⟨0, 0, 0, 0⟩

/-- Whole seconds since midnight. -/
def Clock.seconds (clock : Clock) : Nat :=
  (clock.hour * 60 + clock.minute) * 60 + clock.second

/-- The time of day with the given number of whole seconds since midnight. -/
def Clock.ofSeconds (seconds nanosecond : Nat) : Clock :=
  ⟨seconds / 3600, seconds / 60 % 60, seconds % 60, nanosecond⟩

/-- The order of times of day, as a list of numbers. -/
def Clock.rank (clock : Clock) : List Int :=
  [(clock.seconds : Int), clock.nanosecond]

structure DateTime where
  date : Date
  clock : Clock
  deriving DecidableEq

def DateTime.rank (moment : DateTime) : List Int :=
  moment.date.rank ++ moment.clock.rank

def DateTime.isAfter (moment other : DateTime) : Bool :=
  compare moment.rank other.rank == .gt

def daySeconds : Nat := 24 * 60 * 60

/-- The universal time of a local one, `offset` seconds east of it, if the calendar has that day.
The offset is less than a day. -/
def DateTime.universal? (moment : DateTime) (offset : Int) : Option DateTime :=
  let shifted := (moment.clock.seconds : Int) - offset
  let clock := Clock.ofSeconds (shifted % daySeconds).toNat moment.clock.nanosecond
  let date? :=
    if shifted < 0 then moment.date.previous?
    else if (daySeconds : Int) ≤ shifted then moment.date.next?
    else some moment.date
  date?.map fun date => ⟨date, clock⟩

/-- A moment with the offset it was written with. Moments are compared by their universal time. -/
structure OffsetDateTime where
  /-- Seconds east of universal time. -/
  offset : Int
  universal : DateTime
  deriving DecidableEq

end CommandLine
