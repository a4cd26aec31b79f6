/-!
# Kinds of values

What a model records about a value besides how it is decoded: the broad category of the value itself
and how the field wraps it.
-/

namespace CommandLine

inductive DateTimeKind where
  | date
  | time
  | dateTime
  | dateTimeOffset
  | dateTimeUtc
  | duration
  deriving DecidableEq, Repr

/-- The broad category of a single value. -/
inductive ScalarKind where
  /-- A truth value, set by the presence of its option. -/
  | flag
  /-- Exactly one character. -/
  | char
  /-- Text taken as it is. -/
  | text
  /-- An integer in base ten. -/
  | integer (bits : Nat) (signed : Bool)
  /-- A floating point number. -/
  | float (bits : Nat)
  /-- One of a list of names, matched exactly. -/
  | enumeration (names : List String)
  /-- A date, a time, or both. -/
  | dateTime (kind : DateTimeKind)
  /-- Anything else that has a decoder. -/
  | parsable
  deriving DecidableEq, Repr

inductive Wrapper where
  /-- Exactly one. -/
  | single
  /-- One or none. -/
  | nullable
  /-- Any number. -/
  | sequence
  deriving DecidableEq, Repr

/-- The kind of a field: its values and how many it holds. -/
structure ValueKind where
  wrapper : Wrapper
  scalar : ScalarKind
  deriving DecidableEq, Repr

namespace ValueKind

/-- Flags are set by their presence and take no argument. -/
def isFlag (kind : ValueKind) : Bool :=
  kind.scalar = .flag

/-- A flag that may be absent can be followed by an explicit `true` or `false`. -/
def isNullableFlag (kind : ValueKind) : Bool :=
  kind.wrapper = .nullable && kind.isFlag

/-- A sequence collects every value it is given. -/
def isSequence (kind : ValueKind) : Bool :=
  kind.wrapper = .sequence

theorem isFlag_of_isNullableFlag {kind : ValueKind} (h : kind.isNullableFlag = true) :
    kind.isFlag = true := by
  simp [isNullableFlag] at h
  exact h.2

theorem not_isSequence_of_isNullableFlag {kind : ValueKind} (h : kind.isNullableFlag = true) :
    kind.isSequence = false := by
  simp [isNullableFlag] at h
  simp [isSequence, h.1]

end ValueKind

end CommandLine
