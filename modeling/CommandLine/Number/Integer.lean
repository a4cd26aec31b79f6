/-!
# Integers of fixed width

An integer is a sign and decimal digits. A minus sign is a digit out of place for an unsigned width.
The text is read from the left and the first fault counts: a digit that takes the number out of
range is reported before a later character that is no digit.
-/

namespace CommandLine

/-- The integers of a number of bits, with or without negative ones. -/
structure IntegerWidth where
  bits : Nat
  signed : Bool
  deriving DecidableEq, Repr

namespace IntegerWidth

def greatest (width : IntegerWidth) : Nat :=
  if width.signed then Nat.pow 2 (width.bits - 1) - 1 else Nat.pow 2 width.bits - 1

/-- How far the width reaches below zero. -/
def depth (width : IntegerWidth) : Nat :=
  if width.signed then Nat.pow 2 (width.bits - 1) else 0

end IntegerWidth

inductive IntegerFault where
  | empty
  | invalidDigit
  | tooLarge
  | tooSmall
  deriving DecidableEq, Repr

def IntegerFault.message : IntegerFault → String
  | .empty => "cannot parse integer from empty string"
  | .invalidDigit => "invalid digit found in string"
  | .tooLarge => "number too large to fit in target type"
  | .tooSmall => "number too small to fit in target type"

def digitValue (c : Char) : Nat :=
  c.toNat - '0'.toNat

/-- The number that decimal digits stand for. -/
def digitsValue (digits : List Char) : Nat :=
  digits.foldl (fun value c => value * 10 + digitValue c) 0

/-- Digits read after `value`, as long as the number stays within the limit. -/
def digitsWithin (limit : Nat) (beyond : IntegerFault) : Nat → List Char → Except IntegerFault Nat
  | value, [] => .ok value
  | value, c :: rest =>
    if !c.isDigit then .error .invalidDigit
    else if limit < value * 10 + digitValue c then .error beyond
    else digitsWithin limit beyond (value * 10 + digitValue c) rest

def IntegerWidth.decode (width : IntegerWidth) (text : List Char) : Except IntegerFault Int :=
  match text with
  | [] => .error .empty
  | ['+'] => .error .invalidDigit
  | ['-'] => .error .invalidDigit
  | '+' :: digits => (digitsWithin width.greatest .tooLarge 0 digits).map Int.ofNat
  | '-' :: digits =>
    if width.signed then (digitsWithin width.depth .tooSmall 0 digits).map fun n => -Int.ofNat n
    else .error .invalidDigit
  | digits => (digitsWithin width.greatest .tooLarge 0 digits).map Int.ofNat

end CommandLine
