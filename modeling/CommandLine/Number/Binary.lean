/-!
# Binary floating point

A binary interchange format is given by its precision and the width of its exponent field. A number
is kept as its bits. The number nearest to a quotient of naturals is computed in exact arithmetic;
of two equally near ones the one with the even significand counts.
-/

namespace CommandLine

structure BinaryFormat where
  /-- Bits of the significand, the leading one included. -/
  precision : Nat
  /-- Bits of the exponent field. -/
  exponentBits : Nat
  deriving DecidableEq, Repr

namespace BinaryFormat

def binary64 : BinaryFormat := ⟨53, 11⟩

def binary32 : BinaryFormat := ⟨24, 8⟩

variable (format : BinaryFormat)

def width : Nat :=
  format.precision + format.exponentBits

/-- Half of the exponent range: every finite number is below two to this power. -/
def range : Nat :=
  Nat.pow 2 (format.exponentBits - 1)

/-- The weight of the lowest bit of the smallest numbers, as a power of two. -/
def lowestExponent : Int :=
  3 - (format.range + format.precision : Nat)

def infinity : Nat :=
  (Nat.pow 2 format.exponentBits - 1) * Nat.pow 2 (format.precision - 1)

/-- The bits of the number that is not a number. -/
def nan : Nat :=
  format.infinity + Nat.pow 2 (format.precision - 2)

def signBit : Nat :=
  Nat.pow 2 (format.width - 1)

/-- The whole number nearest to a quotient; a tie goes to the even one. -/
def nearestEven (numerator denominator : Nat) : Nat :=
  let quotient := numerator / denominator
  let double := 2 * (numerator % denominator)
  if double < denominator then quotient
  else if denominator < double then quotient + 1
  else quotient + quotient % 2

/-- The greatest power of two that is at most a positive quotient. -/
def floorLog2 (numerator denominator : Nat) : Int :=
  let guess : Int := (numerator.log2 : Int) - denominator.log2
  if numerator * Nat.pow 2 (-guess).toNat < denominator * Nat.pow 2 guess.toNat then guess - 1
  else guess

/-- The bits of the number nearest to a quotient with a positive denominator. -/
def nearest (numerator denominator : Nat) : Nat :=
  if numerator = 0 then 0
  else
    let exponent := max format.lowestExponent
      (floorLog2 numerator denominator - (format.precision - 1 : Nat))
    let significand :=
      nearestEven (numerator * Nat.pow 2 (-exponent).toNat) (denominator * Nat.pow 2 exponent.toNat)
    -- the leading one of the significand counts the exponent field up
    let bits :=
      (exponent - format.lowestExponent).toNat * Nat.pow 2 (format.precision - 1) + significand
    min bits format.infinity

/-- The bits of the number nearest to a decimal: a whole number times a power of ten. -/
def ofDecimal (digits : Nat) (exponent : Int) : Nat :=
  -- the decimal lies between the powers of ten `magnitude - 1` and `magnitude`
  let magnitude : Int := (Nat.toDigits 10 digits).length + exponent
  if digits = 0 then 0
  else if (format.range : Int) < magnitude then format.infinity
  else if magnitude < -(format.range + format.precision : Nat) then 0
  else format.nearest (digits * Nat.pow 10 exponent.toNat) (Nat.pow 10 (-exponent).toNat)

end BinaryFormat

structure BinaryFloat where
  format : BinaryFormat
  bits : Nat
  deriving DecidableEq, Repr

namespace BinaryFloat

/-- The bits without the sign. -/
def magnitude (x : BinaryFloat) : Nat :=
  x.bits % x.format.signBit

def isNaN (x : BinaryFloat) : Bool :=
  x.format.infinity < x.magnitude

def isZero (x : BinaryFloat) : Bool :=
  x.magnitude = 0

/-- Numerical equality: both zeros are equal, and what is not a number differs from itself. -/
def equal (x y : BinaryFloat) : Bool :=
  !x.isNaN && !y.isNaN && (x == y || (x.isZero && y.isZero))

end BinaryFloat

end CommandLine
