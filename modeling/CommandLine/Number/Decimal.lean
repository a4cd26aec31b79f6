import CommandLine.Number.Binary
import CommandLine.Number.Integer
import CommandLine.Text.Pieces

/-!
# Decimal numbers

A floating point number is written as an optional sign and then digits with an optional point and an
optional exponent, or one of the names `inf`, `infinity` and `nan` in any case. The integer part may
be grouped: then its first group has one to three digits and every later one three.
-/

namespace CommandLine

/-! ### Digit groups -/

/-- The digits without separators, if every group has its length. -/
def ungroup (integer : List Char) : Option (List Char) :=
  match Text.pieces ',' integer with
  | [] => none
  | first :: later =>
    if first = [] ∨ 3 < first.length then none
    else if later.all fun group => group.length = 3 then some (first ++ later.flatten)
    else none

def stripUnsigned (body : List Char) : Option (List Char) :=
  let isGrouped (c : Char) := c.isDigit || c = ','
  let tail := body.dropWhile isGrouped
  if ',' ∈ tail then none
  else (ungroup (body.takeWhile isGrouped)).map (· ++ tail)

/-- A number without the separators of its integer part; `none` if a separator is misplaced. A text
without separators is left to the reader of numbers. -/
def stripGrouping (text : List Char) : Option (List Char) :=
  if ',' ∈ text then
    match text with
    | '-' :: body => (stripUnsigned body).map ('-' :: ·)
    | '+' :: body => (stripUnsigned body).map ('+' :: ·)
    | body => stripUnsigned body
  else some text

theorem stripGrouping_of_not_mem {text : List Char} (h : ',' ∉ text) :
    stripGrouping text = some text := by
  simp [stripGrouping, h]

/-! ### Numbers -/

inductive FloatFault where
  | empty
  | invalid
  deriving DecidableEq, Repr

def FloatFault.message : FloatFault → String
  | .empty => "cannot parse float from empty string"
  | .invalid => "invalid float literal"

/-- The exponent of a number, given by what follows its digits. -/
def decimalExponent : List Char → Option Int
  | [] => some 0
  | mark :: rest =>
    if mark = 'e' ∨ mark = 'E' then
      let digits := match rest with
        | '-' :: digits => digits
        | '+' :: digits => digits
        | digits => digits
      if digits ≠ [] ∧ digits.all Char.isDigit then
        some (if rest.head? = some '-' then -(digitsValue digits : Int) else digitsValue digits)
      else none
    else none

/-- All digits of an unsigned number as one whole number, and the power of ten it is scaled by. -/
def decimal? (text : List Char) : Option (Nat × Int) :=
  let integer := text.takeWhile Char.isDigit
  let afterInteger := text.dropWhile Char.isDigit
  let (fraction, rest) := match afterInteger with
    | '.' :: more => (more.takeWhile Char.isDigit, more.dropWhile Char.isDigit)
    | more => ([], more)
  if integer = [] ∧ fraction = [] then none
  else
    (decimalExponent rest).map fun exponent =>
      (digitsValue (integer ++ fraction), exponent - fraction.length)

/-- The bits of an unsigned number or of a name. -/
def BinaryFormat.unsigned? (format : BinaryFormat) (text : List Char) : Option Nat :=
  match decimal? text with
  | some (digits, exponent) => some (format.ofDecimal digits exponent)
  | none =>
    let name := text.map Char.toLower
    if name = ['i', 'n', 'f'] ∨ name = ['i', 'n', 'f', 'i', 'n', 'i', 't', 'y'] then
      some format.infinity
    else if name = ['n', 'a', 'n'] then some format.nan
    else none

/-- The floating point number that a text without separators stands for. -/
def BinaryFormat.decode (format : BinaryFormat) (text : List Char) :
    Except FloatFault BinaryFloat :=
  let ofBits (sign : Nat) (bits : Option Nat) : Except FloatFault BinaryFloat :=
    match bits with
    | some bits => .ok ⟨format, sign + bits⟩
    | none => .error .invalid
  match text with
  | [] => .error .empty
  | '-' :: body => ofBits format.signBit (format.unsigned? body)
  | '+' :: body => ofBits 0 (format.unsigned? body)
  | body => ofBits 0 (format.unsigned? body)

end CommandLine
