import CommandLine.Text.Alphabetic
import CommandLine.Text.Numeric

/-!
# Literals

A literal is a number, a truth value, or something in quotes. Quotes hold characters or bytes, in
which a backslash starts an escape, or a raw text, which has no escapes and may be closed by number
signs as well. A word that directly follows a literal is its suffix and belongs to it.
-/

namespace CommandLine

inductive Literal where
  | string (value : String)
  | char (value : Char)
  | int (value : Nat)
  | float
  | bool (value : Bool)
  | byte
  | byteString
  /-- A text that ends in a zero byte, which is not written. -/
  | terminated
  deriving DecidableEq, Repr

namespace Literal

/-- What a literal is called in messages. -/
def typeName : Literal → String
  | .string _ => "string"
  | .char _ => "char"
  | .int _ => "int"
  | .float => "float"
  | .bool _ => "bool"
  | .byte => "byte"
  | .byteString => "byte string"
  | .terminated => "unknown"

def isNumber : Literal → Bool
  | .int _ | .float => true
  | _ => false

/-! ### Words -/

def startsWord (c : Char) : Bool :=
  c = '_' || Text.isAlphabetic c

def continuesWord (c : Char) : Bool :=
  c = '_' || Text.isAlphanumeric c

/-- The rest of a text after the word at its start, if there is one. -/
def afterWord (text : List Char) : List Char :=
  if text.head?.any startsWord then text.dropWhile continuesWord else text

/-! ### Numbers -/

/-- The value of a digit in any base up to sixteen. -/
def digit? (c : Char) : Option Nat :=
  if c.isDigit then some (c.toNat - '0'.toNat)
  else if 'a' ≤ c ∧ c ≤ 'f' then some (c.toNat - 'a'.toNat + 10)
  else if 'A' ≤ c ∧ c ≤ 'F' then some (c.toNat - 'A'.toNat + 10)
  else none

/-- The character is a digit of a base, or separates digits. -/
def isDigitOf (base : Nat) (c : Char) : Bool :=
  c = '_' || (digit? c).any (· < base)

/-- The number that digits of a base stand for. -/
def valueOf (base : Nat) (digits : List Char) : Nat :=
  (digits.filterMap digit?).foldl (fun value d => value * base + d) 0

/-- The rest after a sign, if there is one. -/
def afterSign : List Char → List Char
  | '+' :: rest | '-' :: rest => rest
  | text => text

/-- The rest after an exponent, which holds at least one digit. -/
def afterExponent? : List Char → Option (List Char)
  | c :: rest =>
    let unsigned := afterSign (rest.dropWhile (· = '_'))
    let digits := unsigned.takeWhile (isDigitOf 10)
    if (c = 'e' ∨ c = 'E') ∧ digits.any Char.isDigit then some (unsigned.drop digits.length)
    else none
  | [] => none

/-- The rest after a fraction. A point before another point or a word starts none. -/
def afterFraction? : List Char → Option (List Char)
  | '.' :: rest =>
    if rest.head?.any fun c => c = '.' || startsWord c then none
    else some (rest.dropWhile (isDigitOf 10))
  | _ => none

/-- The rest after what makes digits a floating point number: a fraction, an exponent, or both. -/
def afterFloat? (text : List Char) : Option (List Char) :=
  match afterFraction? text with
  | some rest => some ((afterExponent? rest).getD rest)
  | none => afterExponent? text

/-- A whole number after the marker of its base. -/
def integerOf? (base : Nat) (text : List Char) : Option (Literal × List Char) :=
  let digits := text.takeWhile (isDigitOf base)
  let rest := text.drop digits.length
  if digits.all (· = '_') || rest.head?.any Char.isDigit then none
  else some (.int (valueOf base digits), rest)

/-- The number at the start of a text that starts with a digit. -/
def number? (text : List Char) : Option (Literal × List Char) :=
  match afterFloat? (text.dropWhile (isDigitOf 10)) with
  | some rest => some (.float, rest)
  | none =>
    match text with
    | '0' :: 'x' :: rest => integerOf? 16 rest
    | '0' :: 'o' :: rest => integerOf? 8 rest
    | '0' :: 'b' :: rest => integerOf? 2 rest
    | _ => integerOf? 10 text

/-! ### Quotes -/

inductive Quoting where
  | characters
  /-- Bytes, written as characters below 128. -/
  | bytes
  /-- Characters except the zero, which marks the end. -/
  | terminated
  deriving DecidableEq, Repr

/-- The character can stand inside of the quotes. -/
def Quoting.allows : Quoting → Char → Bool
  | .characters, _ => true
  | .bytes, c => c.toNat < 128
  | .terminated, c => c ≠ '\x00'

/-- The character that two hexadecimal digits stand for. -/
def Quoting.ofByte? (quoting : Quoting) (high low : Char) : Option Char :=
  match digit? high, digit? low with
  | some high, some low =>
    let found := Char.ofNat (high * 16 + low)
    match quoting with
    | .characters => if high < 8 then some found else none
    | .bytes => some found
    | .terminated => if found = '\x00' then none else some found
  | _, _ => none

/-- Up to six hexadecimal digits before a closing brace, as a character. -/
def codePoint? (text : List Char) : Option (Char × List Char) :=
  let digits := text.takeWhile (isDigitOf 16)
  let count := (digits.filter (· ≠ '_')).length
  match text.drop digits.length with
  | '\x7d' :: rest =>
    let value := valueOf 16 digits
    if value.isValidChar ∧ 0 < count ∧ count ≤ 6 ∧ digits.head? ≠ some '_' then
      some (Char.ofNat value, rest)
    else none
  | _ => none

def escaped? (quoting : Quoting) : List Char → Option (Char × List Char)
  | 'n' :: rest => some ('\n', rest)
  | 'r' :: rest => some ('\r', rest)
  | 't' :: rest => some ('\t', rest)
  | '\\' :: rest => some ('\\', rest)
  | '\'' :: rest => some ('\'', rest)
  | '"' :: rest => some ('"', rest)
  | '0' :: rest => if quoting = .terminated then none else some ('\x00', rest)
  | 'x' :: high :: low :: rest => (quoting.ofByte? high low).map fun c => (c, rest)
  | 'u' :: '\x7b' :: rest =>
    if quoting = .bytes then none
    else (codePoint? rest).filter fun (c, _) => quoting.allows c
  | _ => none

/-- The character is skipped after a backslash at the end of a line. -/
def isIndent (c : Char) : Bool :=
  c ∈ [' ', '\t', '\n', '\r']

/-- The characters up to the closing quote. A backslash at the end of a line skips the indent that
follows, and a carriage return stands only before a line feed, with which it is one character. -/
def quotedWithin (quoting : Quoting) : Nat → List Char → Option (List Char × List Char)
  | 0, _ => none
  | _ + 1, [] => none
  | _ + 1, '"' :: rest => some ([], rest)
  | fuel + 1, '\\' :: '\n' :: rest => quotedWithin quoting fuel (rest.dropWhile isIndent)
  | fuel + 1, '\\' :: '\r' :: '\n' :: rest => quotedWithin quoting fuel (rest.dropWhile isIndent)
  | fuel + 1, '\\' :: rest => do
    let (c, after) ← escaped? quoting rest
    let (text, rest) ← quotedWithin quoting fuel after
    return (c :: text, rest)
  | fuel + 1, '\r' :: '\n' :: rest => do
    let (text, rest) ← quotedWithin quoting fuel rest
    return ('\n' :: text, rest)
  | fuel + 1, c :: rest => do
    guard (c ≠ '\r' ∧ quoting.allows c)
    let (text, rest) ← quotedWithin quoting fuel rest
    return (c :: text, rest)

/-- The characters up to the closing quote; each of them is read in one step. -/
def quoted? (quoting : Quoting) (text : List Char) : Option (List Char × List Char) :=
  quotedWithin quoting (text.length + 1) text

/-- The characters up to a quote with as many number signs after it as there were before the
opening one. -/
def rawWithin (quoting : Quoting) (signs : Nat) : List Char → Option (List Char × List Char)
  | [] => none
  | c :: rest => do
    if c = '"' ∧ rest.take signs = List.replicate signs '#' then return ([], rest.drop signs)
    guard (quoting.allows c ∧ (c = '\r' → rest.head? = some '\n'))
    let (text, rest) ← rawWithin quoting signs rest
    return (c :: text, rest)

def raw? (quoting : Quoting) (text : List Char) : Option (List Char × List Char) :=
  let signs := (text.takeWhile (· = '#')).length
  match text.drop signs with
  | '"' :: rest => rawWithin quoting signs rest
  | _ => none

/-- A character in single quotes, after the opening one. -/
def quotedChar? (quoting : Quoting) : List Char → Option (Char × List Char)
  | '\\' :: rest =>
    match escaped? quoting rest with
    | some (c, '\'' :: after) => some (c, after)
    | _ => none
  | c :: '\'' :: rest => if quoting.allows c then some (c, rest) else none
  | _ => none

/-! ### Literals -/

/-- The literal at the start of a text without its suffix. -/
def unsuffixed? (text : List Char) : Option (Literal × List Char) :=
  let string (found : Option (List Char × List Char)) :=
    found.map fun (value, rest) => (Literal.string (String.ofList value), rest)
  let other {α : Type} (literal : Literal) (found : Option (α × List Char)) :=
    found.map fun (_, rest) => (literal, rest)
  match text with
  | '"' :: rest => string (quoted? .characters rest)
  | 'r' :: rest => string (raw? .characters rest)
  | 'b' :: '"' :: rest => other .byteString (quoted? .bytes rest)
  | 'b' :: 'r' :: rest => other .byteString (raw? .bytes rest)
  | 'c' :: '"' :: rest => other .terminated (quoted? .terminated rest)
  | 'c' :: 'r' :: rest => other .terminated (raw? .terminated rest)
  | 'b' :: '\'' :: rest => other .byte (quotedChar? .bytes rest)
  | '\'' :: rest => (quotedChar? .characters rest).map fun (c, rest) => (.char c, rest)
  | c :: _ => if c.isDigit then number? text else none
  | [] => none

/-- The literal at the start of a text. -/
def first? (text : List Char) : Option (Literal × List Char) :=
  (unsuffixed? text).map fun (literal, rest) => (literal, afterWord rest)

end Literal

end CommandLine
