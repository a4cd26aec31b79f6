import CommandLine.Text.Printable

/-!
# Quoted text

Messages show foreign text between double quotes. A quote and a backslash are written with a
backslash before them, four controls have a letter, and every other character that cannot be shown
on its own is written as its code point in hexadecimal between braces.
-/

namespace CommandLine.Text

/-- A character as its code point: a backslash, `u`, and hexadecimal digits between braces. -/
def codePointEscape (c : Char) : List Char :=
  ['\\', 'u', '\x7b'] ++ Nat.toDigits 16 c.toNat ++ ['\x7d']

/-- One character as it is written between double quotes. -/
def quotedChar (c : Char) : List Char :=
  if c = '"' then ['\\', '"']
  else if c = '\\' then ['\\', '\\']
  else if c = '\n' then ['\\', 'n']
  else if c = '\r' then ['\\', 'r']
  else if c = '\t' then ['\\', 't']
  else if c = '\x00' then ['\\', '0']
  else if isPrintable c && !isGraphemeExtend c then [c]
  else codePointEscape c

/-- A text between double quotes, on one line. -/
def quote (text : String) : String :=
  String.ofList ('"' :: text.toList.flatMap quotedChar ++ ['"'])

/-- Quoted texts between brackets. -/
def quoteList (texts : List String) : String :=
  "[" ++ ", ".intercalate (texts.map quote) ++ "]"

@[simp] theorem toList_quote (text : String) :
    (quote text).toList = '"' :: text.toList.flatMap quotedChar ++ ['"'] := by
  simp [quote]

end CommandLine.Text
