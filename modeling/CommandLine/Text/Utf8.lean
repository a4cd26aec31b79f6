/-!
# Reading UTF-8

Bytes are read one at a time. Between two characters any byte may come; a first byte of a longer
character says how many bytes follow it and how the next one is limited. A byte that cannot follow
ends a malformed part and is read again as a first byte, so every malformed part is as long as the
beginning of some character can be.
-/

namespace CommandLine.Text

/-- A character of which some bytes are still to come. -/
structure Partial where
  /-- How many bytes are missing after the next one. -/
  others : Nat
  /-- The least byte that may come next. -/
  low : UInt8
  /-- The greatest byte that may come next. -/
  high : UInt8
  /-- The bits read so far. -/
  bits : Nat

/-- The start of a character of several bytes. -/
def Partial.start (byte : UInt8) : Option Partial :=
  if 0xC2 ≤ byte ∧ byte ≤ 0xDF then some ⟨0, 0x80, 0xBF, byte.toNat % 0x20⟩
  else if byte = 0xE0 then some ⟨1, 0xA0, 0xBF, 0⟩
  else if byte = 0xED then some ⟨1, 0x80, 0x9F, 0xD⟩
  else if 0xE1 ≤ byte ∧ byte ≤ 0xEF then some ⟨1, 0x80, 0xBF, byte.toNat % 0x10⟩
  else if byte = 0xF0 then some ⟨2, 0x90, 0xBF, 0⟩
  else if 0xF1 ≤ byte ∧ byte ≤ 0xF3 then some ⟨2, 0x80, 0xBF, byte.toNat % 0x8⟩
  else if byte = 0xF4 then some ⟨2, 0x80, 0x8F, 4⟩
  else none

/-- What the next byte makes of an unfinished character. -/
inductive Progress where
  /-- More bytes are needed. -/
  | more (unfinished : Partial)
  /-- The character is complete. -/
  | done (c : Char)
  /-- The byte cannot follow. -/
  | broken

/-- Continue an unfinished character by one byte. -/
def Partial.next (unfinished : Partial) (byte : UInt8) : Progress :=
  if unfinished.low ≤ byte ∧ byte ≤ unfinished.high then
    let bits := unfinished.bits * 0x40 + byte.toNat % 0x40
    match unfinished.others with
    | 0 => .done (Char.ofNat bits)
    | others + 1 => .more ⟨others, 0x80, 0xBF, bits⟩
  else .broken

/-- A byte between two characters: what it yields, and the character it starts. -/
def firstByte (byte : UInt8) : List (Option Char) × Option Partial :=
  if byte < 0x80 then ([some (Char.ofNat byte.toNat)], none)
  else
    match Partial.start byte with
    | some unfinished => ([], some unfinished)
    | none => ([none], none)

/-- The characters of the bytes; `none` stands for a malformed part. -/
def readFrom : Option Partial → List UInt8 → List (Option Char)
  | none, [] => []
  | some _, [] => [none]
  | none, byte :: rest =>
    let (read, unfinished) := firstByte byte
    read ++ readFrom unfinished rest
  | some unfinished, byte :: rest =>
    match unfinished.next byte with
    | .more longer => readFrom (some longer) rest
    | .done c => some c :: readFrom none rest
    | .broken =>
      let (read, restarted) := firstByte byte
      none :: read ++ readFrom restarted rest

/-- The text of the bytes, with U+FFFD for every malformed part. -/
def decodeLossy (bytes : List UInt8) : String :=
  String.ofList ((readFrom none bytes).map fun read => read.getD '\uFFFD')

/-- The text of the bytes, if no part of them is malformed. -/
def decode? (bytes : List UInt8) : Option String :=
  ((readFrom none bytes).mapM id).map String.ofList

def encode (text : String) : List UInt8 :=
  text.toUTF8.toList

end CommandLine.Text
