import CommandLine.Number.Integer

/-!
# Network addresses

Internet addresses of versions 4 and 6, alone or with a port. Every part is read from the front of
the text and gives back what follows it; a text is an address if nothing follows. Numbers of version
4 have no leading zeros. In an address of version 6, `::` stands for one or more zero groups, and
the last two groups may be written like an address of version 4.
-/

namespace CommandLine

/-- An address of version 4: four numbers of eight bits. -/
structure Ipv4 where
  octets : List Nat
  deriving DecidableEq, Repr

/-- An address of version 6: eight numbers of sixteen bits. -/
structure Ipv6 where
  segments : List Nat
  deriving DecidableEq, Repr

inductive IpAddress where
  | v4 (address : Ipv4)
  | v6 (address : Ipv6)
  deriving DecidableEq, Repr

structure SocketV4 where
  ip : Ipv4
  port : Nat
  deriving DecidableEq, Repr

/-- An address of version 6 with a port and a scope. -/
structure SocketV6 where
  ip : Ipv6
  port : Nat
  scope : Nat
  deriving DecidableEq, Repr

inductive Socket where
  | v4 (socket : SocketV4)
  | v6 (socket : SocketV6)
  deriving DecidableEq, Repr

/-- What a text was expected to be an address of. -/
inductive AddressForm where
  | ipv4
  | ipv6
  | ip
  | socketV4
  | socketV6
  | socket
  deriving DecidableEq, Repr

/-- The wording of the only fault: the text does not have the form. -/
def AddressForm.message : AddressForm → String
  | .ipv4 => "invalid IPv4 address syntax"
  | .ipv6 => "invalid IPv6 address syntax"
  | .ip => "invalid IP address syntax"
  | .socketV4 => "invalid IPv4 socket address syntax"
  | .socketV6 => "invalid IPv6 socket address syntax"
  | .socket => "invalid socket address syntax"

namespace Address

/-- What was read, and the text after it. -/
abbrev Reader (α : Type) := StateT (List Char) Option α

/-! ### Numbers and signs -/

def hexValue? (c : Char) : Option Nat :=
  if c.isDigit then some (c.toNat - '0'.toNat)
  else if 'a' ≤ c ∧ c ≤ 'f' then some (c.toNat - 'a'.toNat + 10)
  else if 'A' ≤ c ∧ c ≤ 'F' then some (c.toNat - 'A'.toNat + 10)
  else none

def sign (expected : Char) : Reader Unit := do
  match ← get with
  | c :: rest => if c = expected then set rest else failure
  | [] => failure

/-- Read a decimal number of up to `limit`. -/
def decimal (limit : Nat) : Reader Nat := do
  let text ← get
  let found := text.takeWhile Char.isDigit
  if found = [] ∨ limit < digitsValue found then failure
  set (text.dropWhile Char.isDigit)
  return digitsValue found

/-- Read a number of version 4: up to three digits without a leading zero. -/
def octet : Reader Nat := do
  let found := (← get).takeWhile Char.isDigit
  if 3 < found.length ∨ (1 < found.length ∧ found.head? = some '0') then failure
  decimal 0xFF

/-- Read a number of version 6: up to four hexadecimal digits. -/
def segment : Reader Nat := do
  let text ← get
  let found := text.takeWhile fun c => (hexValue? c).isSome
  if found = [] ∨ 4 < found.length then failure
  set (text.drop found.length)
  return found.foldl (fun value c => value * 16 + (hexValue? c).getD 0) 0

/-! ### Addresses -/

def ipv4 : Reader Ipv4 := do
  let a ← octet
  sign '.'
  let b ← octet
  sign '.'
  let c ← octet
  sign '.'
  let d ← octet
  return ⟨[a, b, c, d]⟩

/-- Read after the separating colon, unless this comes first. -/
def separated {α : Type} (first : Bool) (reader : Reader α) : Reader α := do
  if !first then sign ':'
  reader

/-- Read up to `room` groups separated by colons; also tells whether the last two were written like
an address of version 4. -/
def groups (first : Bool) : Nat → List Char → (List Nat × Bool) × List Char
  | 0, text => (([], false), text)
  | room + 1, text =>
    let embedded := if 0 < room then (separated first ipv4) text else none
    match embedded with
    | some (⟨[a, b, c, d]⟩, rest) => (([a * 0x100 + b, c * 0x100 + d], true), rest)
    | _ =>
      match (separated first segment) text with
      | none => (([], false), text)
      | some (group, rest) =>
        let ((others, dotted), rest) := groups false room rest
        ((group :: others, dotted), rest)

def ipv6 : Reader Ipv6 := do
  let ((head, dotted), rest) := groups true 8 (← get)
  set rest
  if head.length = 8 then return ⟨head⟩
  if dotted then failure
  sign ':'
  sign ':'
  let ((tail, _), rest) := groups true (7 - head.length) (← get)
  set rest
  return ⟨head ++ List.replicate (8 - head.length - tail.length) 0 ++ tail⟩

def ip : Reader IpAddress :=
  (IpAddress.v4 <$> ipv4) <|> (IpAddress.v6 <$> ipv6)

def port : Reader Nat := do
  sign ':'
  decimal 0xFFFF

def socketV4 : Reader SocketV4 := do
  let address ← ipv4
  return ⟨address, ← port⟩

/-- Read a percent sign and a scope, or take the scope zero. -/
def scope : Reader Nat :=
  (do sign '%'; decimal 0xFFFFFFFF) <|> pure 0

/-- Read a bracketed address of version 6 with a port. -/
def socketV6 : Reader SocketV6 := do
  sign '['
  let address ← ipv6
  let scope ← scope
  sign ']'
  return ⟨address, ← port, scope⟩

def socket : Reader Socket :=
  (Socket.v4 <$> socketV4) <|> (Socket.v6 <$> socketV6)

def whole? {α : Type} (reader : Reader α) (text : List Char) : Option α :=
  match reader text with
  | some (value, []) => some value
  | _ => none

end Address

end CommandLine
