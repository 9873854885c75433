import BuildHerald.Text.Utf8

namespace BuildHerald.Http

/-- An upper-case hexadecimal digit. -/
def hexDigit (n : Nat) : Char :=
  if n < 10 then Char.ofNat ('0'.toNat + n) else Char.ofNat ('A'.toNat + (n - 10))

/-- The value of a hexadecimal digit of either case. -/
def hexValue? (b : UInt8) : Option Nat :=
  if 0x30 ≤ b ∧ b ≤ 0x39 then some (b.toNat - 0x30)
  else if 0x41 ≤ b ∧ b ≤ 0x46 then some (b.toNat - 0x41 + 10)
  else if 0x61 ≤ b ∧ b ≤ 0x66 then some (b.toNat - 0x61 + 10)
  else none

/-- A byte in escaped form: a percent sign and two digits. -/
def escapeByte (b : UInt8) : List Char :=
  ['%', hexDigit (b.toNat / 16), hexDigit (b.toNat % 16)]

/-- Whether a character is escaped everywhere in an address: it is a control or no ASCII. -/
def isForeign (c : Char) : Bool :=
  c < ' ' || '~' < c

/-- A text with every byte of its foreign and its reserved characters escaped. -/
def escape (reserved : List Char) (text : List Char) : List Char :=
  text.flatMap fun c =>
    if isForeign c || reserved.contains c then (String.utf8EncodeChar c).flatMap escapeByte
    else [c]

/-- The bytes that a text with escaped bytes stands for. A percent sign without two digits after it
stands for itself. -/
def unescape : List UInt8 → List UInt8
  | 0x25 :: high :: low :: rest =>
      match hexValue? high, hexValue? low with
      | some high, some low => UInt8.ofNat (high * 16 + low) :: unescape rest
      | _, _ => 0x25 :: unescape (high :: low :: rest)
  | b :: rest => b :: unescape rest
  | [] => []

/-- The text that a text with escaped bytes stands for, if its bytes are well formed. -/
def unescaped? (text : List Char) : Option (List Char) :=
  Text.Utf8.decode? (unescape (Text.Utf8.encode text))

end BuildHerald.Http
