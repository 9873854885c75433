namespace BuildHerald.Text.Utf16

/-- Whether a unit of sixteen bits is the first half of a character. -/
def isFirstHalf (unit : Nat) : Bool :=
  0xd800 ≤ unit && unit < 0xdc00

/-- Whether a unit of sixteen bits is the second half of a character. -/
def isSecondHalf (unit : Nat) : Bool :=
  0xdc00 ≤ unit && unit < 0xe000

/-- The character that a unit stands for by itself, or U+FFFD for half of one. -/
def single (unit : Nat) : Char :=
  if isFirstHalf unit || isSecondHalf unit then '\ufffd' else Char.ofNat unit

/-- The text of a sequence of units, U+FFFD standing for each half without its other half. -/
def lossyUnits : List Nat → List Char
  | [] => []
  | [unit] => [single unit]
  | first :: second :: rest =>
      if isFirstHalf first && isSecondHalf second then
        Char.ofNat (0x10000 + (first - 0xd800) * 0x400 + (second - 0xdc00)) :: lossyUnits rest
      else single first :: lossyUnits (second :: rest)

/-- The units in a sequence of bytes, and whether a byte is left over. -/
def units (bigEndian : Bool) : List UInt8 → List Nat × Bool
  | first :: second :: rest =>
      let (others, odd) := units bigEndian rest
      let unit :=
        if bigEndian then first.toNat * 256 + second.toNat else second.toNat * 256 + first.toNat
      (unit :: others, odd)
  | [_] => ([], true)
  | [] => ([], false)

/-- The text of a byte sequence. A byte left over counts as one missing character, together with the
first half of a character right before it. -/
def lossy (bigEndian : Bool) (bytes : List UInt8) : List Char :=
  let (units, odd) := units bigEndian bytes
  let joinsLast := (units.getLast?.map isFirstHalf).getD false
  lossyUnits units ++ (if odd && !joinsLast then ['\ufffd'] else [])

end BuildHerald.Text.Utf16
