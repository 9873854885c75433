namespace BuildHerald.Text.Utf8

/-- The bytes of a text. -/
def encode (text : List Char) : List UInt8 :=
  text.flatMap String.utf8EncodeChar

/-- Where a reader stands between two bytes: before a character, or inside one whose leading bits are
`bits`, with `more` bytes to come after the next, which must lie between `low` and `high`. -/
inductive State
  | fresh
  | inside (bits more : Nat) (low high : UInt8)
  deriving DecidableEq

/-- The effect of a byte before a character: a finished character, a byte that starts none, or the
state inside a longer one. The bounds on the second byte rule out overlong forms, surrogates and
numbers above the last code point. -/
def begin (b : UInt8) : Option Char × State :=
  if b < 0x80 then (some (Char.ofNat b.toNat), .fresh)
  else if b < 0xc2 then (none, .fresh)
  else if b < 0xe0 then (none, .inside (b.toNat % 32) 0 0x80 0xbf)
  else if b = 0xe0 then (none, .inside 0 1 0xa0 0xbf)
  else if b = 0xed then (none, .inside 13 1 0x80 0x9f)
  else if b < 0xf0 then (none, .inside (b.toNat % 16) 1 0x80 0xbf)
  else if b = 0xf0 then (none, .inside 0 2 0x90 0xbf)
  else if b < 0xf4 then (none, .inside (b.toNat % 8) 2 0x80 0xbf)
  else if b = 0xf4 then (none, .inside 4 2 0x80 0x8f)
  else (none, .fresh)

/-- What a byte before a character contributes at once: nothing if it opens a longer character. -/
def emitted : Option Char × State → List (Option Char)
  | (_, .inside ..) => []
  | (c, .fresh) => [c]

/-- The characters of a byte sequence, read from a state on. An ill-formed stretch counts as one
missing character: a byte that starts none, or as much of a longer character as is well formed. -/
def scanFrom : State → List UInt8 → List (Option Char)
  | .fresh, [] => []
  | .inside .., [] => [none]
  | .fresh, b :: rest => emitted (begin b) ++ scanFrom (begin b).2 rest
  | .inside bits more low high, b :: rest =>
      if low ≤ b ∧ b ≤ high then
        let bits := bits * 64 + b.toNat % 64
        match more with
        | 0 => some (Char.ofNat bits) :: scanFrom .fresh rest
        | more + 1 => scanFrom (.inside bits more 0x80 0xbf) rest
      else none :: (emitted (begin b) ++ scanFrom (begin b).2 rest)

/-- The characters of a byte sequence, with `none` for each ill-formed stretch. -/
def scan (bytes : List UInt8) : List (Option Char) :=
  scanFrom .fresh bytes

/-- The text of a byte sequence, U+FFFD standing for each ill-formed stretch. -/
def lossy (bytes : List UInt8) : List Char :=
  (scan bytes).map (·.getD '\ufffd')

/-- The text of a byte sequence that is well formed throughout. -/
def decode? (bytes : List UInt8) : Option (List Char) :=
  (scan bytes).mapM id

/-- The bytes of a string. -/
def ofString (text : String) : List UInt8 :=
  encode text.toList

end BuildHerald.Text.Utf8
