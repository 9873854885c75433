import BuildHerald.Text.Charset.Japanese.Supplement
import BuildHerald.Text.Charset.Japanese.Table

/-!
The Japanese charsets. They have the same sets of characters, in rows of ninety-four, and differ in how
a number is written: in two bytes above ASCII, in two bytes of which the second may be in ASCII, or in
two bytes of ASCII after a sequence that announces them.
-/

namespace BuildHerald.Text.Charset.Japanese

/-- The katakana of half width, by place. -/
def halfWidth (place : Nat) : Char :=
  Char.ofNat (0xff61 + place)

namespace Extended

/-- The character of two bytes above ASCII. -/
def pair? (index : Index) (lead trail : UInt8) : Option Char := do
  let row ← within? 0xa1 0xfe lead
  let place ← within? 0xa1 0xfe trail
  index.get? (row * 94 + place)

/-- The item that begins with the byte for the second set. -/
def supplementItem (second : Index) : List UInt8 → List Char × Nat
  | [] => ([lost], 0)
  | lead :: rest =>
      if (within? 0xa1 0xfe lead).isNone then ([lost], spoilt lead)
      else
        let (text, more) := pairItem (fun trail => (pair? second lead trail).map ([·])) rest
        (text, more + 1)

/-- The text of a byte sequence in which characters take up to three bytes. -/
def decode : List UInt8 → List Char :=
  let first := Index.ofStretches firstSet
  let second := Index.ofStretches secondSet
  readItems fun b rest =>
    if b < 0x80 then alone (Char.ofNat b.toNat)
    else if b = 0x8e then
      pairItem (fun trail => (within? 0xa1 0xdf trail).map fun place => [halfWidth place]) rest
    else if b = 0x8f then supplementItem second rest
    else if (within? 0xa1 0xfe b).isSome then
      pairItem (fun trail => (pair? first b trail).map ([·])) rest
    else alone lost

end Extended

namespace Shifted

/-- The second bytes of characters. -/
def trails : List (UInt8 × UInt8) :=
  [(0x40, 0x7e), (0x80, 0xfc)]

/-- The numbers of characters for private use. -/
def isPrivate (number : Nat) : Bool :=
  8836 ≤ number && number ≤ 10715

/-- The first bytes of characters. -/
def leads : List (UInt8 × UInt8) :=
  [(0x81, 0x9f), (0xe0, 0xfc)]

/-- The character of two bytes. -/
def pair? (index : Index) (row : Nat) (trail : UInt8) : Option Char := do
  let place ← among? trails trail
  let number := row * 188 + place
  if isPrivate number then some (Char.ofNat (0xe000 + (number - 8836)))
  else index.get? number

/-- The text of a byte sequence in which characters take one or two bytes. -/
def decode : List UInt8 → List Char :=
  let index := Index.ofStretches firstSet
  readItems fun b rest =>
    if b ≤ 0x80 then alone (Char.ofNat b.toNat)
    else
      match within? 0xa1 0xdf b, among? leads b with
      | some place, _ => alone (halfWidth place)
      | none, some row => pairItem (fun trail => (pair? index row trail).map ([·])) rest
      | none, none => alone lost

end Shifted

namespace Announced

/-- What bytes mean after an announcement. -/
inductive Mode
  | ascii
  | roman
  | katakana
  | paired
  deriving DecidableEq, Repr

/-- What two bytes after an escape announce. -/
def Mode.announced? : List UInt8 → Option Mode
  | 0x28 :: 0x42 :: _ => some .ascii
  | 0x28 :: 0x4a :: _ => some .roman
  | 0x28 :: 0x49 :: _ => some .katakana
  | 0x24 :: 0x40 :: _ => some .paired
  | 0x24 :: 0x42 :: _ => some .paired
  | _ => none

/-- The character of a byte that stands alone. -/
def Mode.character? (mode : Mode) (b : UInt8) : Option Char :=
  match mode with
  | .katakana => (within? 0x21 0x5f b).map halfWidth
  | .paired => none
  | .ascii | .roman =>
      if b = 0x0e ∨ b = 0x0f ∨ 0x80 ≤ b then none
      else if mode = .roman ∧ b = 0x5c then some '¥'
      else if mode = .roman ∧ b = 0x7e then some '‾'
      else some (Char.ofNat b.toNat)

/-- The text of a byte sequence. `idle` tells that an announcement came right before, which must not
be followed by another one. -/
def read (index : Index) (mode : Mode) (idle : Bool) : List UInt8 → List Char
  | [] => []
  | 0x1b :: rest =>
      match Mode.announced? rest with
      | some next =>
          (if idle then [lost] else []) ++ read index next true (rest.drop 2)
      | none => lost :: read index mode false rest
  | [b] => [(mode.character? b).getD lost]
  | b :: trail :: more =>
      if mode != .paired then (mode.character? b).getD lost :: read index mode false (trail :: more)
      else
        match within? 0x21 0x7e b with
        | none => lost :: read index mode false (trail :: more)
        | some row =>
            if trail = 0x1b then lost :: read index mode false (trail :: more)
            else
              let c := do
                let place ← within? 0x21 0x7e trail
                index.get? (row * 94 + place)
              c.getD lost :: read index mode false more
  termination_by bytes => bytes.length

/-- The text of a byte sequence in which all bytes are in ASCII. -/
def decode (bytes : List UInt8) : List Char :=
  read (Index.ofStretches firstSet) .ascii false bytes

end Announced

end BuildHerald.Text.Charset.Japanese
