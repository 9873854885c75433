import BuildHerald.Text.Charset.Big5.Table

namespace BuildHerald.Text.Charset.Big5

/-- The second bytes of characters. -/
def trails : List (UInt8 × UInt8) :=
  [(0x40, 0x7e), (0xa1, 0xfe)]

/-- Characters that have to be written as a letter and a mark, by number. -/
def marked : List (Nat × String) :=
  [(1133, "\u00ca\u0304"), (1135, "\u00ca\u030c"), (1164, "\u00ea\u0304"), (1166, "\u00ea\u030c")]

/-- The text of two bytes. -/
def pair? (index : Index) (lead trail : UInt8) : Option (List Char) := do
  let place ← among? trails trail
  let number := (lead.toNat - 0x81) * 157 + place
  match marked.lookup number with
  | some text => some text.toList
  | none => (index.get? number).map ([·])

/-- The text of a byte sequence. -/
def decode : List UInt8 → List Char :=
  let index := Index.ofStretches characters
  readItems fun b rest =>
    if b < 0x80 then alone (Char.ofNat b.toNat)
    else if b = 0x80 ∨ b = 0xff then alone lost
    else pairItem (pair? index b) rest

end BuildHerald.Text.Charset.Big5
