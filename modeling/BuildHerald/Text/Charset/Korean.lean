import BuildHerald.Text.Charset.Korean.Table

/-!
The Korean charset of one or two bytes. The standard has rows of ninety-four characters; the syllables
that it lacks are where it has no rows, in the order of their code points.
-/

namespace BuildHerald.Text.Charset.Korean

/-- The second bytes of syllables in front of the standard. -/
def outside : List (UInt8 × UInt8) :=
  [(0x41, 0x5a), (0x61, 0x7a), (0x81, 0xfe)]

/-- The second bytes of syllables beside the standard. -/
def beside : List (UInt8 × UInt8) :=
  [(0x41, 0x5a), (0x61, 0x7a), (0x81, 0xa0)]

/-- How many syllables are in front of the standard. -/
def outsideCount : Nat := 32 * 178

/-- The character of two bytes. -/
def pair? (standard syllables : Index) (lead trail : UInt8) : Option Char :=
  if lead < 0xa1 then do
    let place ← among? outside trail
    syllables.get? ((lead.toNat - 0x81) * 178 + place)
  else
    match within? 0xa1 0xfe trail with
    | some place => standard.get? ((lead.toNat - 0xa1) * 94 + place)
    | none => do
        let place ← among? beside trail
        syllables.get? (outsideCount + (lead.toNat - 0xa1) * 84 + place)

/-- The text of a byte sequence. -/
def decode : List UInt8 → List Char :=
  let standard := Index.ofStretches characters
  let syllables := standard.others 0xac00 0xd7a3
  readItems fun b rest =>
    if b < 0x80 then alone (Char.ofNat b.toNat)
    else if b = 0x80 ∨ b = 0xff then alone lost
    else pairItem (fun trail => (pair? standard syllables b trail).map ([·])) rest

end BuildHerald.Text.Charset.Korean
