import BuildHerald.Text.Charset.Chinese.Table

/-!
The Chinese charset of one, two or four bytes. The standard has rows of ninety-four characters; the
ideographs that it lacks are where it has no rows, in the order of their code points. Whatever has no
two bytes has four.
-/

namespace BuildHerald.Text.Charset.Chinese

/-- The second bytes of characters in front of a row of the standard. -/
def before : List (UInt8 × UInt8) :=
  [(0x40, 0x7e), (0x80, 0xa0)]

/-- The second bytes of characters where the standard has no row. -/
def instead : List (UInt8 × UInt8) :=
  [(0x40, 0x7e), (0x80, 0xfe)]

/-- How many ideographs are in rows of their own. -/
def insteadCount : Nat := 32 * 190

/-- Characters for private use: three runs of rows. -/
def firstPrivate : Nat := 0xe000

def secondPrivate : Nat := 0xe234

def thirdPrivate : Nat := 0xe4c6

/-- The characters of two bytes. -/
structure Known where
  standard : Index
  signs : Index
  ideographs : Index

def known : Known :=
  let standard := Index.ofStretches characters
  ⟨standard, Index.ofStretches [⟨0, signs⟩],
    standard.others 0x4e00 0x9fa5 ++ Index.ofStretches [⟨0, lateIdeographs⟩]⟩

/-- The character of two bytes of which the second is not in a row of the standard. -/
def short? (known : Known) (lead : UInt8) (place : Nat) : Option Char :=
  if lead = 0xa3 ∧ place = 95 then some '\u3000'
  else if lead < 0xa8 then some (Char.ofNat (thirdPrivate + (lead.toNat - 0xa1) * 96 + place))
  else if lead < 0xaa then known.signs.get? ((lead.toNat - 0xa8) * 96 + place)
  else known.ideographs.get? (insteadCount + (lead.toNat - 0xaa) * 96 + place)

/-- The character of two bytes of which the second is in a row of the standard. -/
def long? (known : Known) (lead : UInt8) (place : Nat) : Option Char :=
  if 0xaa ≤ lead ∧ lead < 0xb0 then
    some (Char.ofNat (firstPrivate + (lead.toNat - 0xaa) * 94 + place))
  else if 0xf8 ≤ lead then
    some (Char.ofNat (secondPrivate + (lead.toNat - 0xf8) * 94 + place))
  else known.standard.get? ((lead.toNat - 0xa1) * 94 + place)

/-- The character of two bytes. -/
def pair? (known : Known) (lead trail : UInt8) : Option Char :=
  if lead < 0xa1 then do
    let place ← among? instead trail
    known.ideographs.get? ((lead.toNat - 0x81) * 190 + place)
  else
    match within? 0xa1 0xfe trail with
    | some place => long? known lead place
    | none => (among? before trail).bind (short? known lead)

/-- The character of four bytes with a number. Beyond the ranges are the characters that have no place
among the first 65536. -/
def numbered? (number : Nat) : Option Char :=
  if number = 7457 then some (Char.ofNat 0xe7c7)
  else if number ≤ 39419 then
    (ranges.takeWhile (·.1 ≤ number)).getLast?.map fun (first, c) => Char.ofNat (c + (number - first))
  else if 189000 ≤ number ∧ number ≤ 1237575 then some (Char.ofNat (0x10000 + (number - 189000)))
  else none

/-- The item of a byte after which a digit comes. -/
def quadItem (lead digit : UInt8) : List UInt8 → List Char × Nat
  | [] => ([lost], 1)
  | third :: rest =>
      match within? 0x81 0xfe third, rest with
      | none, _ => ([lost], 0)
      | some _, [] => ([lost], 2)
      | some third, fourth :: _ =>
          match within? 0x30 0x39 fourth with
          | none => ([lost], 0)
          | some fourth =>
              let number :=
                (((lead.toNat - 0x81) * 10 + (digit.toNat - 0x30)) * 126 + third) * 10 + fourth
              ([(numbered? number).getD lost], 3)

/-- The text of a byte sequence. -/
def decode : List UInt8 → List Char :=
  let known := known
  readItems fun b rest =>
    if b < 0x80 then alone (Char.ofNat b.toNat)
    else if b = 0x80 then alone '€'
    else if b = 0xff then alone lost
    else
      match rest with
      | second :: more =>
          if (within? 0x30 0x39 second).isSome then quadItem b second more
          else pairItem (fun trail => (pair? known b trail).map ([·])) rest
      | [] => ([lost], 0)

end BuildHerald.Text.Charset.Chinese
