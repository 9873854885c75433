import BuildHerald.Text.Composition.Table
import BuildHerald.Text.Marks

namespace BuildHerald.Text.Composition

/-- The pairs of a character and what it is composed to. -/
def pairs : List Char → List (Char × Char)
  | base :: whole :: rest => (base, whole) :: pairs rest
  | _ => []

/-- The compositions for each second character. -/
def table : List (Char × List (Char × Char)) :=
  composed.map fun (second, text) => (second, pairs (text.toList.filter (· != '\n')))

/-- The syllables of Hangul are numbered by their parts: nineteen first consonants, twenty-one vowels,
and twenty-seven last consonants or none. -/
def firstSyllable : Nat := 0xac00

def syllableCount : Nat := 19 * 21 * 28

def firstConsonant : Nat := 0x1100

def firstVowel : Nat := 0x1161

/-- One less than the first of the last consonants. -/
def noLastConsonant : Nat := 0x11a7

/-- The syllable that two parts make. -/
def syllable? (a b : Char) : Option Char :=
  let a := a.toNat
  let b := b.toNat
  if firstConsonant ≤ a ∧ a < firstConsonant + 19 ∧ firstVowel ≤ b ∧ b < firstVowel + 21 then
    some (Char.ofNat (firstSyllable + ((a - firstConsonant) * 21 + (b - firstVowel)) * 28))
  else if firstSyllable ≤ a ∧ a < firstSyllable + syllableCount ∧ (a - firstSyllable) % 28 = 0 ∧
      noLastConsonant < b ∧ b < noLastConsonant + 28 then
    some (Char.ofNat (a + (b - noLastConsonant)))
  else none

/-- The character that two characters are composed to. -/
def compose? (a b : Char) : Option Char :=
  match syllable? a b with
  | some whole => some whole
  | none => do
      let (_, choices) ← table.find? (·.1 == b)
      (choices.find? (·.1 == a)).map (·.2)

/-- The parts of a syllable. -/
def syllableParts (c : Char) : List Char :=
  let n := c.toNat - firstSyllable
  [Char.ofNat (firstConsonant + n / (21 * 28)), Char.ofNat (firstVowel + n / 28 % 21)] ++
    (if n % 28 = 0 then [] else [Char.ofNat (noLastConsonant + n % 28)])

/-- The two characters that a character is composed of. -/
def parts? (c : Char) : Option (Char × Char) :=
  table.findSome? fun (second, choices) =>
    (choices.find? (·.2 == c)).map fun (first, _) => (first, second)

/-- The characters that a character is composed of, in at most so many steps. -/
def decomposeIn : Nat → Char → List Char
  | 0, c => [c]
  | steps + 1, c =>
      match parts? c with
      | some (first, second) => decomposeIn steps first ++ [second]
      | none => [c]

/-- The characters that a character is composed of. No character takes more than four steps. -/
def decompose (c : Char) : List Char :=
  if firstSyllable ≤ c.toNat ∧ c.toNat < firstSyllable + syllableCount then syllableParts c
  else decomposeIn 4 c

/-- Puts a character in front of a text, and moves it past the marks of lower places. -/
def putInOrder (c : Char) : List Char → List Char
  | [] => [c]
  | d :: rest =>
      if Marks.place d ≠ 0 ∧ Marks.place d < Marks.place c then d :: putInOrder c rest
      else c :: d :: rest

/-- A text in its smallest parts, with the marks on each letter in the order of their places. -/
def dissolved (text : List Char) : List Char :=
  (text.flatMap decompose).foldr putInOrder []

/-- Whether a character stands next to the letter, as far as marks between them are concerned. -/
def isNear (c : Char) (between : List Char) : Bool :=
  match between.getLast? with
  | some mark => Marks.place mark < Marks.place c
  | none => true

/-- Composes characters with the last letter, which is followed by marks that were not composed with
it. -/
def composeAfter (letter : Char) (between : List Char) : List Char → List Char
  | [] => letter :: between
  | c :: rest =>
      match if isNear c between then compose? letter c else none with
      | some whole => composeAfter whole between rest
      | none =>
          if Marks.place c = 0 then letter :: between ++ composeAfter c [] rest
          else composeAfter letter (between ++ [c]) rest

/-- A text with every character composed as far as can be. -/
def normal (text : List Char) : List Char :=
  let parts := dissolved text
  let marks := parts.takeWhile (Marks.place · ≠ 0)
  match parts.dropWhile (Marks.place · ≠ 0) with
  | [] => marks
  | letter :: rest => marks ++ composeAfter letter [] rest

end BuildHerald.Text.Composition
