import BuildHerald.Text.Marks.Table

namespace BuildHerald.Text.Marks

/-- The character that keeps letters from joining. -/
def nonJoiner : Char := '\u200c'

/-- The character that makes letters join. -/
def joiner : Char := '\u200d'

/-- Whether a character is a mark on the letter before it that takes up no room. -/
def isNonspacing (c : Char) : Bool :=
  extending.contains c && !spacing.contains c && c != nonJoiner

/-- Whether a character is a mark on the letter before it. -/
def isMark (c : Char) : Bool :=
  isNonspacing c || spacing.contains c

/-- The place of a mark around its letter; zero for whatever does not move past other marks. -/
def place (c : Char) : Nat :=
  ((placed.find? fun run => run.first ≤ c.toNat && c.toNat ≤ run.last).map (·.place)).getD 0

/-- Whether a mark takes away the vowel of the letter before it. -/
def silencesVowel (c : Char) : Bool :=
  place c == 9

end BuildHerald.Text.Marks
