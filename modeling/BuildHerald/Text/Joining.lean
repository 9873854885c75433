import BuildHerald.Text.Joining.Table
import BuildHerald.Text.Marks

namespace BuildHerald.Text.Joining

/-- Whether letters join across a character. -/
def isTransparent (c : Char) : Bool :=
  Marks.isNonspacing c || c == Char.ofNat 0x1e94b

/-- Whether a text, read from its beginning, has a letter of some kind after what letters join
across. -/
def reaches (letters : CodePoints) (text : List Char) : Bool :=
  match text.dropWhile isTransparent with
  | c :: _ => letters.contains c || bothSides.contains c
  | [] => false

/-- Whether the characters that keep letters from joining, or make them join, stand where they make a
difference. `before` holds what precedes a text, nearest character first. -/
def isMeant (before : List Char) : List Char → Bool
  | [] => true
  | c :: rest =>
      (before.head?.any Marks.silencesVowel ||
        (c != Marks.joiner &&
          (c != Marks.nonJoiner || (reaches letterAfter before && reaches letterBefore rest)))) &&
        isMeant (c :: before) rest

end BuildHerald.Text.Joining
