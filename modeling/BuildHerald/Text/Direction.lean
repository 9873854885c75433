import BuildHerald.Text.Direction.Table
import BuildHerald.Text.Marks

namespace BuildHerald.Text

/-- What a character has to do with the direction of writing. -/
inductive Direction
  | leftToRight
  | rightToLeft
  | arabicNumber
  | europeanNumber
  | mark
  | neutral
  deriving DecidableEq, Repr

namespace Direction

def of (c : Char) : Direction :=
  if leftwardLetters.contains c then .rightToLeft
  else if arabicNumbers.contains c then .arabicNumber
  else if europeanNumbers.contains c then .europeanNumber
  else if Marks.isNonspacing c then .mark
  else if neutrals.contains c then .neutral
  else .leftToRight

/-- Whether a text has anything in it that is written from right to left. -/
def isMixed (text : List Char) : Bool :=
  text.any fun c => of c == .rightToLeft || of c == .arabicNumber

/-- Whether a text begins with a letter, keeps to its direction, and ends in a letter or a number, not
counting marks. -/
def isSteady (text : List Char) : Bool :=
  let directions := text.map of
  let last := (directions.reverse.dropWhile (· == .mark)).headD .neutral
  match directions with
  | [] => true
  | .leftToRight :: _ =>
      directions.all (fun d => d != .rightToLeft && d != .arabicNumber) &&
        (last == .leftToRight || last == .europeanNumber)
  | .rightToLeft :: _ =>
      directions.all (· != .leftToRight) &&
        !(directions.contains .europeanNumber && directions.contains .arabicNumber) &&
        last != .neutral
  | _ => false

end Direction

end BuildHerald.Text
