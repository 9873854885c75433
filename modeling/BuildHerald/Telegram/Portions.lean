import BuildHerald.Text.Blank

namespace BuildHerald.Telegram

/-- How many bytes a message holds. -/
def messageLimit : Nat := 4096

namespace Portions

/-- The number of bytes of a text. -/
def size : List Char → Nat
  | [] => 0
  | c :: rest => c.utf8Size + size rest

/-- The longest start of a text that takes up at most `limit` bytes, and the rest. -/
def fitting (limit : Nat) : List Char → List Char × List Char
  | [] => ([], [])
  | c :: rest =>
      if c.utf8Size ≤ limit then
        let (start, rest) := fitting (limit - c.utf8Size) rest
        (c :: start, rest)
      else ([], c :: rest)

/-- Where a character stands last in a text. -/
def lastIndex? (sought : Char) (text : List Char) : Option Nat :=
  (text.reverse.findIdx? (· == sought)).map fun index => text.length - 1 - index

/-- How many characters of a start that fits to take: up to its last line end, or else up to its last
space, or else all of it. At least one is taken. -/
def breakAt (start : List Char) : Nat :=
  match lastIndex? '\n' start <|> lastIndex? ' ' start with
  | some 0 | none => max start.length 1
  | some index => index

theorem breakAt_pos (start : List Char) : 0 < breakAt start := by
  unfold breakAt
  split
  · omega
  · omega
  · rename_i hne _
    exact Nat.pos_of_ne_zero fun h => hne (by simp_all)

/-- What is left of a text after its next portion. The blanks after the portion are dropped. -/
def leftOver (count : Nat) (text : List Char) : List Char :=
  Text.trimStart (text.drop count)

theorem length_leftOver_lt {count : Nat} {text : List Char} (hcount : 0 < count)
    (htext : text ≠ []) : (leftOver count text).length < text.length := by
  have hpos : 0 < text.length := List.length_pos_iff.mpr htext
  have hle : (leftOver count text).length ≤ (text.drop count).length :=
    (List.dropWhile_suffix _).sublist.length_le
  rw [List.length_drop] at hle
  omega

/-- A text in portions that fit a message of `limit` bytes. A text that fits is one portion, even if
it is empty. -/
def ofText (limit : Nat) (text : List Char) : List (List Char) :=
  if _hfits : size text ≤ limit then [text]
  else
    let count := breakAt (fitting limit text).1
    let rest := leftOver count text
    if rest.isEmpty then [text.take count] else text.take count :: ofText limit rest
termination_by text.length
decreasing_by
  exact length_leftOver_lt (breakAt_pos _) (by rintro rfl; simp [size] at _hfits)

end Portions

end BuildHerald.Telegram
