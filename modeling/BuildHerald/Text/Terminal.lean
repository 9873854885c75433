namespace BuildHerald.Text.Terminal

/-- The characters that can open a control sequence after its bracket. -/
def isParameter (c : Char) : Bool :=
  ('0' ≤ c && c ≤ '9') || c == ';' || c == '?'

/-- The characters that can stand between parameters and the last character. -/
def isIntermediate (c : Char) : Bool :=
  ' ' ≤ c && c ≤ '/'

/-- The characters that can end a control sequence. -/
def isFinal (c : Char) : Bool :=
  '@' ≤ c && c ≤ '~'

/-- What follows the control sequence that a text begins with, if it begins with one. -/
def afterSequence? : List Char → Option (List Char)
  | '\x1b' :: '[' :: rest =>
      match (rest.dropWhile isParameter).dropWhile isIntermediate with
      | c :: rest => if isFinal c then some rest else none
      | [] => none
  | _ => none

private theorem length_dropWhile_le (p : Char → Bool) (text : List Char) :
    (text.dropWhile p).length ≤ text.length :=
  (List.dropWhile_suffix p).sublist.length_le

theorem length_afterSequence_lt {text rest : List Char} (h : afterSequence? text = some rest) :
    rest.length < text.length := by
  unfold afterSequence? at h
  split at h
  · rename_i inside
    have hinside : ((inside.dropWhile isParameter).dropWhile isIntermediate).length ≤
        inside.length :=
      Nat.le_trans (length_dropWhile_le _ _) (length_dropWhile_le _ _)
    split at h
    · rename_i heq
      split at h
      · cases h
        rw [heq] at hinside
        simp only [List.length_cons] at hinside ⊢
        omega
      · cases h
    · cases h
  · cases h

/-- A text without control sequences. -/
def plain (text : List Char) : List Char :=
  match _hsequence : afterSequence? text with
  | some rest => plain rest
  | none =>
      match text with
      | [] => []
      | c :: rest => c :: plain rest
termination_by text.length
decreasing_by
  · exact length_afterSequence_lt _hsequence
  · simp

end BuildHerald.Text.Terminal
