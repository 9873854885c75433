import BuildHerald.Text.Split

namespace BuildHerald.Text.Punycode

/-- The character for a digit to base 36: letters first, then decimal digits. -/
def digit (d : Nat) : Char :=
  if d < 26 then Char.ofNat ('a'.toNat + d) else Char.ofNat ('0'.toNat + (d - 26))

/-- The least value that a digit at a place must have for another digit to follow. -/
def threshold (place bias : Nat) : Nat :=
  if place ≤ bias then 1 else if bias + 26 ≤ place then 26 else place - bias

theorem threshold_pos (place bias : Nat) : 0 < threshold place bias := by
  unfold threshold
  split
  · omega
  · split <;> omega

/-- A number in digits of growing weight. -/
def number (bias place n : Nat) : List Char :=
  if n < threshold place bias then [digit n]
  else
    digit (threshold place bias + (n - threshold place bias) % (36 - threshold place bias)) ::
      number bias (place + 36) ((n - threshold place bias) / (36 - threshold place bias))
termination_by n
decreasing_by
  have hpos := threshold_pos place bias
  exact Nat.lt_of_le_of_lt (Nat.div_le_self _ _) (by omega)

/-- Divides by 35 until the quotient is small, and counts 36 for each division. -/
def reduce (n count : Nat) : Nat × Nat :=
  if n ≤ 455 then (n, count) else reduce (n / 35) (count + 36)
termination_by n
decreasing_by exact Nat.div_lt_self (by omega) (by omega)

/-- The bias after a number was written, when `written` characters are done. -/
def adapt (n written : Nat) (first : Bool) : Nat :=
  let n := if first then n / 700 else n / 2
  let (n, count) := reduce (n + n / written) 0
  count + 36 * n / (n + 38)

/-- How far the writing of a label has got. -/
structure Progress where
  /-- How many places were passed since the last number. -/
  gap : Nat
  bias : Nat
  /-- How many characters are done. -/
  written : Nat
  /-- The numbers written so far. -/
  output : List Char

/-- Passes a character of the label while those equal to `current` are being written. -/
def pass (basic current : Nat) (progress : Progress) (c : Char) : Progress :=
  if c.toNat < current then { progress with gap := progress.gap + 1 }
  else if c.toNat = current then
    { gap := 0
      bias := adapt progress.gap (progress.written + 1) (progress.written == basic)
      written := progress.written + 1
      output := progress.output ++ number progress.bias 36 progress.gap }
  else progress

/-- Writes the characters that are no ASCII, the least ones first. -/
def writeRest (label : List Char) (basic : Nat) : Nat → List Nat → Progress → List Char
  | _, [], progress => progress.output
  | next, current :: more, progress =>
      let progress :=
        { progress with gap := progress.gap + (current - next) * (progress.written + 1) }
      let progress := label.foldl (pass basic current) progress
      writeRest label basic (current + 1) more { progress with gap := progress.gap + 1 }

/-- A label in ASCII: its ASCII characters, and after a hyphen the numbers that tell which others
stand where. -/
def encode (label : List Char) : List Char :=
  let basic := label.filter fun c => c.toNat < 128
  let others := ((label.filter fun c => 128 ≤ c.toNat).map Char.toNat).mergeSort.eraseDups
  (if basic.isEmpty then [] else basic ++ ['-']) ++
    writeRest label basic.length 128 others ⟨0, 72, basic.length, []⟩

/-- The value of a digit of either case. -/
def digitValue? (c : Char) : Option Nat :=
  if 'a' ≤ c ∧ c ≤ 'z' then some (c.toNat - 'a'.toNat)
  else if 'A' ≤ c ∧ c ≤ 'Z' then some (c.toNat - 'A'.toNat)
  else if '0' ≤ c ∧ c ≤ '9' then some (c.toNat - '0'.toNat + 26)
  else none

/-- The greatest number that is read is less than this. -/
def numberBound : Nat := Nat.pow 2 32

/-- The number that digits of growing weight stand for, added to `value`, and the rest of the text. -/
def readNumber? (bias place weight value : Nat) : List Char → Option (Nat × List Char)
  | [] => none
  | c :: rest => do
      let d ← digitValue? c
      let value := value + d * weight
      if numberBound ≤ value then none
      else if d < threshold place bias then some (value, rest)
      else
        let weight := weight * (36 - threshold place bias)
        if numberBound ≤ weight then none
        else readNumber? bias (place + 36) weight value rest

theorem readNumber?_length {bias place weight value n : Nat} {text rest : List Char}
    (h : readNumber? bias place weight value text = some (n, rest)) :
    rest.length < text.length := by
  induction text generalizing place weight value with
  | nil => simp [readNumber?] at h
  | cons c tail ih =>
      unfold readNumber? at h
      cases hd : digitValue? c with
      | none => simp [hd] at h
      | some d =>
          simp only [hd, Option.bind_eq_bind, Option.bind_some] at h
          split at h
          · cases h
          · split at h
            · cases h
              simp
            · split at h
              · cases h
              · exact Nat.lt_succ_of_lt (ih h)

/-- Puts the characters that numbers tell of into a label. `current` is the last one, and `gap` the
place where it went. -/
def readRest? (label : List Char) (current gap bias : Nat) (text : List Char) :
    Option (List Char) :=
  if text.isEmpty then some label
  else
    match _h : readNumber? bias 36 1 gap text with
    | none => none
    | some (passed, rest) =>
        let places := label.length + 1
        let current := current + passed / places
        let place := passed % places
        if current.isValidChar then
          let c := Char.ofNat current
          readRest? (label.take place ++ c :: label.drop place) current (place + 1)
            (adapt (passed - gap) places (gap == 0)) rest
        else none
termination_by text.length
decreasing_by exact readNumber?_length _h

/-- The label that a text in ASCII stands for. -/
def decode? (text : List Char) : Option (List Char) :=
  match splitOnce '-' text.reverse with
  | none => readRest? [] 128 0 72 text
  | some (_, []) => readRest? [] 128 0 72 text
  | some (code, basic) => readRest? basic.reverse 128 0 72 code.reverse

end BuildHerald.Text.Punycode
