import BuildHerald.Time.Span
import BuildHerald.Number.Binary64
import BuildHerald.Text.Blank
import BuildHerald.Text.Decimal
import BuildHerald.Text.Numeral
import BuildHerald.Text.Pattern

namespace BuildHerald.Time.SpanText

open BuildHerald.Number BuildHerald.Text

/-- The units of a written length of time. -/
inductive TimeUnit
  | millisecond
  | second
  | minute
  | hour
  deriving DecidableEq, Repr

namespace TimeUnit

/-- How many milliseconds the unit lasts. -/
def millis : TimeUnit → Nat
  | millisecond => 1
  | second => 1000
  | minute => 60000
  | hour => 3600000

/-- The letters of the unit. -/
def letters : TimeUnit → List Char
  | millisecond => ['m', 's']
  | second => ['s']
  | minute => ['m']
  | hour => ['h']

/-- The unit with these letters. -/
def ofLetters? : List Char → Option TimeUnit
  | ['m', 's'] => some millisecond
  | ['s'] => some second
  | ['m'] => some minute
  | ['h'] => some hour
  | _ => none

theorem ofLetters?_letters (unit : TimeUnit) : ofLetters? unit.letters = some unit := by
  cases unit <;> rfl

end TimeUnit

/-! ### The form -/

def digits : Pattern :=
  .many (.one Decimal.isDigit)

/-- Digits, perhaps with a point and more digits after them. -/
def numeral : Pattern :=
  .both digits (.perhaps (.both (.word ['.']) digits))

def unit : Pattern :=
  .either (.word TimeUnit.millisecond.letters)
    (.either (.word TimeUnit.hour.letters)
      (.either (.word TimeUnit.minute.letters) (.word TimeUnit.second.letters)))

/-- A length of time in writing: numerals with units. -/
def form : Pattern :=
  .many (.both numeral unit)

/-! ### What is found in a text -/

/-- A numeral and the letters of its unit, as they are written. -/
structure Found where
  numeral : List Char
  letters : List Char
  deriving DecidableEq, Repr

/-- What stands in a text in front of its rest. -/
def before (text rest : List Char) : List Char :=
  text.take (text.length - rest.length)

/-- The numeral with a unit at the start of a text, and what follows. -/
def foundAt? (text : List Char) : Option (Found × List Char) :=
  ((numeral.rests text).flatMap fun middle =>
    (unit.rests middle).map fun rest => (⟨before text middle, before middle rest⟩, rest)).head?

/-- The numerals with units in a text, from left to right. After each, the search goes on at what
follows, and at least one character further on. -/
def found : List Char → List Found
  | [] => []
  | c :: rest =>
      match foundAt? (c :: rest) with
      | some (first, last) => first :: if last.length ≤ rest.length then found last else found rest
      | none => found rest
termination_by text => text.length

/-! ### The number of milliseconds -/

/-- The number that digits stand for. -/
def ofDigits (digits : List Char) : Nat :=
  digits.foldl (fun value c => value * 10 + (Text.digit? c).getD 0) 0

/-- The floating-point number next to what a numeral says. Only the digits from 0 to 9 say anything. -/
def number? (numeral : List Char) : Option Binary64 :=
  let (whole, fraction) := (Text.splitOnce '.' numeral).getD (numeral, [])
  let digits := whole ++ fraction
  if !digits.isEmpty && digits.all Char.isDigit then
    some (Binary64.ofRatio (ofDigits digits) (Nat.pow 10 fraction.length))
  else none

/-- The sum with what a numeral with a unit says, in milliseconds. -/
def plus? (total : Binary64) (part : Found) : Option Binary64 := do
  let number ← number? part.numeral
  let unit ← TimeUnit.ofLetters? part.letters
  some (total.add (number.scale (unit.millis * Binary64.one)))

/-- The sum of what is found, in milliseconds, added up in order. -/
def total? (found : List Found) : Option Binary64 :=
  found.foldlM plus? (.finite 0)

/-- A number of milliseconds as a length of time, to the nearest nanosecond. Zero and lengths of 2⁶⁴
seconds or more are refused. -/
def ofMillis? (total : Binary64) : Option Span :=
  if total = .finite 0 then none
  else
    match total.divide (1000 * Binary64.one) with
    | .finite seconds =>
        if seconds < Text.wordBound * Binary64.one then
          some ⟨Binary64.divideEven (seconds * Span.nanosPerSecond) Binary64.one⟩
        else none
    | .infinite => none

end BuildHerald.Time.SpanText

namespace BuildHerald.Time.Span

/-- The length of time written as numbers with units, such as `90s` or `1h30m`. -/
def ofText? (text : List Char) : Option Span := do
  let written := Text.trim text
  if SpanText.form.fitsAll written then
    SpanText.ofMillis? (← SpanText.total? (SpanText.found written))
  else none

end BuildHerald.Time.Span
