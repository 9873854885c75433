namespace BuildHerald.Text

/-- Why a text is not a decimal numeral below a bound. -/
inductive NumeralError
  | empty
  | invalidDigit
  | tooLarge
  deriving DecidableEq, Repr

namespace NumeralError

/-- The wording of the error. -/
def message : NumeralError → String
  | empty => "cannot parse integer from empty string"
  | invalidDigit => "invalid digit found in string"
  | tooLarge => "number too large to fit in target type"

end NumeralError

/-- The value of an ASCII digit. -/
def digit? (c : Char) : Option Nat :=
  if '0' ≤ c ∧ c ≤ '9' then some (c.toNat - '0'.toNat) else none

/-- Reads digits onto a value that is already there. The first character that is no digit, or that
takes the value to the bound, decides. -/
def readDigits (bound : Nat) (value : Nat) : List Char → Except NumeralError Nat
  | [] => .ok value
  | c :: rest =>
      match digit? c with
      | none => .error .invalidDigit
      | some d =>
          if value * 10 + d < bound then readDigits bound (value * 10 + d) rest
          else .error .tooLarge

/-- Reads a decimal numeral below `bound`. A plus sign may stand before the digits. -/
def readNumeral (bound : Nat) (text : List Char) : Except NumeralError Nat :=
  match text with
  | [] => .error .empty
  | ['+'] => .error .invalidDigit
  | '+' :: digits => readDigits bound 0 digits
  | digits => readDigits bound 0 digits

/-- One more than the largest number of 64 bits. -/
def wordBound : Nat := Nat.pow 2 64

theorem readDigits_lt {bound value n : Nat} {text : List Char} (hvalue : value < bound)
    (h : readDigits bound value text = .ok n) : n < bound := by
  induction text generalizing value with
  | nil =>
      cases h
      exact hvalue
  | cons c rest ih =>
      unfold readDigits at h
      split at h
      · cases h
      · split at h
        · exact ih ‹_› h
        · cases h

end BuildHerald.Text
