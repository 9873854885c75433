namespace BuildHerald.Number

/-- A non-negative binary floating-point number of 64 bits. A finite one is a whole number of units of
2⁻¹⁰⁷⁴. -/
inductive Binary64
  | finite (units : Nat)
  | infinite
  deriving DecidableEq, Repr

namespace Binary64

/-- How many units make one. -/
def one : Nat := Nat.pow 2 1074

/-- The first number of units that is too large to be finite. -/
def limit : Nat := Nat.pow 2 2098

/-- A quotient rounded to a whole number; a half goes to the even neighbour. -/
def divideEven (dividend divisor : Nat) : Nat :=
  let quotient := dividend / divisor
  let twice := 2 * (dividend % divisor)
  if twice < divisor then quotient
  else if divisor < twice then quotient + 1
  else quotient + quotient % 2

/-- A quotient in units rounded to 53 significant bits, and to whole units at the least. -/
def round (dividend divisor : Nat) : Binary64 :=
  let spacing := Nat.pow 2 ((dividend / divisor).log2 - 52)
  let units := divideEven dividend (divisor * spacing) * spacing
  if units < limit then finite units else infinite

/-- The quotient of two natural numbers. -/
def ofRatio (dividend divisor : Nat) : Binary64 :=
  round (dividend * one) divisor

def ofNat (n : Nat) : Binary64 :=
  ofRatio n 1

def add : Binary64 → Binary64 → Binary64
  | finite a, finite b => round (a + b) 1
  | _, _ => infinite

/-- The product with a number given in units. -/
def scale (factor : Nat) : Binary64 → Binary64
  | finite a => round (a * factor) one
  | infinite => infinite

/-- The quotient by a number given in units. -/
def divide (divisor : Nat) : Binary64 → Binary64
  | finite a => round (a * one) divisor
  | infinite => infinite

/-- The units of a finite number. -/
def units? : Binary64 → Option Nat
  | finite units => some units
  | infinite => none

end Binary64

end BuildHerald.Number
