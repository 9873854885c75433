import BuildHerald.Number.Binary64

namespace BuildHerald.Number.Shortest

/-- A decimal number `digits · 10 ^ exponent`. -/
structure Decimal where
  digits : Nat
  exponent : Int
  deriving DecidableEq, Repr

/-- The fraction `digits · 10 ^ exponent` in units, as dividend and divisor. -/
def Decimal.ratio (d : Decimal) : Nat × Nat :=
  if 0 ≤ d.exponent then (d.digits * Nat.pow 10 d.exponent.toNat * Binary64.one, 1)
  else (d.digits * Binary64.one, Nat.pow 10 (-d.exponent).toNat)

/-- Whether a decimal number is read as the finite number of `units` units. -/
def Decimal.reads (d : Decimal) (units : Nat) : Bool :=
  Binary64.round d.ratio.1 d.ratio.2 == .finite units

/-- The position of the leading decimal digit of a positive number of units. -/
def leadingPosition (units : Nat) : Int :=
  ((Nat.toDigits 10 (units * Nat.pow 10 400 / Binary64.one)).length : Int) - 401

/-- The neighbours of a number on the grid of multiples of a power of ten, nearer one first; at the
same distance, the even one first. -/
def neighbours (units : Nat) (exponent : Int) : List Decimal :=
  let (dividend, divisor) :=
    if 0 ≤ exponent then (units, Nat.pow 10 exponent.toNat * Binary64.one)
    else (units * Nat.pow 10 (-exponent).toNat, Binary64.one)
  let below := dividend / divisor
  let twice := 2 * (dividend % divisor)
  if twice < divisor ∨ (twice = divisor ∧ below % 2 = 0) then
    [⟨below, exponent⟩, ⟨below + 1, exponent⟩]
  else [⟨below + 1, exponent⟩, ⟨below, exponent⟩]

/-- The decimal numbers to be tried for a positive number: its neighbours on coarse grids first. -/
def candidates (units : Nat) : List Decimal :=
  (List.range 17).flatMap fun (places : Nat) => neighbours units (leadingPosition units - places)

/-- Drops the zeros at the end of the digits, at most `fuel` of them. -/
def Decimal.trimmed : Nat → Decimal → Decimal
  | 0, d => d
  | fuel + 1, d =>
      if d.digits ≠ 0 ∧ d.digits % 10 = 0 then trimmed fuel ⟨d.digits / 10, d.exponent + 1⟩ else d

/-- The decimal number with the fewest digits that is read as the given one, the nearest of those. -/
def shortest (units : Nat) : Decimal :=
  match (candidates units).find? (·.reads units) with
  | some d => d.trimmed 17
  | none => ⟨0, 0⟩

end BuildHerald.Number.Shortest
