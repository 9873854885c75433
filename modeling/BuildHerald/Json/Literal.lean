import BuildHerald.Json.Basic
import BuildHerald.Text.Numeral

namespace BuildHerald.Json

/-- A number as it is written. -/
structure Literal where
  negative : Bool
  whole : List Nat
  /-- The digits after the point; none if there is no point. -/
  fraction : List Nat
  /-- Sign and digits of the exponent. -/
  exponent : Option (Bool × List Nat)

namespace Literal

open BuildHerald.Number

/-- The number that digits stand for. -/
def ofDigits (digits : List Nat) : Nat :=
  digits.foldl (fun value digit => value * 10 + digit) 0

/-- Takes up the digits before the point. The first that would take the significand past 64 bits and
all after it only count towards the exponent. -/
def takeWhole (significand : Nat) : List Nat → Nat × Nat
  | [] => (significand, 0)
  | digit :: rest =>
      if significand * 10 + digit < Text.wordBound then
        takeWhole (significand * 10 + digit) rest
      else (significand, rest.length + 1)

/-- Takes up the digits after the point, and says how many. From the first that would take the
significand past 64 bits on they are dropped. -/
def takeFraction (significand : Nat) : List Nat → Nat × Nat
  | [] => (significand, 0)
  | digit :: rest =>
      if significand * 10 + digit < Text.wordBound then
        let (significand, places) := takeFraction (significand * 10 + digit) rest
        (significand, places + 1)
      else (significand, 0)

/-- A power of ten as a floating-point number, in units. -/
def power (exponent : Nat) : Nat :=
  ((Binary64.ofNat (Nat.pow 10 exponent)).units?).getD 0

/-- The greatest power of ten that is finite. -/
def greatestPower : Nat := 308

/-- A number times a power of ten, in steps of floating-point arithmetic; nothing if that is too
large. -/
def scaled (x : Binary64) (exponent : Int) : Option Nat :=
  if x = .finite 0 then some 0
  else if greatestPower < exponent then none
  else if 0 ≤ exponent then (x.scale (power exponent.toNat)).units?
  else if -greatestPower ≤ exponent then (x.divide (power (-exponent).toNat)).units?
  else scaled (x.divide (power greatestPower)) (exponent + greatestPower)
termination_by (-exponent).toNat
decreasing_by simp only [greatestPower] at *; omega

/-- The number a literal stands for, if it is not too large. -/
def number? (literal : Literal) : Option Number :=
  let (significand, dropped) := takeWhole 0 literal.whole
  let plain := literal.fraction.isEmpty && literal.exponent.isNone && dropped == 0
  if plain && !literal.negative then some (.int significand)
  else if plain && 0 < significand && significand ≤ Nat.pow 2 63 then some (.int (-significand))
  else
    let (significand, places) := takeFraction significand literal.fraction
    let written : Int :=
      match literal.exponent with
      | none => 0
      | some (negative, digits) => if negative then -ofDigits digits else ofDigits digits
    (scaled (Binary64.ofNat significand) (dropped - places + written)).map
      (.float literal.negative)

end Literal

end BuildHerald.Json
