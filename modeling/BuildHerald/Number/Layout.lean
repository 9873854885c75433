import BuildHerald.Number.Shortest

namespace BuildHerald.Number

/-- How a floating-point number is laid out in text. -/
structure Layout where
  /-- The least position of the leading digit that is written without an exponent. -/
  leastPositional : Int
  /-- The greatest such position. -/
  greatestPositional : Int
  /-- What stands before the exponent of a number of at least one. -/
  positiveSign : String

namespace Layout

/-- Digits with a point after the first, unless there is no other. -/
def pointed (digits : List Char) : List Char :=
  match digits with
  | first :: rest@(_ :: _) => first :: '.' :: rest
  | digits => digits

/-- The text of a positive decimal number. -/
def decimal (layout : Layout) (d : Shortest.Decimal) : List Char :=
  let digits := Nat.toDigits 10 d.digits
  let leading := d.exponent + digits.length - 1
  if leading < layout.leastPositional ∨ layout.greatestPositional < leading then
    pointed digits ++ 'e' ::
      (if leading < 0 then '-' :: Nat.toDigits 10 (-leading).toNat
       else layout.positiveSign.toList ++ Nat.toDigits 10 leading.toNat)
  else if leading < 0 then
    '0' :: '.' :: (List.replicate (-leading - 1).toNat '0' ++ digits)
  else if 0 ≤ d.exponent then
    digits ++ List.replicate d.exponent.toNat '0' ++ ['.', '0']
  else
    digits.take (leading.toNat + 1) ++ '.' :: digits.drop (leading.toNat + 1)

/-- The text of a number given by its sign and its units. -/
def write (layout : Layout) (negative : Bool) (units : Nat) : String :=
  let body := if units = 0 then ['0', '.', '0'] else layout.decimal (Shortest.shortest units)
  String.ofList (if negative then '-' :: body else body)

end Layout

end BuildHerald.Number
