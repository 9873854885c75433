import BuildHerald.Json.Basic

namespace BuildHerald.Json.Printer

/-- Floating-point numbers are written without an exponent from 10⁻⁵ up to 10¹⁶, and the sign of an
exponent is always written. -/
def floatLayout : BuildHerald.Number.Layout where
  leastPositional := -5
  greatestPositional := 15
  positiveSign := "+"

/-- How a character stands in a string. -/
def char (c : Char) : List Char :=
  match c with
  | '"' => ['\\', '"']
  | '\\' => ['\\', '\\']
  | '\n' => ['\\', 'n']
  | '\r' => ['\\', 'r']
  | '\t' => ['\\', 't']
  | c =>
      if c < ' ' then
        ['\\', 'u', '0', '0'] ++ (if c.toNat < 16 then ['0'] else []) ++ Nat.toDigits 16 c.toNat
      else [c]

def string (text : String) : List Char :=
  '"' :: text.toList.flatMap char ++ ['"']

def number : Number → List Char
  | .int value => (toString value).toList
  | .float negative units => (floatLayout.write negative units).toList

mutual

/-- A value without blanks. -/
def value : Value → List Char
  | .null => ['n', 'u', 'l', 'l']
  | .bool true => ['t', 'r', 'u', 'e']
  | .bool false => ['f', 'a', 'l', 's', 'e']
  | .number n => number n
  | .string text => string text
  | .array items => '[' :: itemList items ++ [']']
  | .object members => '\x7b' :: memberList members ++ ['\x7d']

def itemList : List Value → List Char
  | [] => []
  | [item] => value item
  | item :: rest => value item ++ ',' :: itemList rest

def memberList : List (String × Value) → List Char
  | [] => []
  | [(name, item)] => string name ++ ':' :: value item
  | (name, item) :: rest => string name ++ ':' :: value item ++ ',' :: memberList rest

end

end BuildHerald.Json.Printer

namespace BuildHerald.Json.Value

/-- The text of a value, without blanks. -/
def text (value : Value) : String :=
  String.ofList (Printer.value value)

end BuildHerald.Json.Value
