import BuildHerald.Text.Marks.Table
import BuildHerald.Text.Quoted.Table

namespace BuildHerald.Text.Quoted

/-- The digits of a number in base sixteen, in lower case. -/
def hexDigits (n : Nat) : List Char :=
  Nat.toDigits 16 n

/-- How a character stands inside quotes. Whatever would not be visible, or would join the character
before it, is given by its number. -/
def char (c : Char) : List Char :=
  match c with
  | '"' => ['\\', '"']
  | '\\' => ['\\', '\\']
  | '\t' => ['\\', 't']
  | '\r' => ['\\', 'r']
  | '\n' => ['\\', 'n']
  | '\x00' => ['\\', '0']
  | c =>
      if Marks.extending.contains c || unprintable.contains c then
        ['\\', 'u', '\x7b'] ++ hexDigits c.toNat ++ ['\x7d']
      else [c]

/-- A text in double quotes with its unprintable characters escaped. -/
def encode (text : List Char) : List Char :=
  '"' :: text.flatMap char ++ ['"']

end BuildHerald.Text.Quoted

namespace BuildHerald.Text

/-- A text in double quotes with its unprintable characters escaped. -/
def quoted (text : String) : String :=
  String.ofList (Quoted.encode text.toList)

end BuildHerald.Text
