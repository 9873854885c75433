import BuildHerald.Json.Literal
import BuildHerald.Text.Utf8

namespace BuildHerald.Json.Reader

/-- A character of a document, or an ill-formed stretch of its bytes. -/
abbrev Symbol := Option Char

/-- The characters that may stand between tokens. -/
def isBlank : Symbol → Bool
  | some c => c = ' ' || c = '\t' || c = '\n' || c = '\r'
  | none => false

def skipBlanks (input : List Symbol) : List Symbol :=
  input.dropWhile isBlank

/-- One part of a string between its quotes. -/
inductive Piece
  | char (c : Char)
  | illFormed
  /-- An escaped unit of sixteen bits. -/
  | unit (code : Nat)

/-- The value of a hexadecimal digit. -/
def hexDigit? : Symbol → Option Nat
  | none => none
  | some c =>
      if '0' ≤ c ∧ c ≤ '9' then some (c.toNat - '0'.toNat)
      else if 'a' ≤ c ∧ c ≤ 'f' then some (c.toNat - 'a'.toNat + 10)
      else if 'A' ≤ c ∧ c ≤ 'F' then some (c.toNat - 'A'.toNat + 10)
      else none

/-- The unit that four hexadecimal digits stand for. -/
def unit? (a b c d : Symbol) : Option Piece := do
  let a ← hexDigit? a
  let b ← hexDigit? b
  let c ← hexDigit? c
  let d ← hexDigit? d
  some (.unit (((a * 16 + b) * 16 + c) * 16 + d))

/-- The character that a backslash and a letter stand for. -/
def escaped? : Char → Option Piece
  | '"' => some (.char '"')
  | '\\' => some (.char '\\')
  | '/' => some (.char '/')
  | 'b' => some (.char '\x08')
  | 'f' => some (.char '\x0c')
  | 'n' => some (.char '\n')
  | 'r' => some (.char '\r')
  | 't' => some (.char '\t')
  | _ => none

/-- The pieces of a string up to its closing quote, and what follows. `read` holds the pieces read
before, last one first. -/
def stringPieces (read : List Piece) : List Symbol → Option (List Piece × List Symbol)
  | [] => none
  | none :: rest => stringPieces (.illFormed :: read) rest
  | some c :: rest =>
      if c = '"' then some (read.reverse, rest)
      else if c = '\\' then
        match rest with
        | some 'u' :: a :: b :: c :: d :: rest =>
            match unit? a b c d with
            | some piece => stringPieces (piece :: read) rest
            | none => none
        | some c :: rest =>
            match escaped? c with
            | some piece => stringPieces (piece :: read) rest
            | none => none
        | _ => none
      else if c < ' ' then none
      else stringPieces (.char c :: read) rest

/-- The characters of a string, if it has a text. Two units that form a surrogate pair make one
character. -/
def textOf : List Piece → Option (List Char)
  | [] => some []
  | .char c :: rest => (textOf rest).map (c :: ·)
  | .illFormed :: _ => none
  | .unit high :: .unit low :: rest =>
      if 0xd800 ≤ high ∧ high < 0xdc00 then
        if 0xdc00 ≤ low ∧ low < 0xe000 then
          (textOf rest).map
            (Char.ofNat (0x10000 + (high - 0xd800) * 0x400 + (low - 0xdc00)) :: ·)
        else none
      else if 0xdc00 ≤ high ∧ high < 0xe000 then none
      else (textOf (.unit low :: rest)).map (Char.ofNat high :: ·)
  | .unit code :: rest =>
      if 0xd800 ≤ code ∧ code < 0xe000 then none
      else (textOf rest).map (Char.ofNat code :: ·)

/-- A string after its opening quote. -/
def stringAt (input : List Symbol) : Option (Option String × List Symbol) := do
  let (pieces, rest) ← stringPieces [] input
  some ((textOf pieces).map String.ofList, rest)

/-- The digits at the start of the input, and what follows. -/
def digitsAt : List Symbol → List Nat × List Symbol
  | some c :: rest =>
      match Text.digit? c with
      | some digit =>
          let (digits, rest) := digitsAt rest
          (digit :: digits, rest)
      | none => ([], some c :: rest)
  | input => ([], input)

/-- The digits before the point: a lone zero, or digits that do not start with one. -/
def wholeAt (input : List Symbol) : Option (List Nat × List Symbol) :=
  match digitsAt input with
  | ([], _) => none
  | (0 :: _ :: _, _) => none
  | (digits, rest) => some (digits, rest)

/-- A point with the digits after it, if there is one. -/
def fractionAt : List Symbol → Option (List Nat × List Symbol)
  | some '.' :: rest =>
      match digitsAt rest with
      | ([], _) => none
      | (digits, rest) => some (digits, rest)
  | input => some ([], input)

/-- The sign of an exponent, and what follows. -/
def exponentSign : List Symbol → Bool × List Symbol
  | some '-' :: rest => (true, rest)
  | some '+' :: rest => (false, rest)
  | input => (false, input)

/-- An exponent, if there is one. -/
def exponentAt : List Symbol → Option (Option (Bool × List Nat) × List Symbol)
  | some c :: rest =>
      if c = 'e' ∨ c = 'E' then
        let (negative, rest) := exponentSign rest
        match digitsAt rest with
        | ([], _) => none
        | (digits, rest) => some (some (negative, digits), rest)
      else some (none, some c :: rest)
  | input => some (none, input)

/-- A number with what follows. -/
def numberAt (input : List Symbol) : Option (Literal × List Symbol) := do
  let (negative, rest) :=
    match input with
    | some '-' :: rest => (true, rest)
    | input => (false, input)
  let (whole, rest) ← wholeAt rest
  let (fraction, rest) ← fractionAt rest
  let (exponent, rest) ← exponentAt rest
  some (⟨negative, whole, fraction, exponent⟩, rest)

/-- What follows a given word at the start of the input. -/
def after? : List Char → List Symbol → Option (List Symbol)
  | [], input => some input
  | c :: word, some d :: input => if c = d then after? word input else none
  | _ :: _, _ => none

mutual

/-- A value with what follows it. Every call uses up some `fuel`. -/
def valueAt : Nat → List Symbol → Option (Tree × List Symbol)
  | 0, _ => none
  | fuel + 1, input =>
      match skipBlanks input with
      | some '"' :: rest => (stringAt rest).map fun (text, rest) => (.string text, rest)
      | some '[' :: rest =>
          match skipBlanks rest with
          | some ']' :: rest => some (.array [], rest)
          | rest => (itemsAt fuel rest).map fun (items, rest) => (.array items, rest)
      | some '{' :: rest =>
          match skipBlanks rest with
          | some '}' :: rest => some (.object [], rest)
          | rest => (membersAt fuel rest).map fun (members, rest) => (.object members, rest)
      | some 'n' :: rest => (after? ['u', 'l', 'l'] rest).map fun rest => (.null, rest)
      | some 't' :: rest => (after? ['r', 'u', 'e'] rest).map fun rest => (.bool true, rest)
      | some 'f' :: rest => (after? ['a', 'l', 's', 'e'] rest).map fun rest => (.bool false, rest)
      | input => (numberAt input).map fun (literal, rest) => (.number literal.number?, rest)

/-- The items of an array from one of them on, up to the closing bracket. -/
def itemsAt : Nat → List Symbol → Option (List Tree × List Symbol)
  | 0, _ => none
  | fuel + 1, input => do
      let (item, rest) ← valueAt fuel input
      match skipBlanks rest with
      | some ']' :: rest => some ([item], rest)
      | some ',' :: rest =>
          let (items, rest) ← itemsAt fuel rest
          some (item :: items, rest)
      | _ => none

/-- The members of an object from one of them on, up to the closing brace. -/
def membersAt : Nat → List Symbol → Option (List (Option String × Tree) × List Symbol)
  | 0, _ => none
  | fuel + 1, input =>
      match skipBlanks input with
      | some '"' :: rest => do
          let (name, rest) ← stringAt rest
          match skipBlanks rest with
          | some ':' :: rest =>
              let (value, rest) ← valueAt fuel rest
              match skipBlanks rest with
              | some '}' :: rest => some ([(name, value)], rest)
              | some ',' :: rest =>
                  let (members, rest) ← membersAt fuel rest
                  some ((name, value) :: members, rest)
              | _ => none
          | _ => none
      | _ => none

end

/-- The tree of a whole document. Two calls for each symbol, and one more, are fuel enough. -/
def document? (input : List Symbol) : Option Tree :=
  match valueAt (2 * input.length + 1) input with
  | some (tree, rest) => if (skipBlanks rest).isEmpty then some tree else none
  | none => none

end BuildHerald.Json.Reader

namespace BuildHerald.Json

/-- Reads a text. -/
def ofText? (text : String) : Option Tree :=
  Reader.document? (text.toList.map some)

/-- Reads bytes, which need be well-formed characters only where a text is wanted. -/
def ofBytes? (bytes : List UInt8) : Option Tree :=
  Reader.document? (Text.Utf8.scan bytes)

end BuildHerald.Json
