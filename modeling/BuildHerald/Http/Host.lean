import BuildHerald.Http.Domain
import BuildHerald.Http.Escape
import BuildHerald.Text.Numeral
import BuildHerald.Text.Split

namespace BuildHerald.Http.Host

/-- A number to base 8, 10 or 16. -/
def numberTo? (base : Nat) (digits : List Char) : Option Nat :=
  digits.foldlM (fun value c => do
    let d ← hexValue? (UInt8.ofNat c.toNat)
    if c.toNat < 128 ∧ d < base then some (value * base + d) else none) 0

/-- A part of an address of four bytes: hexadecimal after `0x`, octal after another zero, else
decimal. -/
def part? : List Char → Option Nat
  | [] => none
  | '0' :: 'x' :: digits => numberTo? 16 digits
  | '0' :: 'X' :: digits => numberTo? 16 digits
  | '0' :: digits => numberTo? 8 digits
  | digits => numberTo? 10 digits

/-- The labels of a name, without an empty last one. -/
def labels (name : List Char) : List (List Char) :=
  match (Text.pieces (· == '.') name).reverse with
  | [] :: before => before.reverse
  | labels => labels.reverse

/-- Whether a name counts as an address of four bytes: its last label is a number. -/
def endsInNumber (name : List Char) : Bool :=
  match (labels name).reverse with
  | [] => false
  | last :: _ =>
      (!last.isEmpty && last.all fun c => (Text.digit? c).isSome) || (part? last).isSome

/-- The number that an address of four bytes stands for: each part but the last is one byte, and the
last one fills the rest. -/
def fourBytes? : Nat → List Nat → Option Nat
  | 0, _ => none
  | _, [] => none
  | places, [last] => if last < Nat.pow 256 places then some last else none
  | places + 1, first :: rest => do
      let value ← fourBytes? places rest
      if first < 256 then some (first * Nat.pow 256 places + value) else none

/-- An address of four bytes in decimal. -/
def dotted (address : Nat) : List Char :=
  ['.'].intercalate ([24, 16, 8, 0].map fun place =>
    (toString (address / Nat.pow 2 place % 256)).toList)

/-- An address of four bytes, written in full. -/
def ofNumbers? (name : List Char) : Option (List Char) := do
  let parts ← (labels name).mapM part?
  (fourBytes? 4 parts).map dotted

/-- A group of an address of eight groups. -/
def group? (digits : List Char) : Option Nat :=
  if digits.isEmpty || 4 < digits.length then none else numberTo? 16 digits

/-- The two groups that four decimal bytes stand for. -/
def dottedGroups? (text : List Char) : Option (List Nat) := do
  let bytes ← (Text.pieces (· == '.') text).mapM fun digits =>
    if digits.isEmpty || (1 < digits.length && digits.head? == some '0') then none
    else (numberTo? 10 digits).filter (· < 256)
  match bytes with
  | [a, b, c, d] => some [a * 256 + b, c * 256 + d]
  | _ => none

/-- The groups in a text. The last ones may be written as four decimal bytes. -/
def groups? : List (List Char) → Option (List Nat)
  | [] => some []
  | [last] => if last.contains '.' then dottedGroups? last else (group? last).map ([·])
  | first :: rest => do
      let group ← group? first
      let groups ← groups? rest
      some (group :: groups)

/-- The text before and after the first pair of colons. -/
def splitGap : List Char → Option (List Char × List Char)
  | ':' :: ':' :: rest => some ([], rest)
  | c :: rest => (splitGap rest).map fun (before, after) => (c :: before, after)
  | [] => none

/-- The groups on one side of a gap. -/
def side? (text : List Char) : Option (List Nat) :=
  if text.isEmpty then some [] else groups? (Text.pieces (· == ':') text)

/-- The eight groups of an address. A pair of colons stands for as many zeros as are missing. -/
def eightGroups? (text : List Char) : Option (List Nat) := do
  let groups ← match splitGap text with
    | some (before, after) => do
        let before ← if before.contains '.' then none else side? before
        let after ← side? after
        if before.length + after.length < 8 then
          some (before ++ List.replicate (8 - before.length - after.length) 0 ++ after)
        else none
    | none => side? text
  if groups.length = 8 then some groups else none

/-- How many zeros the groups begin with. -/
def leadingZeros (groups : List Nat) : Nat :=
  (groups.takeWhile (· == 0)).length

/-- Where the first of the longest runs of zeros begins, and its length. -/
def longestRun : Nat → List Nat → Nat × Nat
  | index, [] => (index, 0)
  | index, group :: rest =>
      let here := leadingZeros (group :: rest)
      let later := longestRun (index + 1) rest
      if later.2 ≤ here then (index, here) else later

/-- Groups in hexadecimal with colons between them. -/
def colonised (groups : List Nat) : List Char :=
  [':'].intercalate (groups.map (Nat.toDigits 16))

/-- An address of eight groups in brackets, with a pair of colons for the first of the longest runs of
two or more zeros. -/
def bracketed (groups : List Nat) : List Char :=
  let (index, length) := longestRun 0 groups
  let inside :=
    if length < 2 then colonised groups
    else colonised (groups.take index) ++ "::".toList ++ colonised (groups.drop (index + length))
  '[' :: inside ++ [']']

/-- A host as it stands in an address that requests are sent to. -/
def ofText? (text : List Char) : Option (List Char) :=
  match text with
  | '[' :: rest =>
      match rest.reverse with
      | ']' :: inside => (eightGroups? inside.reverse).map bracketed
      | _ => none
  | _ => do
      let name ← (unescaped? text).bind Domain.ascii?
      if name.isEmpty then none
      else if endsInNumber name then ofNumbers? name
      else some name

/-- A host that is not looked at: its characters stand for themselves. -/
def verbatim? (text : List Char) : Option (List Char) :=
  if text.any fun c => c == '\x00' || (Domain.forbidden.contains c && c != '%' && c != '\x7f') then none
  else some (escape [] text)

end BuildHerald.Http.Host
