import BuildHerald.Http.Domain.Mapping.Table
import BuildHerald.Text.Lowercase
import BuildHerald.Text.Quoted.Table
import BuildHerald.Text.Split

namespace BuildHerald.Http.Domain.Mapping

open BuildHerald.Text

/-- The words of each block. -/
def table : List (Nat × Array (List Char)) :=
  blocks.map fun block =>
    (block.first, (pieces (fun c => c == ' ' || c == '\n') block.words.toList).toArray)

/-- The word for a character, if there is one. -/
def word? (c : Char) : Option (List Char) :=
  table.findSome? fun (first, words) => if first ≤ c.toNat then words[c.toNat - first]? else none

/-- What stands for a character in the name of a host; nothing if no name contains it. ASCII characters
are all taken. -/
def of? (c : Char) : Option (List Char) :=
  if c.toNat < 128 then some (Lowercase.char c)
  else if ignored.contains c then some []
  else if c = '\u200c' ∨ c = '\u200d' then some [c]
  else if Quoted.unprintable.contains c || excluded.contains c then none
  else
    match word? c with
    | some word => some word
    | none => some (if capitals.contains c then [c] else Lowercase.char c)

end BuildHerald.Http.Domain.Mapping
