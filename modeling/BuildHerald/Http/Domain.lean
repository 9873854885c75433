import BuildHerald.Http.Domain.Mapping
import BuildHerald.Text.Composition
import BuildHerald.Text.Direction
import BuildHerald.Text.Joining
import BuildHerald.Text.Punycode

namespace BuildHerald.Http.Domain

open BuildHerald.Text

/-- The characters that no name of a host contains, besides controls. -/
def forbidden : List Char :=
  [' ', '#', '/', ':', '<', '>', '?', '@', '[', '\\', ']', '^', '|', '%', '\x7f']

/-- The start of a label that tells in ASCII which characters it is made of. -/
def mark : List Char := "xn--".toList

/-- How many characters a label with others than ASCII may have. -/
def longestLabel : Nat := 1000

/-- How many characters may tell what a label is made of. -/
def longestCode : Nat := 2000

def isAscii (text : List Char) : Bool :=
  text.all fun c => c.toNat < 128

/-- A label of a name. -/
structure Label where
  /-- The characters that it means. -/
  meant : List Char
  /-- Its form in ASCII. -/
  written : List Char

/-- The label that a text means. -/
def Label.ofText? (text : List Char) : Option Label :=
  if mark.isPrefixOf text then do
    let code := text.drop mark.length
    let meant ← if longestCode < code.length || !isAscii code then none else Punycode.decode? code
    if isAscii meant || Composition.normal meant != meant ||
        meant.any (fun c => Mapping.of? c != some [c]) then none
    else some ⟨meant, text⟩
  else if isAscii text then some ⟨text, text⟩
  else if longestLabel < text.length then none
  else some ⟨text, mark ++ Punycode.encode text⟩

/-- Whether a label may stand in a name by itself. -/
def Label.isValid (label : Label) : Bool :=
  !label.meant.any (fun c => c < ' ' || forbidden.contains c) &&
    !label.meant.head?.any Marks.isMark && Joining.isMeant [] label.meant

/-- The labels of a name. Where something is written from right to left, every label must be steady. -/
def labels? (name : List Char) : Option (List Label) := do
  let mapped ← name.mapM Mapping.of?
  let labels ← (pieces (· == '.') (Composition.normal mapped.flatten)).mapM Label.ofText?
  if labels.all Label.isValid &&
      (labels.all (fun label => Direction.isSteady label.meant) ||
        !labels.any (fun label => Direction.isMixed label.meant)) then some labels
  else none

/-- A name in ASCII. -/
def ascii? (name : List Char) : Option (List Char) :=
  (labels? name).map fun labels => ['.'].intercalate (labels.map Label.written)

end BuildHerald.Http.Domain
