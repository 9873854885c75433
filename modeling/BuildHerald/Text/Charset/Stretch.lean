namespace BuildHerald.Text.Charset

/-- What stands for bytes that mean no character. -/
def lost : Char := '\ufffd'

/-- Characters that are numbered one after another from `first` on. Line ends do not count, and U+FFFD
is where there is no character. -/
structure Stretch where
  first : Nat
  text : String

/-- Characters by number. -/
abbrev Index := Array Char

namespace Index

/-- Adds a stretch behind the others. -/
def add (index : Index) (stretch : Stretch) : Index :=
  index ++ List.replicate (stretch.first - index.size) lost ++
    stretch.text.toList.filter (· != '\n')

/-- The characters of stretches that are given in order. -/
def ofStretches (stretches : List Stretch) : Index :=
  stretches.foldl add #[]

/-- The character of a number. -/
def get? (index : Index) (number : Nat) : Option Char :=
  index[number]?.filter (· != lost)

/-- The characters from `first` up to `last` that an index lacks. -/
def others (index : Index) (first last : Nat) : Index :=
  let blank : Array Bool := (List.replicate (last + 1 - first) true).toArray
  let free := index.foldl (fun free c =>
    if first ≤ c.toNat then free.setIfInBounds (c.toNat - first) false else free) blank
  ((List.range (last + 1 - first)).filterMap fun i =>
    if free[i]?.getD false then some (Char.ofNat (first + i)) else none).toArray

end Index

/-- The text of a byte sequence that is read item by item. For a byte and those after it, `item` gives
the text of the item and how many of the bytes after the first one belong to it. -/
def readItems (item : UInt8 → List UInt8 → List Char × Nat) : List UInt8 → List Char
  | [] => []
  | b :: rest => (item b rest).1 ++ readItems item (rest.drop (item b rest).2)
  termination_by bytes => bytes.length
  decreasing_by
    simp only [List.length_drop, List.length_cons]
    omega

/-- The item of a byte that stands alone. -/
def alone (c : Char) : List Char × Nat :=
  ([c], 0)

/-- How many bytes are lost with those before them when a byte does not fit: none if it can be read by
itself. -/
def spoilt (b : UInt8) : Nat :=
  if b < 0x80 then 0 else 1

/-- The item that begins with a byte which says nothing without the next one. -/
def pairItem (pair? : UInt8 → Option (List Char)) : List UInt8 → List Char × Nat
  | [] => ([lost], 0)
  | b :: _ =>
      match pair? b with
      | some text => (text, 1)
      | none => ([lost], spoilt b)

/-- The place of a byte within a run of bytes. -/
def within? (first last : UInt8) (b : UInt8) : Option Nat :=
  if first ≤ b ∧ b ≤ last then some (b.toNat - first.toNat) else none

/-- The place of a byte within several runs of bytes that are counted through. -/
def among? : List (UInt8 × UInt8) → UInt8 → Option Nat
  | [], _ => none
  | (first, last) :: others, b =>
      match within? first last b with
      | some place => some place
      | none => (among? others b).map (last.toNat + 1 - first.toNat + ·)

end BuildHerald.Text.Charset
