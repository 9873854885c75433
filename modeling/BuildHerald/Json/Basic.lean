import BuildHerald.Number.Layout

namespace BuildHerald

/-- JSON values over given kinds of number and of string. -/
inductive Json (ν σ : Type)
  | null
  | bool (value : Bool)
  | number (value : ν)
  | string (text : σ)
  | array (items : List (Json ν σ))
  | object (members : List (σ × Json ν σ))

namespace Json

/-- A number that was read: an integer if it was written as one and fits 64 bits, with or without
sign, else a finite floating-point number given in units. -/
inductive Number
  | int (value : Int)
  | float (negative : Bool) (units : Nat)
  deriving DecidableEq, Repr

/-- A value all parts of which are readable. -/
abbrev Value := Json Number String

/-- What is well formed as JSON. A string holding an ill-formed character or half of a surrogate pair
has no text, and a number beyond the largest floating-point number has no value. -/
abbrev Tree := Json (Option Number) (Option String)

variable {ν σ : Type}

mutual

/-- How many arrays and objects lie inside each other. -/
def depth : Json ν σ → Nat
  | array items => itemsDepth items + 1
  | object members => membersDepth members + 1
  | _ => 0

def itemsDepth : List (Json ν σ) → Nat
  | [] => 0
  | item :: rest => max (depth item) (itemsDepth rest)

def membersDepth : List (σ × Json ν σ) → Nat
  | [] => 0
  | (_, value) :: rest => max (depth value) (membersDepth rest)

end

/-- Puts a member among members in ascending order of names, in place of one of the same name. -/
def insertMember (name : String) (value : Value) : List (String × Value) → List (String × Value)
  | [] => [(name, value)]
  | (other, held) :: rest =>
      if name < other then (name, value) :: (other, held) :: rest
      else if name = other then (name, value) :: rest
      else (other, held) :: insertMember name value rest

namespace Tree

mutual

/-- The value of a tree every part of which is readable. Of members with one name the last counts,
and members come in ascending order of names. -/
def value? : Tree → Option Value
  | null => some null
  | bool value => some (bool value)
  | number value => value.map number
  | string text => text.map string
  | array items => (itemValues? items).map array
  | object members => (memberValues? [] members).map object

def itemValues? : List Tree → Option (List Value)
  | [] => some []
  | item :: rest => do
      let value ← value? item
      let values ← itemValues? rest
      some (value :: values)

def memberValues? (held : List (String × Value)) :
    List (Option String × Tree) → Option (List (String × Value))
  | [] => some held
  | (name, item) :: rest => do
      let name ← name
      let value ← value? item
      memberValues? (insertMember name value held) rest

end

/-- How deep arrays and objects may be nested where a whole value is kept. -/
def depthLimit : Nat := 127

/-- The value of a tree that stands inside `outer` arrays and objects of a document. -/
def valueWithin? (outer : Nat) (tree : Tree) : Option Value :=
  if outer + tree.depth ≤ depthLimit then tree.value? else none

end Tree

namespace Value

mutual

/-- A value as a tree. -/
def tree : Value → Tree
  | null => null
  | bool value => bool value
  | number value => number (some value)
  | string text => string (some text)
  | array items => array (itemTrees items)
  | object members => object (memberTrees members)

def itemTrees : List Value → List Tree
  | [] => []
  | item :: rest => tree item :: itemTrees rest

def memberTrees : List (String × Value) → List (Option String × Tree)
  | [] => []
  | (name, item) :: rest => (some name, tree item) :: memberTrees rest

end

/-- The member of an object with a given name. -/
def get? (name : String) : Value → Option Value
  | object members => (members.find? (·.1 == name)).map (·.2)
  | _ => none

/-- The text of a string. -/
def text? : Value → Option String
  | string text => some text
  | _ => none

/-- The items of an array. -/
def items? : Value → Option (List Value)
  | array items => some items
  | _ => none

/-- The value of an integer with sign of 64 bits. -/
def int64? : Value → Option Int
  | number (.int value) => if -Int.pow 2 63 ≤ value ∧ value < Int.pow 2 63 then some value else none
  | _ => none

end Value

end Json

end BuildHerald
