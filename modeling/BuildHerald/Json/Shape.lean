import BuildHerald.Json.Printer
import BuildHerald.Text.Quoted

namespace BuildHerald.Json

/-- Why a tree does not have a wanted shape. -/
inductive Mismatch
  | wrongKind (found : Tree) (wanted : String)
  | outOfRange (value : Int) (wanted : String)
  | unknownCase (wanted : String)
  | missing (field : String)
  | repeated (field : String)
  /-- An array holds more items than a record has fields. -/
  | surplus (length : Nat)
  /-- An array ends before a field that may not be left out. -/
  | tooFew (length : Nat) (title : String) (fields : Nat)
  /-- A string has no text, or a number no value. -/
  | unreadable

namespace Mismatch

/-- What a tree is called in a message. -/
def describe : Tree → String
  | .null => "null"
  | .bool value => "boolean `" ++ (if value then "true" else "false") ++ "`"
  | .number (some (.int value)) => "integer `" ++ toString value ++ "`"
  | .number (some (.float negative units)) =>
      "floating point `" ++ Printer.floatLayout.write negative units ++ "`"
  | .number none => "number"
  | .string (some text) => "string " ++ Text.quoted text
  | .string none => "string"
  | .array _ => "sequence"
  | .object _ => "map"

/-- The wording of the error. -/
def message : Mismatch → String
  | wrongKind found wanted => "invalid type: " ++ describe found ++ ", expected " ++ wanted
  | outOfRange value wanted =>
      "invalid value: integer `" ++ toString value ++ "`, expected " ++ wanted
  | unknownCase wanted => "unknown variant, expected " ++ wanted
  | missing field => "missing field `" ++ field ++ "`"
  | repeated field => "duplicate field `" ++ field ++ "`"
  | surplus length =>
      "invalid length " ++ toString length ++ ", expected fewer elements in array"
  | tooFew length title fields =>
      "invalid length " ++ toString length ++ ", expected struct " ++ title ++ " with " ++
        toString fields ++ (if fields = 1 then " element" else " elements")
  | unreadable => "unreadable text or number"

end Mismatch

/-- A way to read trees of one shape. -/
abbrev Shape (α : Type) := Tree → Except Mismatch α

namespace Shape

variable {α : Type}

def text : Shape String
  | .string (some text) => .ok text
  | .string none => .error .unreadable
  | tree => .error (.wrongKind tree "a string")

def bool : Shape Bool
  | .bool value => .ok value
  | tree => .error (.wrongKind tree "a boolean")

/-- An integer from `least` to `greatest`. -/
def int (least greatest : Int) (wanted : String) : Shape Int
  | .number (some (.int value)) =>
      if least ≤ value ∧ value ≤ greatest then .ok value else .error (.outOfRange value wanted)
  | .number none => .error .unreadable
  | tree => .error (.wrongKind tree wanted)

/-- A natural number of 64 bits. -/
def word (tree : Tree) : Except Mismatch Nat :=
  (int 0 (Int.pow 2 64 - 1) "u64" tree).map Int.toNat

def list (item : Shape α) : Shape (List α)
  | .array items => items.mapM item
  | tree => .error (.wrongKind tree "a sequence")

/-- A value of the given shape, or null. -/
def nullable (shape : Shape α) : Shape (Option α)
  | .null => .ok none
  | tree => (shape tree).map some

/-- One of several named cases, written as its name or as an object with null under that name. -/
def oneOf (cases : List (String × α)) (wanted : String) : Shape α
  | .string (some name) | .object [(some name, .null)] =>
      match cases.find? (·.1 == name) with
      | some (_, value) => .ok value
      | none => .error (.unknownCase wanted)
  | tree => .error (.wrongKind tree wanted)

/-- Any value all parts of which are readable, inside `outer` arrays and objects of its document. -/
def any (outer : Nat) : Shape Value := fun tree =>
  match tree.valueWithin? outer with
  | some value => .ok value
  | none => .error .unreadable

end Shape

/-- A field of a record: its name, whether it may be left out, and what must hold of it. -/
structure Field where
  name : String
  optional : Bool
  admits : Tree → Except Mismatch Unit

namespace Field

variable {α : Type}

def required (name : String) (shape : Shape α) : Field :=
  ⟨name, false, fun tree => (shape tree).map fun _ => ()⟩

def allowed (name : String) (shape : Shape α) : Field :=
  ⟨name, true, fun tree => (shape tree).map fun _ => ()⟩

end Field

/-- The members of a record, each admitted by its field. -/
abbrev Record := List (String × Tree)

namespace Record

variable {α : Type}

/-- Reads a record written as an array, field by field in order. -/
def positional (title : String) (total length : Nat) (index : Nat) :
    List Field → List Tree → Except Mismatch Record
  | [], [] => .ok []
  | [], _ :: _ => .error (.surplus length)
  | field :: fields, [] =>
      if field.optional then positional title total length (index + 1) fields []
      else .error (.tooFew index title total)
  | field :: fields, item :: items => do
      field.admits item
      let record ← positional title total length (index + 1) fields items
      .ok ((field.name, item) :: record)

/-- Reads the members of a record written as an object. Members that are no fields are passed over,
and a field may come only once. -/
def named (fields : List Field) (held : Record) :
    List (Option String × Tree) → Except Mismatch Record
  | [] => .ok held
  | (none, _) :: _ => .error .unreadable
  | (some name, item) :: rest =>
      match fields.find? (·.name == name) with
      | none => named fields held rest
      | some field =>
          if held.any (·.1 == name) then .error (.repeated name)
          else do
            field.admits item
            named fields ((name, item) :: held) rest

/-- Reads a record, written as an object or as an array. -/
def ofTree (title : String) (fields : List Field) : Tree → Except Mismatch Record
  | .array items => positional title fields.length items.length 0 fields items
  | .object members => do
      let record ← named fields [] members
      match fields.find? fun field => !field.optional && !record.any (·.1 == field.name) with
      | some field => .error (.missing field.name)
      | none => .ok record
  | tree => .error (.wrongKind tree ("struct " ++ title))

/-- A field that may not be left out. -/
def get (record : Record) (name : String) (shape : Shape α) : Except Mismatch α :=
  match record.find? (·.1 == name) with
  | some (_, item) => shape item
  | none => .error (.missing name)

/-- A field that may be left out. -/
def getD (record : Record) (name : String) (shape : Shape α) (default : α) : Except Mismatch α :=
  match record.find? (·.1 == name) with
  | some (_, item) => shape item
  | none => .ok default

end Record

end BuildHerald.Json
