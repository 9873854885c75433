import BuildHerald.Text.Numeral
import BuildHerald.Text.Split

namespace BuildHerald.Server.Link

/-- The cursor in a query: the value of the first pair under `since` that is a number of 64 bits. -/
def cursorOfQuery? (query : List Char) : Option Nat :=
  (Text.pieces (· == '&') query).findSome? fun pair =>
    match Text.splitOnce '=' pair with
    | some (key, value) =>
        if key = "since".toList then (Text.readNumeral Text.wordBound value).toOption else none
    | none => none

/-- The cursor in the query of the address between the angle brackets of an entry. -/
def cursorOfEntry? (entry : List Char) : Option Nat := do
  let (_, afterOpening) ← Text.splitOnce '<' entry
  let (address, _) ← Text.splitOnce '>' afterOpening
  let (_, query) ← Text.splitOnce '?' address
  cursorOfQuery? query

/-- The cursor of the next page in the value of a link header: that of the first entry that is marked
as next and has one. -/
def nextCursor? (header : String) : Option Nat :=
  ((Text.pieces (· == ',') header.toList).filter
    (Text.occursIn "rel=\"next\"".toList)).findSome? cursorOfEntry?

end BuildHerald.Server.Link
