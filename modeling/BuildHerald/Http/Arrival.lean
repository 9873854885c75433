import BuildHerald.Http.Escape
import BuildHerald.Http.Message
import BuildHerald.Text.Lowercase
import BuildHerald.Text.Numeral
import BuildHerald.Text.Split

namespace BuildHerald.Http

/-- What the next byte of a response belongs to. -/
inductive Stage
  /-- The line with the status. -/
  | opening
  /-- The lines with the headers. -/
  | fields
  /-- A body of which `left` bytes are to come. -/
  | counted (left : Nat)
  /-- A body that goes on until the connection is closed. -/
  | unbounded
  /-- The line with the size of a chunk. -/
  | size
  /-- A chunk of which `left` bytes are to come. -/
  | chunk (left : Nat)
  /-- The line end after a chunk. -/
  | gap
  /-- The lines after the last chunk. -/
  | trailer
  /-- The response is there. -/
  | whole
  /-- This is no response. -/
  | broken
  deriving DecidableEq, Repr

/-- A response that is about to arrive. -/
structure Arrival where
  stage : Stage
  /-- The bytes of the unfinished line, last one first. -/
  line : List UInt8
  /-- The status, if its line is there. -/
  status : Option Nat
  /-- The headers so far, last one first. -/
  headers : List (List UInt8 × List UInt8)
  /-- Whether all headers are there. -/
  headed : Bool
  /-- The bytes of the body so far, last one first. -/
  body : List UInt8

namespace Arrival

def fresh : Arrival :=
  ⟨.opening, [], none, [], false, []⟩

/-- Whether a byte is a space or a tab. -/
def isBlank (b : UInt8) : Bool :=
  b == 32 || b == 9

/-- What a byte that says something about a response can be: a tab, or neither a control nor DEL. -/
def isPrinting (b : UInt8) : Bool :=
  b == 9 || (32 ≤ b && b != 127)

/-- Whether the versions of the protocol are spoken of like this. -/
def isVersion (version : List Char) : Bool :=
  version == "HTTP/1.1".toList || version == "HTTP/1.0".toList

/-- The status in the first line of a response: three digits, which may be followed by a blank and a
reason. -/
def status? (line : List UInt8) : Option Nat :=
  if line.all isPrinting then
    match Text.pieces (· == ' ') (Text.Utf8.lossy line) with
    | version :: code :: _ =>
        if isVersion version && code.length = 3 then
          (Text.readDigits 1000 0 code).toOption.filter (100 ≤ ·)
        else none
    | _ => none
  else none

/-- The characters besides letters and digits that names of headers are made of. -/
def nameSigns : List Char :=
  "!#$%&'*+-.^_\x60|~".toList

/-- Whether the name of a header can contain a byte. -/
def isNaming (b : UInt8) : Bool :=
  let c := Char.ofNat b.toNat
  c.isAlphanum || nameSigns.contains c

/-- Bytes without the blanks around them. -/
def trimmed (bytes : List UInt8) : List UInt8 :=
  ((bytes.dropWhile isBlank).reverse.dropWhile isBlank).reverse

/-- The name and the value in the line of a header. -/
def field? (line : List UInt8) : Option (List UInt8 × List UInt8) :=
  let name := line.takeWhile (· != 58)
  match line.dropWhile (· != 58) with
  | [] => none
  | _ :: value =>
      if !name.isEmpty && name.all isNaming && value.all isPrinting then some (name, trimmed value)
      else none

/-- How many headers a response can have. -/
def mostHeaders : Nat := 100

/-- The values of a header that have arrived, in lower case. -/
def values (arrival : Arrival) (name : String) : List (List Char) :=
  (arrival.headers.reverse.filter fun field =>
    Text.asciiLower (Text.Utf8.lossy field.1) == name.toList).map fun field =>
      Text.asciiLower (Text.Utf8.lossy field.2)

/-- The lengths of the body that headers state. -/
def lengths (arrival : Arrival) : List (List Char) :=
  (arrival.values "content-length").flatMap fun value =>
    (Text.pieces (· == ',') value).map fun digits =>
      Text.dropEndWhile (· == ' ') (digits.dropWhile (· == ' '))

/-- The length of the body, if the headers state one and no other. -/
def length? (arrival : Arrival) : Option Nat :=
  match arrival.lengths.map (Text.readDigits Text.wordBound 0 ·) with
  | .ok length :: others =>
      if arrival.lengths.all (!·.isEmpty) && others.all fun other => other.toOption == some length
      then some length
      else none
  | _ => none

/-- Whether the body comes in chunks. -/
def isChunked (arrival : Arrival) : Bool :=
  match (arrival.values "transfer-encoding").getLast? with
  | some codings =>
      ((Text.pieces (· == ',') codings).getLast?.any fun coding =>
        Text.dropEndWhile (· == ' ') (coding.dropWhile (· == ' ')) == "chunked".toList)
  | none => false

/-- The stage of a body of which some bytes are to come. -/
def counting : Nat → Stage
  | 0 => .whole
  | left => .counted left

/-- Whether a response with this status has no body, whatever its headers say. -/
def isBare (status : Nat) : Bool :=
  status == 101 || status == 204 || status == 304

/-- What follows the head of a response. -/
def afterHead (arrival : Arrival) : Stage :=
  if arrival.status.any isBare then .whole
  else if arrival.isChunked then .size
  else if !(arrival.values "transfer-encoding").isEmpty then .unbounded
  else
    match arrival.length? with
    | some length => counting length
    | none => if arrival.lengths.isEmpty then .unbounded else .broken

/-- Whether another response follows the one with this status. -/
def isInterim (status : Nat) : Bool :=
  status < 200 && status != 101

/-- The head of a response is there. -/
def headDone (arrival : Arrival) : Arrival :=
  if arrival.status.any isInterim then fresh
  else
    let stage := arrival.afterHead
    { arrival with stage := stage, headed := stage != .broken }

/-- The size in the line before a chunk. What follows a semicolon does not count. -/
def size? (line : List UInt8) : Option Nat :=
  let digits := (line.takeWhile (· != 59)).filter (!isBlank ·)
  if digits.isEmpty then none
  else
    digits.foldlM (fun size b => (hexValue? b).map (size * 16 + ·)) 0

/-- Takes in a line. -/
def takeLine (arrival : Arrival) (line : List UInt8) : Arrival :=
  match arrival.stage with
  | .opening =>
      if line.isEmpty then arrival
      else match status? line with
        | some status => { arrival with stage := .fields, status := some status }
        | none => { arrival with stage := .broken }
  | .fields =>
      if line.isEmpty then arrival.headDone
      else if arrival.headers.length = mostHeaders then { arrival with stage := .broken }
      else match field? line with
        | some field => { arrival with headers := field :: arrival.headers }
        | none => { arrival with stage := .broken }
  | .size =>
      match size? line with
      | some 0 => { arrival with stage := .trailer }
      | some size => { arrival with stage := .chunk size }
      | none => { arrival with stage := .broken }
  | .gap => { arrival with stage := if line.isEmpty then .size else .broken }
  | .trailer => if line.isEmpty then { arrival with stage := .whole } else arrival
  | _ => arrival

/-- A line, given with its last byte first, without the carriage return at its end. -/
def finished : List UInt8 → List UInt8
  | 13 :: rest => rest.reverse
  | line => line.reverse

/-- Takes in a byte. -/
def takeByte (arrival : Arrival) (b : UInt8) : Arrival :=
  match arrival.stage with
  | .counted left =>
      { arrival with stage := counting (left - 1), body := b :: arrival.body }
  | .chunk left =>
      { arrival with
        stage := if left ≤ 1 then .gap else .chunk (left - 1)
        body := b :: arrival.body }
  | .unbounded => { arrival with body := b :: arrival.body }
  | .whole | .broken => arrival
  | .opening | .fields | .size | .gap | .trailer =>
      if b = 10 then { arrival with line := [] }.takeLine (finished arrival.line)
      else { arrival with line := b :: arrival.line }

/-- Takes in bytes. -/
def take (arrival : Arrival) (bytes : List UInt8) : Arrival :=
  bytes.foldl takeByte arrival

/-- Whether nothing more is waited for. -/
def isOver (arrival : Arrival) : Bool :=
  arrival.stage == .whole || arrival.stage == .broken

/-- The connection was closed. -/
def close (arrival : Arrival) : Arrival :=
  match arrival.stage with
  | .unbounded => { arrival with stage := .whole }
  | _ => arrival

/-- What has come of the request. -/
def outcome (arrival : Arrival) : Outcome :=
  match arrival.status, arrival.headed with
  | some status, true =>
      some ⟨status, arrival.headers.reverse, [arrival.body.reverse], arrival.stage == .whole⟩
  | _, _ => none

end Arrival

end BuildHerald.Http
