import BuildHerald.Http.Arrival
import BuildHerald.Http.Written

namespace BuildHerald.Rehearsal

open BuildHerald.Http

/-- How the body of a response is sent. -/
inductive Content
  /-- As a whole, and `missing` bytes shorter than is said before. -/
  | whole (bytes : List UInt8) (missing : Nat)
  /-- In pieces, of which the last one may never be sent. -/
  | pieces (sent : List (List UInt8)) (ended : Bool)

/-- What a server does when it is asked something. -/
inductive Served
  /-- It does not answer. -/
  | silence
  | response (status : Nat) (headers : List (List UInt8 × List UInt8)) (content : Content)

namespace Content

/-- The header that says how a body is sent. -/
def framing : Content → String
  | whole bytes missing => "content-length: " ++ toString (bytes.length + missing)
  | pieces _ _ => "transfer-encoding: chunked"

/-- A number in hexadecimal digits. -/
def sizeText (n : Nat) : String :=
  String.ofList (Nat.toDigits 16 n)

/-- A piece of a body in writing. A piece without bytes would end the body, and is left out. -/
def chunk (piece : List UInt8) : List UInt8 :=
  if piece.isEmpty then []
  else Text.Utf8.ofString (sizeText piece.length ++ lineEnd) ++ piece ++ Text.Utf8.ofString lineEnd

/-- A body in writing. -/
def written : Content → List UInt8
  | whole bytes _ => bytes
  | pieces sent ended =>
      sent.flatMap chunk ++
        (if ended then Text.Utf8.ofString ("0" ++ lineEnd ++ lineEnd) else [])

end Content

namespace Served

/-- A response without headers. -/
def plain (status : Nat) (body : String) : Served :=
  .response status [] (.whole (Text.Utf8.ofString body) 0)

/-- A header in writing. -/
def headerLine (field : List UInt8 × List UInt8) : List UInt8 :=
  field.1 ++ Text.Utf8.ofString ": " ++ field.2 ++ Text.Utf8.ofString lineEnd

/-- What a server sends, in writing. -/
def written : Served → List UInt8
  | silence => []
  | response status headers content =>
      Text.Utf8.ofString ("HTTP/1.1 " ++ toString status ++ " " ++ lineEnd) ++
        headers.flatMap headerLine ++
        Text.Utf8.ofString (content.framing ++ lineEnd ++ "connection: close" ++ lineEnd ++ lineEnd) ++
        content.written

/-- What comes of a request that is served in this way. -/
def outcome (served : Served) : Outcome :=
  (Arrival.fresh.take served.written).close.outcome

end Served

end BuildHerald.Rehearsal
