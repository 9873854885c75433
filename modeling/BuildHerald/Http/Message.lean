import BuildHerald.EventStream.Items
import BuildHerald.Http.MediaType
import BuildHerald.Http.Status
import BuildHerald.Http.Url
import BuildHerald.Json.Reader
import BuildHerald.Text.Charset

namespace BuildHerald.Http

open BuildHerald.Json

inductive Method
  | get
  | post
  | put
  deriving DecidableEq, Repr

def Method.name : Method → String
  | get => "GET"
  | post => "POST"
  | put => "PUT"

/-- A request that can be sent. -/
structure Request where
  method : Method
  url : Url
  /-- What kinds of content are wanted. -/
  accept : String
  /-- What shows the server who sends the request. -/
  authorization : List String
  body : Option Value

/-- What a request accepts if it does not say. -/
def acceptsAnything : String := "*/*"

/-- A value of a header as it arrives: the blanks around it are lost. -/
def headerValue (value : String) : String :=
  let isBlank := fun c => c == ' ' || c == '\t'
  String.ofList (Text.dropEndWhile isBlank (value.toList.dropWhile isBlank))

/-- The headers of a request that say something about it, as they arrive. -/
def Request.headers (request : Request) : List (String × String) :=
  ("accept", headerValue request.accept) ::
    request.authorization.map (fun value => ("authorization", headerValue value)) ++
    (if request.body.isSome then [("content-type", "application/json")] else [])

/-- A response whose head has arrived. -/
structure Response where
  status : Nat
  headers : List (List UInt8 × List UInt8)
  /-- The pieces of the body that arrived. -/
  body : List (List UInt8)
  /-- Whether the whole body arrived. -/
  complete : Bool

/-- What comes of a request: nothing, if the connection fails before the head of a response is there. -/
abbrev Outcome := Option Response

/-- What is said of a body that broke off or is not of the wanted form. -/
def badBody : String := "error decoding response body"

namespace Response

def isSuccess (response : Response) : Bool :=
  Status.isSuccess response.status

/-- The bytes of a body that arrived as a whole. -/
def bytes? (response : Response) : Option (List UInt8) :=
  if response.complete then some response.body.flatten else none

/-- The values of a header, in order: nothing for one that does not consist of visible ASCII
characters and blanks. -/
def values (response : Response) (name : String) : List (Option String) :=
  (response.headers.filter fun field =>
    Text.asciiLower (Text.Utf8.lossy field.1) == name.toList).map fun field =>
      if field.2.all fun b => b == 9 || (32 ≤ b && b < 127) then
        some (String.ofList (Text.Utf8.lossy field.2))
      else none

/-- The values of a header that can be read. -/
def header (response : Response) (name : String) : List String :=
  (response.values name).filterMap id

/-- How the text of a body is written. -/
def charset (response : Response) : Text.Charset :=
  let name := do
    let kind ← (response.values "content-type").head?.join
    MediaType.parameter? "charset" kind.toList
  (name.bind Text.Charset.named?).getD .utf8

/-- The text of a body; empty if it broke off. -/
def text (response : Response) : String :=
  String.ofList (response.charset.decodeMarked (response.bytes?.getD []))

/-- The value of a body of a wanted shape. -/
def read? {α : Type} (response : Response) (shape : Shape α) : Option α := do
  let tree ← response.bytes?.bind Json.ofBytes?
  (shape tree).toOption

/-- The value of a body. -/
def value? (response : Response) : Option Value :=
  response.read? (Shape.any 0)

/-- The body as a stream of pieces, which ends in a failure if the body broke off. -/
def stream (response : Response) : List EventStream.Chunk :=
  response.body.map .ok ++ (if response.complete then [] else [.error badBody])

end Response

end BuildHerald.Http
