import BuildHerald.Http.Message
import BuildHerald.Json.Printer

namespace BuildHerald.Http

/-- What ends each line of the head of a message. -/
def lineEnd : String := "\r\n"

/-- The host of a request and, unless it is the usual one, its port. -/
def Request.host (request : Request) : String :=
  match request.url.authority with
  | some authority =>
      String.ofList (authority.host ++
        (authority.port.map fun port => ':' :: (toString port).toList).getD [])
  | none => ""

/-- The body of a request in writing. -/
def Request.payload (request : Request) : List UInt8 :=
  (request.body.map fun value => Text.Utf8.ofString value.text).getD []

/-- The headers that say how a request is sent. -/
def Request.framing (request : Request) : List (String × String) :=
  [("host", request.host), ("connection", "close")] ++
    (match request.method with
      | .get => []
      | .post | .put => [("content-length", toString request.payload.length)])

/-- What a request asks for in the first line of its head. -/
def Request.target (request : Request) : String :=
  let resource := request.url.resource
  String.ofList (if resource.head? = some '/' then resource else '/' :: resource)

/-- A request in writing. -/
def Request.written (request : Request) : List UInt8 :=
  let opening := request.method.name ++ " " ++ request.target ++ " HTTP/1.1" ++ lineEnd
  let fields := (request.framing ++ request.headers).map fun (name, value) =>
    name ++ ": " ++ value ++ lineEnd
  Text.Utf8.ofString (opening ++ String.join fields ++ lineEnd) ++ request.payload

end BuildHerald.Http
