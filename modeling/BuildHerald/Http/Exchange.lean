import BuildHerald.Dialogue
import BuildHerald.Http.Message
import BuildHerald.Text.Base64

namespace BuildHerald.Http

/-- A course of requests, each answered before the next. -/
abbrev Exchange := Dialogue Request fun _ => Outcome

/-- A request as it is asked for: where it goes is not yet understood. -/
structure Draft where
  method : Method
  address : String
  accept : String := acceptsAnything
  authorization : Option String := none
  body : Option Json.Value := none

/-- Why a request has no response. -/
inductive Fault
  /-- It was never sent. -/
  | unsendable (address : Option String)
  /-- The connection failed before the head of a response was there. -/
  | lost (address : String)
  deriving DecidableEq, Repr

namespace Fault

/-- The wording of a fault without the address. -/
def brief : Fault → String
  | unsendable _ => "builder error"
  | lost _ => "error sending request"

def address? : Fault → Option String
  | unsendable address => address
  | lost address => some address

/-- The wording of a fault. -/
def message (fault : Fault) : String :=
  match fault.address? with
  | some address => fault.brief ++ " for url (" ++ address ++ ")"
  | none => fault.brief

end Fault

/-- What shows who one is by name and password. -/
def basicLogin (name password : List Char) : String :=
  "Basic " ++ String.ofList (Text.Base64.encode (Text.Utf8.encode (name ++ ':' :: password)))

/-- Whether a text can be the value of a header: it has no control characters but tabs. -/
def isHeaderValue (text : String) : Bool :=
  text.toList.all fun c => c == '\t' || (' ' ≤ c && c != '\x7f')

/-- The request that a draft means. A login in the address is shown in a header instead. -/
def Draft.request (draft : Draft) : Except Fault Request :=
  match Url.ofText? draft.address with
  | none => .error (.unsendable none)
  | some given =>
      if !given.namesHost then .error (.unsendable (some given.text))
      else
        let url := if given.login?.isSome then given.withoutLogin else given
        if !(draft.authorization.all isHeaderValue) then .error (.unsendable none)
        else if !(url.isWeb && url.isSendable) then .error (.unsendable (some url.text))
        else .ok {
          method := draft.method
          url := url
          accept := draft.accept
          authorization :=
            (given.login?.map fun (name, password) => basicLogin name password).toList ++
              draft.authorization.toList
          body := draft.body }

/-- Sends the request that a draft means. -/
def Draft.send (draft : Draft) : Exchange (Except Fault Response) :=
  match draft.request with
  | .error fault => pure (.error fault)
  | .ok request => do
      match ← Dialogue.put request with
      | some response => pure (.ok response)
      | none => pure (.error (.lost request.url.text))

end BuildHerald.Http
