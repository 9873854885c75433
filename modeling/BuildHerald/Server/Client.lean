import BuildHerald.Build.Shape
import BuildHerald.Feed.Watch
import BuildHerald.Herald.Errand
import BuildHerald.Http.Exchange
import BuildHerald.Server.Link
import BuildHerald.Settings

namespace BuildHerald.Server

open BuildHerald.Http BuildHerald.Json BuildHerald.Herald

/-- A way to talk to the CI server. -/
structure Client where
  /-- The address of the server, which is also that of its dashboard. -/
  base : String
  /-- What shows the server who one is. -/
  token : Option String
  deriving DecidableEq, Repr

namespace Client

/-- The request for an endpoint. -/
def draft (client : Client) (method : Method) (accept endpoint : String) : Draft where
  method := method
  address := client.base ++ endpoint
  accept := accept
  authorization := client.token

/-- Sends a request for some kind of content and wants it to succeed. -/
def call (client : Client) (method : Method) (accept endpoint : String) :
    Exchange (Except ServerFault Response) := do
  match ← (client.draft method accept endpoint).send with
  | .error fault => pure (.error (.requestFailed endpoint fault.message))
  | .ok response =>
      if response.status = 404 then pure (.error (.notFound endpoint))
      else if response.isSuccess then pure (.ok response)
      else pure (.error (.status endpoint response.status response.text))

/-- Sends a request and wants a response of some shape. -/
def ask {α : Type} (client : Client) (method : Method) (endpoint : String) (shape : Shape α) :
    Exchange (Except ServerFault (α × Response)) := do
  match ← client.call method acceptsAnything endpoint with
  | .error fault => pure (.error fault)
  | .ok response =>
      match response.read? shape with
      | some value => pure (.ok (value, response))
      | none => pure (.error (.invalidResponse endpoint badBody))

/-- A token as the server hands it out. -/
def tokenShape : Shape String := fun tree => do
  let fields : List Field := [.required "type" Shape.text, .required "value" Shape.text]
  let record ← Record.ofTree "AuthToken" fields tree
  let kind ← record.get "type" Shape.text
  let value ← record.get "value" Shape.text
  .ok (kind ++ " " ++ value)

/-- Whether a job or a pipeline is paused, as the server tells it. -/
def pausedShape : Shape Bool := fun tree => do
  let record ← Record.ofTree "PausedState" [.allowed "paused" Shape.bool] tree
  record.getD "paused" Shape.bool false

/-- Gets a token for a name and a password. -/
def fetchToken (base team name password : String) : Exchange (Except ServerFault String) := do
  let draft : Draft := {
    method := .get
    address := base ++ "/api/v1/teams/" ++ team ++ "/auth/token"
    authorization := some (basicLogin name.toList password.toList) }
  match ← draft.send with
  | .error fault => pure (.error (.authFailed team fault.message))
  | .ok response =>
      if !response.isSuccess then
        pure (.error (.authFailed team ("HTTP " ++ Status.text response.status)))
      else
        match response.read? tokenShape with
        | some token => pure (.ok token)
        | none => pure (.error (.authFailed team badBody))

/-- Connects to the server. Nothing is sent unless a token has to be got. -/
def connect (connection : Settings.Connection) : Exchange (Except ServerFault Client) := do
  let base := Settings.withoutTrailingSlashes connection.url
  match connection.login with
  | .none => pure (.ok ⟨base, none⟩)
  | .token token => pure (.ok ⟨base, some token⟩)
  | .basic name password => do
      match ← fetchToken base connection.team name password with
      | .ok token => pure (.ok ⟨base, some token⟩)
      | .error fault => pure (.error fault)

/-- The endpoint of a query for builds. -/
def buildsEndpoint (query : Feed.Query) : String :=
  "/api/v1/builds?limit=" ++ toString query.limit ++
    (query.after.map fun cursor => "&until=" ++ toString cursor).getD ""

/-- Lists builds. -/
def list (client : Client) (query : Feed.Query) : Exchange Feed.Reply := do
  match ← client.ask .get (buildsEndpoint query) (Shape.list Build.shape) with
  | .error fault => pure (.error fault)
  | .ok (builds, response) =>
      pure (.ok ⟨builds, (response.header "link").findSome? Link.nextCursor?⟩)

/-- The kind of content of an event stream. -/
def eventStreamKind : String := "text/event-stream"

/-- Gets the events of a build, if the server has any. -/
def events (client : Client) (build : Nat) :
    Exchange (Except ServerFault (Option (List EventStream.Item))) := do
  let endpoint := "/api/v1/builds/" ++ toString build ++ "/events"
  match ← client.call .get eventStreamKind endpoint with
  | .ok response => pure (.ok (some (EventStream.items response.stream)))
  | .error (.notFound _) => pure (.ok none)
  | .error fault => pure (.error fault)

/-- The endpoint of a pipeline. -/
def pipelineEndpoint (job : Job) : String :=
  "/api/v1/teams/" ++ job.team ++ "/pipelines/" ++ job.pipeline

/-- The endpoint of a job. -/
def jobEndpoint (job : Job) : String :=
  pipelineEndpoint job ++ "/jobs/" ++ job.name

/-- Starts a build of a job. -/
def start (client : Client) (job : Job) : Exchange (Except ServerFault Build) := do
  let answer ← client.ask .post (jobEndpoint job ++ "/builds") Build.shape
  pure (answer.map (·.1))

/-- The endpoint of a job or of its pipeline. -/
def endpointOf (job : Job) : Scope → String
  | .job => jobEndpoint job
  | .pipeline => pipelineEndpoint job

/-- What is done to an endpoint to pause it or to let it go on. -/
def pauseAction (paused : Bool) : String :=
  if paused then "/pause" else "/unpause"

/-- Pauses a job or its pipeline, or lets it go on, and tells whether that changed anything. -/
def setPaused (client : Client) (scope : Scope) (job : Job) (paused : Bool) :
    Exchange (Except ServerFault Bool) := do
  let endpoint := endpointOf job scope
  match ← client.ask .get endpoint pausedShape with
  | .error fault => pure (.error fault)
  | .ok (now, _) =>
      if now = paused then pure (.ok false)
      else do
        let done ← client.call .put acceptsAnything (endpoint ++ pauseAction paused)
        pure (done.map fun _ => true)

end Client

end BuildHerald.Server
