import BuildHerald.Fault
import BuildHerald.Json.Reader
import BuildHerald.Json.Shape

namespace BuildHerald.EventStream

open Json

/-- The events of a build that its transcript is made from. -/
inductive Event
  | prepare (path : String) (args : List String)
  | start
  | log (text : String)
  | error (message : String)
  | finish (exitStatus : Int)
  deriving DecidableEq, Repr

namespace Event

/-- An event as it is sent: its kind, and data whose shape depends on the kind. -/
structure Envelope where
  kind : String
  data : Value

def envelopeFields : List Field :=
  [.required "event" Shape.text, .allowed "data" (Shape.any 1)]

/-- The shape of an envelope. -/
def envelopeShape : Shape Envelope := fun tree => do
  let record ← Record.ofTree "Envelope" envelopeFields tree
  .ok ⟨← record.get "event" Shape.text, ← record.getD "data" (Shape.any 1) .null⟩

/-- The command line of a task. -/
def commandShape : Shape (String × List String) := fun tree => do
  let record ← Record.ofTree "TaskRunConfig"
    [.required "path" Shape.text, .allowed "args" (Shape.list Shape.text)] tree
  .ok (← record.get "path" Shape.text, ← record.getD "args" (Shape.list Shape.text) [])

/-- A record with one field that may not be left out. -/
def soleField {α : Type} (title name : String) (shape : Shape α) : Shape α := fun tree => do
  let record ← Record.ofTree title [.required name shape] tree
  record.get name shape

/-- A record with one text that may be left out. -/
def soleText (title name : String) : Shape String := fun tree => do
  let record ← Record.ofTree title [.allowed name Shape.text] tree
  record.getD name Shape.text ""

/-- The shape of the data of an event that starts a task off. -/
def prepareShape : Shape Event := fun tree =>
  (soleField "InitializeTaskData" "config" (soleField "TaskConfig" "run" commandShape) tree).map
    fun (path, args) => .prepare path args

def logShape : Shape Event := fun tree =>
  (soleText "LogData" "payload" tree).map .log

def errorShape : Shape Event := fun tree =>
  (soleText "ErrorData" "message" tree).map .error

/-- The shape of the data of an event that ends a task; the exit status is an integer of 32 bits. -/
def finishShape : Shape Event := fun tree =>
  (soleField "FinishTaskData" "exit_status" (Shape.int (-Int.pow 2 31) (Int.pow 2 31 - 1) "i32") tree).map
    .finish

/-- The shape that the data of an event of a given kind must have, if the kind is of interest. -/
def shapeOf? : String → Option (Shape Event)
  | "initialize-task" => some prepareShape
  | "start-task" => some fun _ => .ok start
  | "log" => some logShape
  | "error" => some errorShape
  | "finish-task" => some finishShape
  | _ => none

/-- The event in an envelope, if it is of interest. -/
def ofEnvelope (envelope : Envelope) : Except ServerFault (Option Event) :=
  match shapeOf? envelope.kind with
  | none => .ok none
  | some shape =>
      match shape envelope.data.tree with
      | .ok event => .ok (some event)
      | .error mismatch =>
          .error (.malformedEvent (envelope.kind ++ ": " ++ mismatch.message))

/-- The event in the data of a frame, if it is of interest. -/
def decode (data : String) : Except ServerFault (Option Event) :=
  match Json.ofText? data with
  | none => .error .unreadableEnvelope
  | some tree =>
      match envelopeShape tree with
      | .ok envelope => ofEnvelope envelope
      | .error _ => .error .unreadableEnvelope

end Event

end BuildHerald.EventStream
