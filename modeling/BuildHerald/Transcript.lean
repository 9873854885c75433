import BuildHerald.EventStream.Items

namespace BuildHerald

open EventStream

/-- A transcript in the making. -/
structure Transcript where
  text : String
  /-- The command line of the task that was initialized last. -/
  command : List String
  deriving DecidableEq, Repr

namespace Transcript

def blank : Transcript :=
  ⟨"", []⟩

/-- Takes in an event. -/
def record (transcript : Transcript) : Event → Transcript
  | .prepare path args => { transcript with command := path :: args }
  | .start =>
      { transcript with
        text := transcript.text ++ ("command: " ++ String.intercalate " " transcript.command ++ "\n") }
  | .log text => { transcript with text := transcript.text ++ text }
  | .error message => { transcript with text := transcript.text ++ (message ++ "\n") }
  | .finish exitStatus =>
      { transcript with text := transcript.text ++ ("\nexit code " ++ toString exitStatus) }

/-- Takes in an item. One that is no event is passed over. -/
def recordItem (transcript : Transcript) : Item → Transcript
  | .ok event => transcript.record event
  | .error _ => transcript

/-- The text of the items of a stream that does not keep one waiting. -/
def ofItems (items : List Item) : String :=
  (items.foldl recordItem blank).text

/-- What comes next on a stream: an item at once, a wait in milliseconds, or nothing ever again. -/
inductive Delivery
  | item (item : Item)
  | wait (millis : Nat)
  | stall

/-- Takes in what is delivered until the stream ends or the deadline has passed, and tells the time at
which that is. An item that is there at the deadline still counts. -/
def recordUntil (deadline : Nat) (transcript : Transcript) (now : Nat) :
    List Delivery → Transcript × Nat
  | [] => (transcript, now)
  | .item item :: rest => (transcript.recordItem item).recordUntil deadline now rest
  | .wait millis :: rest =>
      if now + millis ≤ deadline then transcript.recordUntil deadline (now + millis) rest
      else (transcript, deadline)
  | .stall :: _ => (transcript, deadline)

/-- What the server answers when asked for the events of a build. -/
inductive Source
  /-- The build has no events. -/
  | absent
  /-- There is no answer, ever. -/
  | silent
  | fault (fault : ServerFault)
  | stream (deliveries : List Delivery)
  /-- The answer keeps one waiting, in milliseconds. -/
  | later (millis : Nat) (source : Source)

/-- The transcript that can be had from a source by a deadline, and the time at which that is. The
deadline holds for the answer and for all that comes on its stream. -/
def Source.heldUntil (deadline now : Nat) : Source → Transcript × Nat
  | .absent => (blank, now)
  | .silent => (blank, deadline)
  | .fault _ => (blank, now)
  | .stream deliveries => blank.recordUntil deadline now deliveries
  | .later millis source =>
      if now + millis ≤ deadline then source.heldUntil deadline (now + millis) else (blank, deadline)

/-- How long is spent on the transcript of one build at the most, in milliseconds. -/
def timeLimit : Nat := 60000

/-- The transcript that can be had from a source in the time allowed, and the time it takes. -/
def ofSource (source : Source) : String × Nat :=
  let (transcript, took) := source.heldUntil timeLimit 0
  (transcript.text, took)

end Transcript

end BuildHerald
