import BuildHerald.Feed.Watch
import BuildHerald.Herald.Errand
import BuildHerald.Transcript

namespace BuildHerald.Rehearsal

open BuildHerald.Herald

/-- An answer that comes after a while, in milliseconds, or never. -/
inductive Timed (α : Type)
  | after (millis : Nat) (answer : α)
  | never

/-- An answer at once. -/
def Timed.now {α : Type} (answer : α) : Timed α :=
  .after 0 answer

/-- What a server and a chat are going to answer. Where answers come in a list, each is given once. -/
structure Script where
  listings : List (Timed Feed.Reply)
  starts : List (Timed (Except ServerFault Nat))
  pauses : List (Timed (Except ServerFault Bool))
  sources : List (Nat × Transcript.Source)
  deliveries : List (Except ChatFault Unit)

namespace Script

/-- The answer to a query for builds. After the last one there are no more builds. -/
def list (script : Script) : Timed Feed.Reply × Script :=
  match script.listings with
  | [] => (.now (.ok ⟨[], none⟩), script)
  | answer :: rest => (answer, { script with listings := rest })

/-- The answer to an errand. After the last ones no job can be found to be started, every pause
changes something, and every notification is delivered. -/
def answer (script : Script) : (errand : Errand) → Timed errand.Answer × Script
  | .transcribe build =>
      let source := ((script.sources.find? (·.1 == build)).map (·.2)).getD .absent
      let (text, took) := Transcript.ofSource source
      (.after took text, script)
  | .start job =>
      match script.starts with
      | [] => (.now (.error (.notFound job.display)), script)
      | answer :: rest => (answer, { script with starts := rest })
  | .setPaused .. =>
      match script.pauses with
      | [] => (.now (.ok true), script)
      | answer :: rest => (answer, { script with pauses := rest })
  | .notify _ =>
      match script.deliveries with
      | [] => (.now (.ok ()), script)
      | answer :: rest => (.now answer, { script with deliveries := rest })
  | .reply .. => (.now (), script)
  | .close _ => (.now (), script)

end Script

end BuildHerald.Rehearsal
