import BuildHerald.Rehearsal.Script
import BuildHerald.Rehearsal.Timeline

namespace BuildHerald.Rehearsal

open BuildHerald.Feed

/-- A feed at work, with the place for one build between it and whoever takes the builds. -/
structure Supply where
  watch : Watch
  pageSize : Nat
  /-- Milliseconds from one query to the next. -/
  interval : Nat
  /-- The answer that is waited for, and the time it comes. -/
  pending : Option (Nat × Reply)
  /-- When the next query is due. -/
  due : Nat
  /-- The build that has been handed on but not taken yet. -/
  slot : Option Build
  /-- Whether anyone takes builds. -/
  wanted : Bool
  /-- The queries so far, with their times, last one first. -/
  queries : List (Nat × Query)

namespace Supply

/-- Asks the server if an answer is to be waited for from now on. -/
def ask (supply : Supply) (now : Nat) (script : Script) : Supply × Script :=
  match supply.watch.query? supply.pageSize with
  | none => (supply, script)
  | some query =>
      let (answer, script) := script.list
      ({ supply with
          queries := (now, query) :: supply.queries
          pending :=
            match answer with
            | .after millis reply => some (now + millis, reply)
            | .never => none },
        script)

/-- A feed that has just asked its first query. -/
def start (pageSize interval : Nat) (script : Script) : Supply × Script :=
  ask ⟨.starting, pageSize, interval, none, 0, none, true, []⟩ 0 script

/-- Takes in the answer that has come. Queries are due from the first answer on, at regular
intervals; one that is late does not put off the next. -/
def receive (supply : Supply) (now : Nat) (reply : Reply) : Supply :=
  let due :=
    match supply.watch with
    | .starting => now + supply.interval
    | _ => supply.due
  { supply with watch := supply.watch.answered supply.pageSize reply, pending := none, due := due }

/-- The next change on the side of the feed. -/
def change (supply : Supply) (now : Nat) (script : Script) : Wake (Supply × Script) :=
  match supply.watch with
  | .starting | .asking _ =>
      supply.pending.map fun (time, reply) => (time, supply.receive time reply, script)
  | .resting _ =>
      let time := max now supply.due
      some (time, { supply with
        watch := supply.watch.ticked
        due := supply.due + supply.interval }.ask time script)
  | .offering _ build _ =>
      if !supply.wanted then some (now, { supply with watch := .closed }, script)
      else if supply.slot.isNone then
        some (now, { supply with watch := supply.watch.handedOn, slot := some build }, script)
      else none
  | .closed => none

/-- Takes the build that has been handed on. -/
def take (supply : Supply) : Supply :=
  { supply with slot := none }

/-- Whether no build will come any more. -/
def exhausted (supply : Supply) : Bool :=
  match supply.watch with
  | .closed => supply.slot.isNone
  | _ => false

/-- Stops the feed. A build that has been handed on can still be taken. -/
def cancel (supply : Supply) : Supply :=
  { supply with watch := .closed, pending := none }

/-- No one takes builds any more. -/
def abandon (supply : Supply) : Supply :=
  { supply with wanted := false, slot := none }

/-- Whether the feed has come to an end. -/
def isClosed (supply : Supply) : Bool :=
  match supply.watch with
  | .closed => true
  | _ => false

end Supply

end BuildHerald.Rehearsal
