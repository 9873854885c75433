import BuildHerald.Dialogue
import BuildHerald.Fault
import BuildHerald.Notification

namespace BuildHerald.Herald

/-- Stands for the issuer of a command: lines can be sent there until it is closed. -/
abbrev Ticket := Nat

/-- What is paused or unpaused. -/
inductive Scope
  | job
  | pipeline
  deriving DecidableEq, Repr

/-- What the herald has others do. -/
inductive Errand
  /-- Get the transcript of a build. -/
  | transcribe (build : Nat)
  /-- Start a build of a job. -/
  | start (job : Job)
  /-- Pause a job or its pipeline, or let it go on. -/
  | setPaused (scope : Scope) (job : Job) (paused : Bool)
  /-- Deliver a notification. -/
  | notify (notification : Notification)
  /-- Send a line to the issuer of a command. -/
  | reply (ticket : Ticket) (line : String)
  /-- Tell the issuer of a command that no more lines will come. -/
  | close (ticket : Ticket)

/-- What comes back from an errand: the transcript, the id of the new build, whether anything was
changed, whether the notification was delivered, or nothing. -/
@[reducible] def Errand.Answer : Errand → Type
  | transcribe _ => String
  | start _ => Except ServerFault Nat
  | setPaused .. => Except ServerFault Bool
  | notify _ => Except ChatFault Unit
  | reply .. => Unit
  | close _ => Unit

/-- A course of errands. -/
abbrev Course := Dialogue Errand Errand.Answer

namespace Course

def transcribe (build : Nat) : Course String :=
  .ask (.transcribe build) .done

def start (job : Job) : Course (Except ServerFault Nat) :=
  .ask (.start job) .done

def setPaused (scope : Scope) (job : Job) (paused : Bool) : Course (Except ServerFault Bool) :=
  .ask (.setPaused scope job paused) .done

def notify (notification : Notification) : Course (Except ChatFault Unit) :=
  .ask (.notify notification) .done

def reply (ticket : Ticket) (line : String) : Course Unit :=
  .ask (.reply ticket line) .done

def close (ticket : Ticket) : Course Unit :=
  .ask (.close ticket) .done

end Course

end BuildHerald.Herald
