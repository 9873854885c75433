import BuildHerald.Herald.Basic
import BuildHerald.Rehearsal.Clock
import BuildHerald.Rehearsal.Script

namespace BuildHerald.Rehearsal

open BuildHerald.Herald BuildHerald.Time BuildHerald.Chat

/-- A herald whose inputs are given one by one. -/
structure Session where
  herald : Herald
  clock : Clock
  script : Script
  /-- How many tickets have been given out. -/
  tickets : Nat
  /-- The tickets that have been closed, by the herald or by their issuer. -/
  closed : List Ticket

namespace Session

/-- What has been done in a session: the errands of a step, in order. -/
abbrev Errands := List Errand

/-- Runs a course of errands to its end, as if no answer took time. It ends early at an errand that
is never answered. -/
def perform {α : Type} : Course α → Script → Option α × Script × Errands
  | .done result, script => (some result, script, [])
  | .ask errand next, script =>
      match script.answer errand with
      | (.after _ answer, script) =>
          let (result, script, errands) := perform (next answer) script
          (result, script, errand :: errands)
      | (.never, script) => (none, script, [errand])

/-- Whether an errand reaches anyone: nothing is sent to a closed ticket. -/
def reaches (closed : List Ticket) : Errand → Bool
  | .reply ticket _ | .close ticket => !closed.contains ticket
  | _ => true

/-- The tickets that errands close. -/
def closedBy (errands : Errands) : List Ticket :=
  errands.filterMap fun
    | .close ticket => some ticket
    | _ => none

/-- Has the herald handle an input. -/
def handle (session : Session) (settings : Settings) (input : Input) : Session × Errands :=
  let (herald, script, errands) :=
    perform (session.herald.handle settings session.clock.now input) session.script
  ({ session with
      herald := herald.getD session.herald
      script := script
      closed := session.closed ++ closedBy errands },
    errands.filter (reaches session.closed))

/-- A build has finished. -/
def build (session : Session) (settings : Settings) (build : Build) : Session × Errands :=
  session.handle settings (.build build)

/-- A command is given, under the next ticket. -/
def command (session : Session) (settings : Settings) (command : Command) : Session × Errands :=
  { session with tickets := session.tickets + 1 }.handle settings
    (.command session.tickets command)

/-- The issuer of a command does not want to hear more. -/
def hangUp (session : Session) (ticket : Ticket) : Session × Errands :=
  if session.closed.contains ticket then (session, [])
  else ({ session with closed := ticket :: session.closed }, [.close ticket])

end Session

end BuildHerald.Rehearsal
