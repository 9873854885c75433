import BuildHerald.Herald.Basic

namespace BuildHerald.Herald

open BuildHerald.Time

/-- A herald at work: it handles one input at a time, and takes inputs of two kinds as long as there
are any. -/
inductive Desk
  /-- Ready for an input of either kind that has not come to its end. -/
  | ready (herald : Herald) (buildsOpen commandsOpen : Bool)
  /-- In the middle of handling an input. -/
  | busy (course : Course Herald) (buildsOpen commandsOpen : Bool)
  /-- Done. -/
  | over

namespace Desk

/-- A desk with nothing to do: ready as long as some input may come. -/
def idle (herald : Herald) (buildsOpen commandsOpen : Bool) : Desk :=
  if buildsOpen || commandsOpen then ready herald buildsOpen commandsOpen else .over

def fresh : Desk :=
  idle Herald.fresh true true

/-- Whether a build would be taken now. -/
def takesBuilds : Desk → Bool
  | ready _ buildsOpen _ => buildsOpen
  | _ => false

/-- Whether a command would be taken now. -/
def takesCommands : Desk → Bool
  | ready _ _ commandsOpen => commandsOpen
  | _ => false

/-- Begins to handle an input. -/
def take (settings : Settings) (now : Instant) (input : Input) : Desk → Desk
  | ready herald buildsOpen commandsOpen =>
      busy (herald.handle settings now input) buildsOpen commandsOpen
  | desk => desk

/-- No more builds will come. -/
def endBuilds : Desk → Desk
  | ready herald _ commandsOpen => idle herald false commandsOpen
  | desk => desk

/-- No more commands will come. -/
def endCommands : Desk → Desk
  | ready herald buildsOpen _ => idle herald buildsOpen false
  | desk => desk

end Desk

end BuildHerald.Herald
