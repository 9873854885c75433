import BuildHerald.Herald.Desk
import BuildHerald.Rehearsal.Supply

namespace BuildHerald.Rehearsal

open BuildHerald.Feed BuildHerald.Herald BuildHerald.Time BuildHerald.Chat

/-- A whole watch at work: a feed, a herald that takes its builds, and commands that are given at set
times. -/
structure Performance where
  settings : Settings
  /-- The time of day at the beginning. -/
  start : Instant
  now : Nat
  supply : Supply
  desk : Desk
  script : Script
  /-- When the answer to the herald's last errand comes; nothing if it never does. -/
  answeredAt : Option Nat
  /-- Commands that are still to be taken: when each is given, and its ticket. -/
  commands : List (Nat × Ticket × Command)
  /-- When the last command has been given, if there is an end. -/
  commandsEndAt : Option Nat
  cancelAt : Option Nat
  /-- The errands so far, with their times, last one first. -/
  errands : List (Nat × Errand)
  endedAt : Option Nat

namespace Performance

/-- The time of day. -/
def clock (performance : Performance) (now : Nat) : Instant :=
  ⟨performance.start.nanos + now * 1000000⟩

/-- Notes the end when the desk is done. -/
def settled (performance : Performance) : Performance :=
  match performance.desk with
  | .over => { performance with endedAt := some performance.now }
  | _ => performance

/-- Everything is stopped. -/
def cancellation (performance : Performance) : Wake Performance :=
  performance.cancelAt.map fun time =>
    (time, settled { performance with
      now := time
      desk := .over
      supply := performance.supply.cancel })

/-- The herald takes its next step in handling an input: it is done, or it goes on an errand. -/
def working (performance : Performance) : Wake Performance :=
  match performance.desk with
  | .busy course buildsOpen commandsOpen =>
      performance.answeredAt.map fun time =>
        let performance := { performance with now := time }
        match course with
        | .done herald =>
            (time, settled { performance with desk := .idle herald buildsOpen commandsOpen })
        | .ask errand next =>
            let performance :=
              { performance with errands := (time, errand) :: performance.errands }
            match performance.script.answer errand with
            | (.after millis answer, script) =>
                (time, { performance with
                  script := script
                  answeredAt := some (time + millis)
                  desk := .busy (next answer) buildsOpen commandsOpen })
            | (.never, script) =>
                (time, { performance with script := script, answeredAt := none })
  | _ => none

/-- The herald takes an input at a time. -/
def taking (performance : Performance) (time : Nat) (input : Input) : Performance :=
  { performance with
    now := time
    answeredAt := some time
    desk := performance.desk.take performance.settings (performance.clock time) input }

/-- The herald takes a build, or finds that none will come. -/
def takingBuild (performance : Performance) : Wake Performance :=
  if performance.desk.takesBuilds then
    match performance.supply.slot with
    | some build =>
        some (performance.now,
          { performance with supply := performance.supply.take }.taking performance.now
            (.build build))
    | none =>
        if performance.supply.exhausted then
          some (performance.now, settled { performance with desk := performance.desk.endBuilds })
        else none
  else none

/-- The herald takes a command, or finds that none will come. -/
def takingCommand (performance : Performance) : Wake Performance :=
  if performance.desk.takesCommands then
    let ending : Wake Performance := performance.commandsEndAt.map fun time =>
      let time := max performance.now time
      (time, settled { performance with now := time, desk := performance.desk.endCommands })
    match performance.commands with
    | [] => ending
    | (given, ticket, command) :: rest =>
        if performance.commandsEndAt.any (· < given) then ending
        else
          let time := max performance.now given
          some (time,
            { performance with commands := rest }.taking time (.command ticket command))
  else none

/-- Something happens on the side of the feed. -/
def supplying (performance : Performance) : Wake Performance :=
  (performance.supply.change performance.now performance.script).map
    fun (time, supply, script) =>
      (time, { performance with now := time, supply := supply, script := script })

/-- The next change. There is none after the end. -/
def change (performance : Performance) : Wake Performance :=
  if performance.endedAt.isSome then none
  else
    .earliest [performance.cancellation, performance.working, performance.takingBuild,
      performance.takingCommand, performance.supplying]

/-- The watch before anything has happened. -/
def before (settings : Settings) (start : Instant) (pageSize interval : Nat) (script : Script)
    (commands : List (Nat × Ticket × Command)) (commandsEndAt cancelAt : Option Nat) :
    Performance :=
  let (supply, script) := Supply.start pageSize interval script
  { settings, start, now := 0, supply, desk := .fresh, script, answeredAt := none, commands,
    commandsEndAt, cancelAt, errands := [], endedAt := none }

/-- How many changes there can be up to a point in time: for each interval a query and its answer, for
each build a place taken twice, and for each input no more than six steps. -/
def fuel (performance : Performance) (horizon : Nat) : Nat :=
  let builds := performance.script.listings.foldl (fun count answer =>
    match answer with
    | .after _ (.ok listing) => count + listing.builds.length
    | _ => count) 0
  2 * horizon + 8 * builds + 8 * performance.commands.length + 16

/-- The watch as it stands at a point in time. -/
def playedUntil (performance : Performance) (horizon : Nat) : Performance :=
  play change horizon (performance.fuel horizon) performance

/-- What has been sent to a ticket, with the times; at last that it is closed. When the watch ends,
every ticket given out by then is closed. -/
def sentTo (performance : Performance) (ticket : Ticket) (given : Nat) :
    List (Nat × Option String) :=
  let sent := performance.errands.reverse.filterMap fun (time, errand) =>
    match errand with
    | .reply receiver line => if receiver = ticket then some (time, some line) else none
    | .close receiver => if receiver = ticket then some (time, none) else none
    | _ => none
  match performance.endedAt with
  | some ended =>
      if given ≤ ended && !sent.any (·.2.isNone) then sent ++ [(ended, none)] else sent
  | none => sent

end Performance

end BuildHerald.Rehearsal
