import BuildHerald.Rehearsal.Supply

namespace BuildHerald.Rehearsal

open BuildHerald.Feed

/-- A feed with someone who takes its builds. -/
structure FeedRun where
  now : Nat
  supply : Supply
  script : Script
  cancelAt : Option Nat
  /-- When the next build is asked for; nothing once no more are wanted or none will come. -/
  readyAt : Option Nat
  /-- Pauses before each of the builds to come. -/
  delays : List Nat
  /-- How many more builds are wanted, if not all of them. -/
  wanted : Option Nat
  /-- The builds taken, with their times, last one first. -/
  taken : List (Nat × Build)
  /-- When it was found that no more builds would come. -/
  closedAt : Option Nat

namespace FeedRun

/-- Goes for the next build, after the pause before it, or stops taking builds. -/
def goOn (run : FeedRun) : FeedRun :=
  if run.wanted = some 0 then { run with readyAt := none, supply := run.supply.abandon }
  else
    { run with
      readyAt := some (run.now + run.delays.headD 0)
      delays := run.delays.tail
      wanted := run.wanted.map (· - 1) }

def start (pageSize interval : Nat) (script : Script) (cancelAt wanted : Option Nat)
    (delays : List Nat) : FeedRun :=
  let (supply, script) := Supply.start pageSize interval script
  goOn ⟨0, supply, script, cancelAt, none, delays, wanted, [], none⟩

/-- The feed is stopped. -/
def cancellation (run : FeedRun) : Wake FeedRun :=
  run.cancelAt.map fun time =>
    (time, { run with now := time, cancelAt := none, supply := run.supply.cancel })

/-- A build is taken, or none will come. -/
def taking (run : FeedRun) : Wake FeedRun :=
  run.readyAt.bind fun ready =>
    let time := max run.now ready
    match run.supply.slot with
    | some build =>
        some (time, goOn { run with
          now := time
          supply := run.supply.take
          taken := (time, build) :: run.taken })
    | none =>
        if run.supply.exhausted then
          some (time, { run with now := time, readyAt := none, closedAt := some time })
        else none

/-- Something happens on the side of the feed. -/
def supplying (run : FeedRun) : Wake FeedRun :=
  (run.supply.change run.now run.script).map fun (time, supply, script) =>
    (time, { run with now := time, supply := supply, script := script })

/-- The next change. -/
def change (run : FeedRun) : Wake FeedRun :=
  .earliest [run.cancellation, run.taking, run.supplying]

/-- How many changes there can be up to a point in time: for each interval a query and its answer, and
for each build a place taken twice. -/
def fuel (run : FeedRun) (horizon : Nat) : Nat :=
  let builds := run.script.listings.foldl (fun count answer =>
    match answer with
    | .after _ (.ok listing) => count + listing.builds.length
    | _ => count) 0
  2 * horizon + 2 * builds + 8

/-- The feed as it stands at a point in time. -/
def playedUntil (run : FeedRun) (horizon : Nat) : FeedRun :=
  play change horizon (run.fuel horizon) run

end FeedRun

end BuildHerald.Rehearsal
