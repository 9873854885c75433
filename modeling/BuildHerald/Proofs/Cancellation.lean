import BuildHerald.Proofs.Timelines
import BuildHerald.Rehearsal.Performance
import Mathlib.Logic.Relation

/-!
Watches that are cancelled.

What is due first comes first, and of what is due at the same time anything may. The feed and the
herald each notice the cancellation by themselves when its time has come, whatever they wait for.
-/

namespace BuildHerald.Proofs.Cancellation

open BuildHerald.Feed
open BuildHerald.Herald
open BuildHerald.Rehearsal
open BuildHerald.Time
open BuildHerald.Chat
open BuildHerald.Proofs.Timelines

/-! ### Turns -/

/-- What is due at some time, and what comes of it. -/
inductive Due (performance : Performance) : Nat → Performance → Prop
  | feedStops {time : Nat} (hcancel : performance.cancelAt = some time)
      (hopen : performance.supply.isClosed = false) :
      Due performance time { performance with now := time, supply := performance.supply.cancel }
  | heraldStops {time : Nat} (hcancel : performance.cancelAt = some time)
      (hopen : performance.endedAt = none) :
      Due performance time (Performance.settled { performance with now := time, desk := .over })
  | bothStop {time : Nat} {after : Performance} (hopen : performance.endedAt = none)
      (hcancelled : performance.cancellation = some (time, after)) : Due performance time after
  | working {time : Nat} {after : Performance}
      (hworking : performance.working = some (time, after)) : Due performance time after
  | takingBuild {time : Nat} {after : Performance}
      (htaking : performance.takingBuild = some (time, after)) : Due performance time after
  | takingCommand {time : Nat} {after : Performance}
      (htaking : performance.takingCommand = some (time, after)) : Due performance time after
  | supplying {time : Nat} {after : Performance}
      (hsupplying : performance.supplying = some (time, after)) : Due performance time after

def Turn (performance after : Performance) : Prop :=
  ∃ time, Due performance time after ∧ ∀ other last, Due performance other last → time ≤ other

/-! ### What a turn adds to the record -/

section Settled

variable (performance : Performance)

@[simp] theorem settled_cancelAt : performance.settled.cancelAt = performance.cancelAt := by
  unfold Performance.settled
  split <;> rfl

@[simp] theorem settled_errands : performance.settled.errands = performance.errands := by
  unfold Performance.settled
  split <;> rfl

@[simp] theorem settled_supply : performance.settled.supply = performance.supply := by
  unfold Performance.settled
  split <;> rfl

@[simp] theorem settled_desk : performance.settled.desk = performance.desk := by
  unfold Performance.settled
  split <;> rfl

theorem endedAt_settled :
    performance.settled.endedAt = performance.endedAt ∨
      performance.settled.endedAt = some performance.now ∧ performance.desk = .over := by
  unfold Performance.settled
  split
  · next hover => exact .inr ⟨rfl, hover⟩
  · exact .inl rfl

end Settled

/-- Whatever is new on record has this time. -/
structure Notes (time : Nat) (performance after : Performance) : Prop where
  cancelAt_eq : after.cancelAt = performance.cancelAt
  errands : ∀ entry ∈ after.errands, entry ∈ performance.errands ∨ entry.1 = time
  queries : ∀ entry ∈ after.supply.queries, entry ∈ performance.supply.queries ∨ entry.1 = time
  stays_over : performance.desk = .over → after.desk = .over
  ended : after.endedAt = performance.endedAt ∨ after.endedAt = some time ∧ after.desk = .over

variable {performance after : Performance} {time limit : Nat}

theorem notes_settled (hnotes : Notes time performance after) (hnow : after.now = time) :
    Notes time performance after.settled := by
  refine ⟨?_, ?_, ?_, ?_, ?_⟩
  · rw [settled_cancelAt]
    exact hnotes.cancelAt_eq
  · rw [settled_errands]
    exact hnotes.errands
  · rw [settled_supply]
    exact hnotes.queries
  · rw [settled_desk]
    exact hnotes.stays_over
  · rw [settled_desk]
    rcases endedAt_settled after with hsame | ⟨hended, hover⟩
    · rw [hsame]
      exact hnotes.ended
    · exact .inr ⟨by rw [hended, hnow], hover⟩

theorem notes_working (hworking : performance.working = some (time, after)) :
    Notes time performance after := by
  unfold Performance.working at hworking
  split at hworking
  · next course buildsOpen commandsOpen hdesk =>
      have hbusy : performance.desk ≠ .over := by rw [hdesk]; exact Desk.noConfusion
      obtain ⟨answered, -, hstep⟩ := Option.map_eq_some_iff.mp hworking
      cases course with
      | done herald =>
          obtain ⟨rfl, rfl⟩ := Prod.mk.inj hstep
          exact notes_settled ⟨rfl, fun _ => .inl, fun _ => .inl, fun hover => absurd hover hbusy,
            .inl rfl⟩ rfl
      | ask errand next =>
          have herrands (entry : Nat × Errand)
              (hmem : entry ∈ (answered, errand) :: performance.errands) :
              entry ∈ performance.errands ∨ entry.1 = answered := by
            rcases List.mem_cons.mp hmem with rfl | hold
            · exact .inr rfl
            · exact .inl hold
          simp only at hstep
          split at hstep
          · obtain ⟨rfl, rfl⟩ := Prod.mk.inj hstep
            exact ⟨rfl, herrands, fun _ => .inl, fun hover => absurd hover hbusy, .inl rfl⟩
          · obtain ⟨rfl, rfl⟩ := Prod.mk.inj hstep
            exact ⟨rfl, herrands, fun _ => .inl, fun hover => absurd hover hbusy, .inl rfl⟩
  · cases hworking

theorem ne_over_of_takesBuilds {desk : Desk} (htakes : desk.takesBuilds = true) : desk ≠ .over := by
  rintro rfl
  cases htakes

theorem ne_over_of_takesCommands {desk : Desk} (htakes : desk.takesCommands = true) :
    desk ≠ .over := by
  rintro rfl
  cases htakes

theorem notes_takingBuild (htaking : performance.takingBuild = some (time, after)) :
    Notes time performance after := by
  unfold Performance.takingBuild at htaking
  split at htaking
  · next htakes =>
      have hbusy := ne_over_of_takesBuilds htakes
      split at htaking
      · obtain ⟨rfl, rfl⟩ := Prod.mk.inj (Option.some.inj htaking)
        exact ⟨rfl, fun _ => .inl, fun _ => .inl, fun hover => absurd hover hbusy, .inl rfl⟩
      · split at htaking
        · obtain ⟨rfl, rfl⟩ := Prod.mk.inj (Option.some.inj htaking)
          exact notes_settled ⟨rfl, fun _ => .inl, fun _ => .inl, fun hover => absurd hover hbusy,
            .inl rfl⟩ rfl
        · cases htaking
  · cases htaking

theorem notes_takingCommand (htaking : performance.takingCommand = some (time, after)) :
    Notes time performance after := by
  unfold Performance.takingCommand at htaking
  split at htaking
  · next htakes =>
      have hbusy := ne_over_of_takesCommands htakes
      have hending (hend : (performance.commandsEndAt.map fun time =>
          (max performance.now time, Performance.settled
            { performance with
              now := max performance.now time, desk := performance.desk.endCommands })) =
            some (time, after)) : Notes time performance after := by
        obtain ⟨ended, -, hstep⟩ := Option.map_eq_some_iff.mp hend
        obtain ⟨rfl, rfl⟩ := Prod.mk.inj hstep
        exact notes_settled ⟨rfl, fun _ => .inl, fun _ => .inl, fun hover => absurd hover hbusy,
          .inl rfl⟩ rfl
      simp only at htaking
      split at htaking
      · exact hending htaking
      · split at htaking
        · exact hending htaking
        · obtain ⟨rfl, rfl⟩ := Prod.mk.inj (Option.some.inj htaking)
          exact ⟨rfl, fun _ => .inl, fun _ => .inl, fun hover => absurd hover hbusy, .inl rfl⟩
  · cases htaking

theorem queries_of_ask {supply : Supply} {now : Nat} {script : Script} {entry : Nat × Query}
    (hmem : entry ∈ (supply.ask now script).1.queries) :
    entry ∈ supply.queries ∨ entry.1 = now := by
  unfold Supply.ask at hmem
  split at hmem
  · exact .inl hmem
  · rcases List.mem_cons.mp hmem with rfl | hold
    · exact .inr rfl
    · exact .inl hold

theorem queries_of_change {supply later : Supply} {now : Nat} {script rest : Script}
    (hchange : supply.change now script = some (time, later, rest)) {entry : Nat × Query}
    (hmem : entry ∈ later.queries) : entry ∈ supply.queries ∨ entry.1 = time := by
  unfold Supply.change at hchange
  split at hchange
  · obtain ⟨⟨answered, reply⟩, -, hstep⟩ := Option.map_eq_some_iff.mp hchange
    cases hstep
    exact .inl hmem
  · obtain ⟨⟨answered, reply⟩, -, hstep⟩ := Option.map_eq_some_iff.mp hchange
    cases hstep
    exact .inl hmem
  · obtain ⟨htime, hstep⟩ := Prod.mk.inj (Option.some.inj hchange)
    have hlater := congrArg (fun step => step.1.queries) hstep
    simp only at hlater
    rw [← hlater] at hmem
    have hasked := queries_of_ask hmem
    rw [← htime]
    exact hasked
  · split at hchange
    · cases hchange
      exact .inl hmem
    · split at hchange
      · cases hchange
        exact .inl hmem
      · cases hchange
  · cases hchange

theorem notes_supplying (hsupplying : performance.supplying = some (time, after)) :
    Notes time performance after := by
  obtain ⟨⟨supplied, supply, script⟩, hchange, hstep⟩ := Option.map_eq_some_iff.mp hsupplying
  obtain ⟨rfl, rfl⟩ := Prod.mk.inj hstep
  exact ⟨rfl, fun _ => .inl, fun _ => queries_of_change hchange, id, .inl rfl⟩

theorem notes_of_due (hdue : Due performance time after) : Notes time performance after := by
  cases hdue with
  | feedStops => exact ⟨rfl, fun _ => .inl, fun _ => .inl, id, .inl rfl⟩
  | heraldStops =>
      exact notes_settled ⟨rfl, fun _ => .inl, fun _ => .inl, fun _ => rfl, .inl rfl⟩ rfl
  | bothStop _ hcancelled =>
      obtain ⟨cancelled, -, hstep⟩ := Option.map_eq_some_iff.mp hcancelled
      obtain ⟨rfl, rfl⟩ := Prod.mk.inj hstep
      exact notes_settled ⟨rfl, fun _ => .inl, fun _ => .inl, fun _ => rfl, .inl rfl⟩ rfl
  | working hworking => exact notes_working hworking
  | takingBuild htaking => exact notes_takingBuild htaking
  | takingCommand htaking => exact notes_takingCommand htaking
  | supplying hsupplying => exact notes_supplying hsupplying

/-! ### Up to the time of cancellation -/

structure Bounded (limit : Nat) (performance : Performance) : Prop where
  cancelAt_eq : performance.cancelAt = some limit
  errands_le : ∀ entry ∈ performance.errands, entry.1 ≤ limit
  queries_le : ∀ entry ∈ performance.supply.queries, entry.1 ≤ limit
  ended : ∀ ended, performance.endedAt = some ended → ended ≤ limit ∧ performance.desk = .over

theorem bounded_of_notes (hbounded : Bounded limit performance)
    (hnotes : Notes time performance after) (hle : time ≤ limit) : Bounded limit after := by
  refine ⟨hnotes.cancelAt_eq.trans hbounded.cancelAt_eq, ?_, ?_, ?_⟩
  · intro entry hmem
    rcases hnotes.errands entry hmem with hold | htime
    · exact hbounded.errands_le entry hold
    · exact htime ▸ hle
  · intro entry hmem
    rcases hnotes.queries entry hmem with hold | htime
    · exact hbounded.queries_le entry hold
    · exact htime ▸ hle
  · intro ended hended
    rcases hnotes.ended with hsame | ⟨hnow, hover⟩
    · obtain ⟨hlimit, hover⟩ := hbounded.ended ended (hsame ▸ hended)
      exact ⟨hlimit, hnotes.stays_over hover⟩
    · obtain rfl : time = ended := Option.some.inj (hnow.symm.trans hended)
      exact ⟨hle, hover⟩

/-- Unless it has ended, the herald can notice the cancellation, and so can the feed unless it is
closed. -/
theorem le_of_turn (hbounded : Bounded limit performance) (hdue : Due performance time after)
    (hfirst : ∀ other last, Due performance other last → time ≤ other) : time ≤ limit := by
  have hherald (hbusy : performance.desk ≠ .over) : time ≤ limit := by
    have hopen : performance.endedAt = none := by
      cases hended : performance.endedAt with
      | none => rfl
      | some ended => exact absurd (hbounded.ended ended hended).2 hbusy
    exact hfirst limit _ (.heraldStops hbounded.cancelAt_eq hopen)
  cases hdue with
  | feedStops hcancel hopen => exact hfirst limit _ (.feedStops hbounded.cancelAt_eq hopen)
  | heraldStops hcancel hopen => exact hfirst limit _ (.heraldStops hbounded.cancelAt_eq hopen)
  | bothStop hopen hcancelled => exact hfirst limit _ (.heraldStops hbounded.cancelAt_eq hopen)
  | working hworking =>
      apply hherald
      intro hover
      rw [Performance.working, hover] at hworking
      cases hworking
  | takingBuild htaking =>
      apply hherald
      intro hover
      rw [Performance.takingBuild, hover] at htaking
      cases htaking
  | takingCommand htaking =>
      apply hherald
      intro hover
      rw [Performance.takingCommand, hover] at htaking
      cases htaking
  | supplying hsupplying =>
      have hopen : performance.supply.isClosed = false := by
        unfold Supply.isClosed
        split
        · next hclosed =>
            rw [Performance.supplying, Supply.change, hclosed] at hsupplying
            cases hsupplying
        · rfl
      exact hfirst limit _ (.feedStops hbounded.cancelAt_eq hopen)

theorem bounded_of_turn (hbounded : Bounded limit performance) (hturn : Turn performance after) :
    Bounded limit after := by
  obtain ⟨time, hdue, hfirst⟩ := hturn
  exact bounded_of_notes hbounded (notes_of_due hdue) (le_of_turn hbounded hdue hfirst)

theorem bounded_of_turns (hbounded : Bounded limit performance)
    (hturns : Relation.ReflTransGen Turn performance after) : Bounded limit after := by
  induction hturns with
  | refl => exact hbounded
  | tail _ hturn ih => exact bounded_of_turn ih hturn

theorem exists_cancellation (hcancel : performance.cancelAt = some time) :
    ∃ stopped, performance.cancellation = some (time, stopped) := by
  rw [Performance.cancellation, hcancel]
  exact ⟨_, rfl⟩

theorem endedAt_of_change (hchange : performance.change = some (time, after)) :
    performance.endedAt = none := by
  unfold Performance.change at hchange
  split at hchange
  · cases hchange
  · next hopen => simpa using hopen

theorem due_of_change (hchange : performance.change = some (time, after)) :
    Due performance time after := by
  have hended := endedAt_of_change hchange
  unfold Performance.change at hchange
  split at hchange
  · cases hchange
  · have hmem := mem_of_earliest hchange
    simp only [List.mem_cons, List.not_mem_nil, or_false] at hmem
    obtain hcancelled | hworking | hbuild | hcommand | hsupplying := hmem
    · exact .bothStop hended hcancelled.symm
    · exact .working hworking.symm
    · exact .takingBuild hbuild.symm
    · exact .takingCommand hcommand.symm
    · exact .supplying hsupplying.symm

theorem le_of_change (hchange : performance.change = some (time, after)) {other : Nat}
    {last : Performance} (hdue : Due performance other last) : time ≤ other := by
  unfold Performance.change at hchange
  split at hchange
  · cases hchange
  · have hfirst (last : Performance) (hmem : some (other, last) ∈ _) : time ≤ other :=
      le_of_earliest hchange hmem
    have hstops (hcancel : performance.cancelAt = some other) : time ≤ other := by
      obtain ⟨stopped, hstopped⟩ := exists_cancellation hcancel
      exact hfirst stopped (by simp [hstopped])
    cases hdue with
    | feedStops hcancel _ => exact hstops hcancel
    | heraldStops hcancel _ => exact hstops hcancel
    | bothStop _ hcancelled => exact hfirst last (by simp [hcancelled])
    | working hworking => exact hfirst last (by simp [hworking])
    | takingBuild htaking => exact hfirst last (by simp [htaking])
    | takingCommand htaking => exact hfirst last (by simp [htaking])
    | supplying hsupplying => exact hfirst last (by simp [hsupplying])

theorem turns_of_play (start : Performance) (horizon fuel : Nat) :
    Relation.ReflTransGen Turn start (play Performance.change horizon fuel start) :=
  holds_of_play (fun hturns hchange =>
      hturns.tail ⟨_, due_of_change hchange, fun _ _ => le_of_change hchange⟩)
    Relation.ReflTransGen.refl horizon fuel

/-- Until it has ended there is always something to come, and not after the cancellation. -/
theorem exists_change_le (hcancel : performance.cancelAt = some limit)
    (hopen : performance.endedAt = none) :
    ∃ time after, performance.change = some (time, after) ∧ time ≤ limit := by
  obtain ⟨stopped, hstopped⟩ := exists_cancellation hcancel
  have hmem : some (limit, stopped) ∈ [performance.cancellation, performance.working,
      performance.takingBuild, performance.takingCommand, performance.supplying] := by
    rw [hstopped]
    exact List.mem_cons_self
  obtain ⟨⟨time, after⟩, hearliest, hle⟩ := exists_earliest_le hmem
  refine ⟨time, after, ?_, hle⟩
  rw [Performance.change, hopen]
  exact hearliest

/-! ### Before the time of cancellation -/

/-- The same performance, to be cancelled at a time. -/
def cancelledAt (limit : Nat) (performance : Performance) : Performance :=
  { performance with cancelAt := some limit }

theorem working_cancelledAt (limit : Nat) (performance : Performance) :
    (cancelledAt limit performance).working =
      mapWake (cancelledAt limit) performance.working := by
  obtain ⟨settings, start, now, supply, desk, script, answeredAt, commands, commandsEndAt, cancelAt,
    errands, endedAt⟩ := performance
  cases desk with
  | busy course buildsOpen commandsOpen =>
      cases answeredAt with
      | none => rfl
      | some answered =>
          cases course with
          | done herald =>
              cases buildsOpen <;> cases commandsOpen <;> rfl
          | ask errand next =>
              simp only [Performance.working, cancelledAt, mapWake, Option.map_some]
              generalize script.answer errand = given
              obtain ⟨timed, rest⟩ := given
              cases timed <;> rfl
  | _ => rfl

theorem takingBuild_cancelledAt (limit : Nat) (performance : Performance) :
    (cancelledAt limit performance).takingBuild =
      mapWake (cancelledAt limit) performance.takingBuild := by
  obtain ⟨settings, start, now, supply, desk, script, answeredAt, commands, commandsEndAt, cancelAt,
    errands, endedAt⟩ := performance
  cases desk with
  | ready herald buildsOpen commandsOpen =>
      cases buildsOpen with
      | false => rfl
      | true =>
          simp only [Performance.takingBuild, cancelledAt, Desk.takesBuilds, if_true]
          split
          · rfl
          · rcases Bool.eq_false_or_eq_true supply.exhausted with hexhausted | hexhausted
            · simp only [hexhausted, if_true]
              cases commandsOpen <;> rfl
            · simp only [hexhausted, Bool.false_eq_true, if_false]
              rfl
  | _ => rfl

theorem takingCommand_cancelledAt (limit : Nat) (performance : Performance) :
    (cancelledAt limit performance).takingCommand =
      mapWake (cancelledAt limit) performance.takingCommand := by
  obtain ⟨settings, start, now, supply, desk, script, answeredAt, commands, commandsEndAt, cancelAt,
    errands, endedAt⟩ := performance
  cases desk with
  | ready herald buildsOpen commandsOpen =>
      cases commandsOpen with
      | false => rfl
      | true =>
          cases commands with
          | nil => cases commandsEndAt <;> cases buildsOpen <;> rfl
          | cons first rest =>
              simp only [Performance.takingCommand, cancelledAt, Desk.takesCommands, if_true]
              rcases Bool.eq_false_or_eq_true (commandsEndAt.any (· < first.1)) with hlate | hlate
              · simp only [hlate, if_true]
                cases commandsEndAt <;> cases buildsOpen <;> rfl
              · simp only [hlate, Bool.false_eq_true, if_false]
                rfl
  | _ => rfl

theorem supplying_cancelledAt (limit : Nat) (performance : Performance) :
    (cancelledAt limit performance).supplying =
      mapWake (cancelledAt limit) performance.supplying := by
  unfold Performance.supplying mapWake
  rw [Option.map_map]
  rfl

theorem change_cancelledAt (limit : Nat) (hcancel : performance.cancelAt = none)
    (hopen : performance.endedAt = none) :
    ∃ stopped, (cancelledAt limit performance).change =
      Wake.earlier (some (limit, stopped)) (mapWake (cancelledAt limit) performance.change) := by
  have hlimit : (cancelledAt limit performance).cancelAt = some limit := rfl
  obtain ⟨stopped, hstopped⟩ := exists_cancellation hlimit
  refine ⟨stopped, ?_⟩
  have hopen' : (cancelledAt limit performance).endedAt = none := hopen
  have hnone : performance.cancellation = none := by
    rw [Performance.cancellation, hcancel]
    rfl
  have hchange : performance.change = Wake.earliest [performance.working, performance.takingBuild,
      performance.takingCommand, performance.supplying] := by
    rw [Performance.change, hopen, hnone]
    rfl
  rw [hchange, mapWake_earliest, Performance.change, hopen', hstopped, working_cancelledAt,
    takingBuild_cancelledAt, takingCommand_cancelledAt, supplying_cancelledAt]
  rfl

theorem change_of_lt (hcancel : performance.cancelAt = none)
    (hchange : performance.change = some (time, after)) (hlt : time < limit) :
    (cancelledAt limit performance).change = some (time, cancelledAt limit after) := by
  obtain ⟨stopped, hstopped⟩ := change_cancelledAt limit hcancel (endedAt_of_change hchange)
  rw [hstopped, hchange]
  exact if_pos hlt

theorem eq_or_of_change (hcancel : performance.cancelAt = none)
    (hchange : (cancelledAt limit performance).change = some (time, after)) :
    time = limit ∨ ∃ next, performance.change = some (time, next) := by
  have hopen : (cancelledAt limit performance).endedAt = none := endedAt_of_change hchange
  obtain ⟨stopped, hstopped⟩ := change_cancelledAt limit hcancel hopen
  rw [hstopped] at hchange
  rcases earlier_eq_or (some (limit, stopped))
      (mapWake (cancelledAt limit) performance.change) with hfirst | hsecond
  · rw [hfirst] at hchange
    cases hchange
    exact .inl rfl
  · rw [hsecond] at hchange
    obtain ⟨⟨other, next⟩, hnext, hstep⟩ := Option.map_eq_some_iff.mp hchange
    cases hstep
    exact .inr ⟨next, hnext⟩

theorem play_cancelledAt {horizon : Nat} (hlt : horizon < limit)
    (hcancel : performance.cancelAt = none) (fuel : Nat) :
    play Performance.change horizon fuel (cancelledAt limit performance) =
      cancelledAt limit (play Performance.change horizon fuel performance) := by
  induction fuel generalizing performance with
  | zero => rfl
  | succ fuel ih =>
      by_cases hnext : ∃ time after, performance.change = some (time, after) ∧ time ≤ horizon
      · obtain ⟨time, after, hchange, hle⟩ := hnext
        have hafter : after.cancelAt = none :=
          (notes_of_due (due_of_change hchange)).cancelAt_eq.trans hcancel
        have hsame := change_of_lt hcancel hchange (Nat.lt_of_le_of_lt hle hlt)
        rw [play_of_le hchange hle, play_of_le hsame hle, ih hafter]
      · have hlate (time : Nat) (after : Performance)
            (hchange : performance.change = some (time, after)) : horizon < time :=
          Nat.lt_of_not_le fun hle => hnext ⟨time, after, hchange, hle⟩
        rw [play_of_lt hlate, play_of_lt]
        -- What stops the one stops the other, since the cancellation too is due after the horizon.
        intro time after hchange
        rcases eq_or_of_change hcancel hchange with rfl | ⟨next, hnext⟩
        · exact hlt
        · exact hlate time next hnext

/-- However answers and commands come, and whatever of two things due at the same time is first,
nothing is asked for, sent or answered after a watch is cancelled, and it waits for nothing longer;
up to then it is as if it were not to be cancelled. -/
theorem nothing_after_cancellation (settings : Settings) (start : Instant)
    (pageSize interval : Nat) (script : Script) (commands : List (Nat × Ticket × Command))
    (commandsEndAt : Option Nat) (limit : Nat) :
    let before :=
      Performance.before settings start pageSize interval script commands commandsEndAt
    (∀ performance, Relation.ReflTransGen Turn (before (some limit)) performance →
        (∀ entry ∈ performance.errands, entry.1 ≤ limit) ∧
          (∀ entry ∈ performance.supply.queries, entry.1 ≤ limit) ∧
          (∀ ended, performance.endedAt = some ended → ended ≤ limit) ∧
          (performance.endedAt = none →
            ∃ time after, performance.change = some (time, after) ∧ time ≤ limit)) ∧
      (∀ horizon, Relation.ReflTransGen Turn (before (some limit))
        ((before (some limit)).playedUntil horizon)) ∧
      ∀ horizon < limit, (before (some limit)).playedUntil horizon =
        { (before none).playedUntil horizon with cancelAt := some limit } := by
  intro before
  have hbefore : Bounded limit (before (some limit)) := by
    refine ⟨rfl, fun entry hmem => absurd hmem List.not_mem_nil, ?_,
      fun ended hended => absurd hended.symm (Option.some_ne_none ended)⟩
    intro entry hmem
    have hqueries : (before (some limit)).supply.queries = [(0, ⟨none, 1⟩)] := rfl
    obtain rfl := List.mem_singleton.mp (hqueries ▸ hmem)
    exact Nat.zero_le limit
  refine ⟨?_, fun horizon => turns_of_play _ horizon _, ?_⟩
  · intro performance hturns
    have hbounded := bounded_of_turns hbefore hturns
    exact ⟨hbounded.errands_le, hbounded.queries_le, fun ended hended =>
      (hbounded.ended ended hended).1, exists_change_le hbounded.cancelAt_eq⟩
  · intro horizon hlt
    have hcancel : (before none).cancelAt = none := rfl
    exact play_cancelledAt hlt hcancel ((before none).fuel horizon)

def failedBuild : Build :=
  { id := 11, name := "6", team := "main", pipeline := some "web", jobName := some "unit",
    status := .failed }

/-- The event stream of the failed build stalls. -/
def stallingScript : Script where
  listings := [.now (.ok ⟨[], some 10⟩), .now (.ok ⟨[failedBuild], some 11⟩)]
  starts := []
  pauses := []
  sources := [(11, .stream [.stall])]
  deliveries := []

def heraldSettings : Settings :=
  ⟨"https://ci.example", .ofSeconds 60⟩

def lateCommand : Nat × Ticket × Command :=
  (12000, 1, ⟨"rerun", [], some ⟨"main", "web", "unit"⟩⟩)

/-- A watch that is cancelled while it waits for the transcript, and before a command is given. -/
def stalledWatch : Performance :=
  .before heraldSettings ⟨0⟩ 100 4000 stallingScript [lateCommand] none (some 10000)

theorem stalledWatch_ended :
    let last := stalledWatch.playedUntil 20000
    last.errands.map Prod.fst = [4000] ∧ (∀ entry ∈ last.errands, entry.1 ≤ 10000) ∧
      (∀ entry ∈ last.supply.queries, entry.1 ≤ 10000) ∧ last.endedAt = some 10000 := by
  intro last
  obtain ⟨hquiet, hturns, -⟩ := nothing_after_cancellation heraldSettings ⟨0⟩ 100 4000
    stallingScript [lateCommand] none 10000
  obtain ⟨herrands, hqueries, -⟩ := hquiet last (hturns 20000)
  exact ⟨by decide +kernel, herrands, hqueries, by decide +kernel⟩

end BuildHerald.Proofs.Cancellation
