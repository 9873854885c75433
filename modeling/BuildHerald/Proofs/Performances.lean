import BuildHerald.Proofs.Dispatch
import BuildHerald.Proofs.Timelines
import BuildHerald.Rehearsal.Performance

namespace BuildHerald.Proofs.Performances

open BuildHerald.Herald
open BuildHerald.Time
open BuildHerald.Chat
open BuildHerald.Rehearsal
open BuildHerald.Proofs.Dispatch
open BuildHerald.Proofs.Timelines

/-! ### Desks that shifts come to -/

def BuildsOver : Desk → Prop
  | .ready _ buildsOpen _ => buildsOpen = false
  | .busy _ buildsOpen _ => buildsOpen = false
  | .over => True

def CommandsOver : Desk → Prop
  | .ready _ _ commandsOpen => commandsOpen = false
  | .busy _ _ commandsOpen => commandsOpen = false
  | .over => True

theorem buildsOver_idle (herald : Herald) (buildsOpen commandsOpen : Bool) :
    BuildsOver (.idle herald buildsOpen commandsOpen) ↔ buildsOpen = false := by
  cases buildsOpen <;> cases commandsOpen <;> simp [Desk.idle, BuildsOver]

theorem commandsOver_idle (herald : Herald) (buildsOpen commandsOpen : Bool) :
    CommandsOver (.idle herald buildsOpen commandsOpen) ↔ commandsOpen = false := by
  cases buildsOpen <;> cases commandsOpen <;> simp [Desk.idle, CommandsOver]

/-- Some inputs bring a shift to this desk, whatever inputs come after them. -/
def Reached (settings : Settings) (desk : Desk) : Prop :=
  ∃ builds commands, ∀ moreBuilds moreCommands,
    (BuildsOver desk → moreBuilds = []) → (CommandsOver desk → moreCommands = []) →
      ∃ past herald begun,
        Relation.ReflTransGen (Move settings)
          (start (builds ++ moreBuilds) (commands ++ moreCommands))
          ⟨desk, moreBuilds, moreCommands, past, herald, begun⟩

variable {settings : Settings} {herald : Herald} {buildsOpen commandsOpen : Bool}

theorem reached_fresh (settings : Settings) : Reached settings .fresh := by
  refine ⟨[], [], ?_⟩
  intro moreBuilds moreCommands _ _
  exact ⟨[], .fresh, none, .refl⟩

/-- A move that takes these inputs, or none, brings a shift from one desk to another. -/
theorem reached_of_move {desk after : Desk} (takenBuilds : List Build)
    (takenCommands : List (Ticket × Command)) (hreached : Reached settings desk)
    (hbuilds : BuildsOver desk → takenBuilds = [] ∧ BuildsOver after)
    (hcommands : CommandsOver desk → takenCommands = [] ∧ CommandsOver after)
    (hmove : ∀ moreBuilds moreCommands past herald begun,
      (BuildsOver after → moreBuilds = []) → (CommandsOver after → moreCommands = []) →
        Stands settings
            ⟨desk, takenBuilds ++ moreBuilds, takenCommands ++ moreCommands, past, herald, begun⟩ →
          ∃ past' herald' begun',
            Move settings
              ⟨desk, takenBuilds ++ moreBuilds, takenCommands ++ moreCommands, past, herald, begun⟩
              ⟨after, moreBuilds, moreCommands, past', herald', begun'⟩) :
    Reached settings after := by
  obtain ⟨builds, commands, hshift⟩ := hreached
  refine ⟨builds ++ takenBuilds, commands ++ takenCommands, ?_⟩
  intro moreBuilds moreCommands hmoreBuilds hmoreCommands
  have hallBuilds (hover : BuildsOver desk) : takenBuilds ++ moreBuilds = [] := by
    obtain ⟨htaken, hafter⟩ := hbuilds hover
    rw [htaken, hmoreBuilds hafter, List.nil_append]
  have hallCommands (hover : CommandsOver desk) : takenCommands ++ moreCommands = [] := by
    obtain ⟨htaken, hafter⟩ := hcommands hover
    rw [htaken, hmoreCommands hafter, List.nil_append]
  obtain ⟨past, herald, begun, hmoves⟩ := hshift _ _ hallBuilds hallCommands
  obtain ⟨past', herald', begun', hlast⟩ :=
    hmove _ _ past herald begun hmoreBuilds hmoreCommands (coherent_of_reached hmoves).stands
  refine ⟨past', herald', begun', ?_⟩
  rw [List.append_assoc, List.append_assoc]
  exact hmoves.tail hlast

theorem reached_takeBuild (now : Instant) (build : Build)
    (hreached : Reached settings (.ready herald true commandsOpen)) :
    Reached settings (.busy (herald.handle settings now (.build build)) true commandsOpen) := by
  refine reached_of_move [build] [] hreached (fun hover => Bool.noConfusion hover)
    (fun hover => ⟨rfl, hover⟩) ?_
  intro moreBuilds moreCommands past kept begun _ _ hstands
  cases hstands with
  | ready => exact ⟨_, _, _, .takeBuild now rfl⟩

theorem reached_takeCommand (now : Instant) (ticket : Ticket) (command : Command)
    (hreached : Reached settings (.ready herald buildsOpen true)) :
    Reached settings
      (.busy (herald.handle settings now (.command ticket command)) buildsOpen true) := by
  refine reached_of_move [] [(ticket, command)] hreached (fun hover => ⟨rfl, hover⟩)
    (fun hover => Bool.noConfusion hover) ?_
  intro moreBuilds moreCommands past kept begun _ _ hstands
  cases hstands with
  | ready => exact ⟨_, _, _, .takeCommand now rfl⟩

theorem reached_endBuilds (hreached : Reached settings (.ready herald true commandsOpen)) :
    Reached settings (.idle herald false commandsOpen) := by
  refine reached_of_move [] [] hreached (fun hover => Bool.noConfusion hover)
    (fun hover => ⟨rfl, (commandsOver_idle _ _ _).mpr hover⟩) ?_
  intro moreBuilds moreCommands past kept begun hbuilds _ hstands
  obtain rfl := hbuilds ((buildsOver_idle _ _ _).mpr rfl)
  cases hstands with
  | ready => exact ⟨_, _, _, .endBuilds rfl⟩

theorem reached_endCommands (hreached : Reached settings (.ready herald buildsOpen true)) :
    Reached settings (.idle herald buildsOpen false) := by
  refine reached_of_move [] [] hreached (fun hover => ⟨rfl, (buildsOver_idle _ _ _).mpr hover⟩)
    (fun hover => Bool.noConfusion hover) ?_
  intro moreBuilds moreCommands past kept begun _ hcommands hstands
  obtain rfl := hcommands ((commandsOver_idle _ _ _).mpr rfl)
  cases hstands with
  | ready => exact ⟨_, _, _, .endCommands rfl⟩

theorem reached_answer {errand : Errand} {next : errand.Answer → Course Herald}
    (answer : errand.Answer)
    (hreached : Reached settings (.busy (.ask errand next) buildsOpen commandsOpen)) :
    Reached settings (.busy (next answer) buildsOpen commandsOpen) := by
  refine reached_of_move [] [] hreached (fun hover => ⟨rfl, hover⟩) (fun hover => ⟨rfl, hover⟩) ?_
  intro moreBuilds moreCommands past kept begun _ _ hstands
  cases hstands with
  | busy => exact ⟨_, _, _, .answer answer⟩

theorem reached_finish (hreached : Reached settings (.busy (.done herald) buildsOpen commandsOpen)) :
    Reached settings (.idle herald buildsOpen commandsOpen) := by
  refine reached_of_move [] [] hreached (fun hover => ⟨rfl, (buildsOver_idle _ _ _).mpr hover⟩)
    (fun hover => ⟨rfl, (commandsOver_idle _ _ _).mpr hover⟩) ?_
  intro moreBuilds moreCommands past kept begun _ _ hstands
  cases hstands with
  | busy => exact ⟨_, _, _, .finish⟩

/-! ### Performances -/

/-- A performance that is not to be cancelled, at a desk that a shift comes to. -/
structure Follows (settings : Settings) (performance : Performance) : Prop where
  settings_eq : performance.settings = settings
  cancelAt_eq : performance.cancelAt = none
  reached : Reached settings performance.desk

theorem follows_settled {performance : Performance} (hfollows : Follows settings performance) :
    Follows settings performance.settled := by
  unfold Performance.settled
  split
  · exact ⟨hfollows.settings_eq, hfollows.cancelAt_eq, hfollows.reached⟩
  · exact hfollows

variable {performance after : Performance} {time : Nat}

theorem follows_working (hfollows : Follows settings performance)
    (hworking : performance.working = some (time, after)) : Follows settings after := by
  obtain ⟨hsettings, hcancel, hreached⟩ := hfollows
  unfold Performance.working at hworking
  cases hdesk : performance.desk with
  | busy course buildsOpen commandsOpen =>
      rw [hdesk] at hreached
      simp only [hdesk, Option.map_eq_some_iff] at hworking
      obtain ⟨answered, -, hstep⟩ := hworking
      cases course with
      | done herald =>
          obtain ⟨rfl, rfl⟩ := Prod.mk.inj hstep
          exact follows_settled ⟨hsettings, hcancel, reached_finish hreached⟩
      | ask errand next =>
          simp only at hstep
          split at hstep
          · obtain ⟨rfl, rfl⟩ := Prod.mk.inj hstep
            exact ⟨hsettings, hcancel, reached_answer _ hreached⟩
          · obtain ⟨rfl, rfl⟩ := Prod.mk.inj hstep
            exact ⟨hsettings, hcancel, by simpa only [hdesk] using hreached⟩
  | _ => simp [hdesk] at hworking

theorem follows_takingBuild (hfollows : Follows settings performance)
    (htaking : performance.takingBuild = some (time, after)) : Follows settings after := by
  obtain ⟨rfl, hcancel, hreached⟩ := hfollows
  unfold Performance.takingBuild at htaking
  cases htakes : performance.desk.takesBuilds with
  | false => simp [htakes] at htaking
  | true =>
      obtain ⟨herald, commandsOpen, hdesk⟩ := eq_ready_of_takesBuilds htakes
      rw [hdesk] at hreached
      rw [if_pos htakes] at htaking
      cases hslot : performance.supply.slot with
      | some build =>
          simp only [hslot] at htaking
          obtain ⟨rfl, rfl⟩ := Prod.mk.inj (Option.some.inj htaking)
          refine ⟨rfl, hcancel, ?_⟩
          simp only [Performance.taking, hdesk, Desk.take]
          exact reached_takeBuild _ _ hreached
      | none =>
          cases hexhausted : performance.supply.exhausted with
          | false => simp [hslot, hexhausted] at htaking
          | true =>
              simp only [hslot, hexhausted, if_true] at htaking
              obtain ⟨rfl, rfl⟩ := Prod.mk.inj (Option.some.inj htaking)
              refine follows_settled ⟨rfl, hcancel, ?_⟩
              simp only [hdesk, Desk.endBuilds]
              exact reached_endBuilds hreached

theorem follows_endCommands {herald : Herald} {buildsOpen : Bool} {now : Nat}
    (hfollows : Follows settings performance)
    (hdesk : performance.desk = .ready herald buildsOpen true) :
    Follows settings
      (Performance.settled { performance with now, desk := performance.desk.endCommands }) := by
  obtain ⟨rfl, hcancel, hreached⟩ := hfollows
  rw [hdesk] at hreached
  refine follows_settled ⟨rfl, hcancel, ?_⟩
  simp only [hdesk, Desk.endCommands]
  exact reached_endCommands hreached

theorem follows_takingCommand (hfollows : Follows settings performance)
    (htaking : performance.takingCommand = some (time, after)) : Follows settings after := by
  unfold Performance.takingCommand at htaking
  cases htakes : performance.desk.takesCommands with
  | false => simp [htakes] at htaking
  | true =>
      obtain ⟨herald, buildsOpen, hdesk⟩ := eq_ready_of_takesCommands htakes
      rw [if_pos htakes] at htaking
      cases hcommands : performance.commands with
      | nil =>
          simp only [hcommands, Option.map_eq_some_iff] at htaking
          obtain ⟨ended, -, hstep⟩ := htaking
          obtain ⟨rfl, rfl⟩ := Prod.mk.inj hstep
          exact hcommands ▸ follows_endCommands hfollows hdesk
      | cons first rest =>
          obtain ⟨given, ticket, command⟩ := first
          simp only [hcommands] at htaking
          split at htaking
          · simp only [Option.map_eq_some_iff] at htaking
            obtain ⟨ended, -, hstep⟩ := htaking
            obtain ⟨rfl, rfl⟩ := Prod.mk.inj hstep
            exact hcommands ▸ follows_endCommands hfollows hdesk
          · obtain ⟨rfl, hcancel, hreached⟩ := hfollows
            rw [hdesk] at hreached
            obtain ⟨rfl, rfl⟩ := Prod.mk.inj (Option.some.inj htaking)
            refine ⟨rfl, hcancel, ?_⟩
            simp only [Performance.taking, hdesk, Desk.take]
            exact reached_takeCommand _ _ _ hreached

theorem follows_supplying (hfollows : Follows settings performance)
    (hsupplying : performance.supplying = some (time, after)) : Follows settings after := by
  obtain ⟨hsettings, hcancel, hreached⟩ := hfollows
  rw [Performance.supplying, Option.map_eq_some_iff] at hsupplying
  obtain ⟨⟨supplied, supply, script⟩, -, hstep⟩ := hsupplying
  obtain ⟨rfl, rfl⟩ := Prod.mk.inj hstep
  exact ⟨hsettings, hcancel, hreached⟩

theorem follows_change (hfollows : Follows settings performance)
    (hchange : performance.change = some (time, after)) : Follows settings after := by
  unfold Performance.change at hchange
  split at hchange
  · simp at hchange
  · have hmem := mem_of_earliest hchange
    simp only [List.mem_cons, List.not_mem_nil, or_false] at hmem
    obtain hcancelled | hworking | hbuild | hcommand | hsupplying := hmem
    · rw [Performance.cancellation, hfollows.cancelAt_eq] at hcancelled
      simp at hcancelled
    · exact follows_working hfollows hworking.symm
    · exact follows_takingBuild hfollows hbuild.symm
    · exact follows_takingCommand hfollows hcommand.symm
    · exact follows_supplying hfollows hsupplying.symm

/-- Unless it is cancelled, a performance does at its desk what can happen in a shift with the inputs
that it has taken. -/
theorem exists_shift_of_played (settings : Settings) (start : Instant) (pageSize interval : Nat)
    (script : Script) (given : List (Nat × Ticket × Command)) (givenEnd : Option Nat)
    (horizon : Nat) :
    ∃ builds commands shift,
      Relation.ReflTransGen (Move settings) (Dispatch.start builds commands) shift ∧
        shift.builds = [] ∧ shift.commands = [] ∧
        shift.desk =
          ((Performance.before settings start pageSize interval script given givenEnd
            none).playedUntil horizon).desk := by
  have hbefore : Follows settings
      (.before settings start pageSize interval script given givenEnd none) :=
    ⟨rfl, rfl, reached_fresh settings⟩
  obtain ⟨builds, commands, hshift⟩ := (holds_of_play follows_change hbefore horizon _).reached
  obtain ⟨past, herald, begun, hmoves⟩ := hshift [] [] (fun _ => rfl) (fun _ => rfl)
  exact ⟨_, _, _, hmoves, rfl, rfl, rfl⟩

end BuildHerald.Proofs.Performances
