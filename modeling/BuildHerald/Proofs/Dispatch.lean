import BuildHerald.Herald.Desk
import BuildHerald.Proofs.JobStatuses
import Mathlib.Logic.Relation

/-!
A desk that takes builds and commands in any order, at any times, and goes on by any answers.
-/

namespace BuildHerald.Proofs.Dispatch

open BuildHerald.Herald
open BuildHerald.Time
open BuildHerald.Chat
open BuildHerald.Proofs.Conversation
open BuildHerald.Proofs.JobStatuses

/-- A desk, the inputs that are still to be taken, and those that have been. -/
structure Shift where
  desk : Desk
  builds : List Build
  commands : List (Ticket × Command)
  /-- The inputs that have been handled to the end. -/
  past : List Handled
  /-- What the herald came to by them. -/
  herald : Herald
  /-- The input in hand, with the errands so far. -/
  begun : Option Handled

def start (builds : List Build) (commands : List (Ticket × Command)) : Shift :=
  ⟨.fresh, builds, commands, [], .fresh, none⟩

/-- What can happen at a desk. An input is taken at any time, and of either kind if both are there; an
errand can have any answer. -/
inductive Move (settings : Settings) : Shift → Shift → Prop
  | takeBuild (now : Instant) {desk : Desk} {build : Build} {builds : List Build}
      {commands : List (Ticket × Command)} {past : List Handled} {herald : Herald} :
      desk.takesBuilds = true →
        Move settings ⟨desk, build :: builds, commands, past, herald, none⟩
          ⟨desk.take settings now (.build build), builds, commands, past, herald,
            some ⟨now, .build build, []⟩⟩
  | takeCommand (now : Instant) {desk : Desk} {builds : List Build} {ticket : Ticket}
      {command : Command} {commands : List (Ticket × Command)} {past : List Handled}
      {herald : Herald} :
      desk.takesCommands = true →
        Move settings ⟨desk, builds, (ticket, command) :: commands, past, herald, none⟩
          ⟨desk.take settings now (.command ticket command), builds, commands, past, herald,
            some ⟨now, .command ticket command, []⟩⟩
  | endBuilds {desk : Desk} {commands : List (Ticket × Command)} {past : List Handled}
      {herald : Herald} :
      desk.takesBuilds = true →
        Move settings ⟨desk, [], commands, past, herald, none⟩
          ⟨desk.endBuilds, [], commands, past, herald, none⟩
  | endCommands {desk : Desk} {builds : List Build} {past : List Handled} {herald : Herald} :
      desk.takesCommands = true →
        Move settings ⟨desk, builds, [], past, herald, none⟩
          ⟨desk.endCommands, builds, [], past, herald, none⟩
  | answer {errand : Errand} {next : errand.Answer → Course Herald} (answer : errand.Answer)
      {buildsOpen commandsOpen : Bool} {builds : List Build} {commands : List (Ticket × Command)}
      {past : List Handled} {herald : Herald} {begun : Handled} :
      Move settings
        ⟨.busy (.ask errand next) buildsOpen commandsOpen, builds, commands, past, herald,
          some begun⟩
        ⟨.busy (next answer) buildsOpen commandsOpen, builds, commands, past, herald,
          some { begun with trace := begun.trace ++ [⟨errand, answer⟩] }⟩
  | finish {herald after : Herald} {buildsOpen commandsOpen : Bool} {builds : List Build}
      {commands : List (Ticket × Command)} {past : List Handled} {begun : Handled} :
      Move settings
        ⟨.busy (.done after) buildsOpen commandsOpen, builds, commands, past, herald, some begun⟩
        ⟨.idle after buildsOpen commandsOpen, builds, commands, past ++ [begun], after, none⟩

/-! ### What is kept -/

/-- The desk fits what is still to come and what is in hand. -/
inductive Stands (settings : Settings) : Shift → Prop
  | ready {buildsOpen commandsOpen : Bool} {builds : List Build}
      {commands : List (Ticket × Command)} {past : List Handled} {herald : Herald} :
      (buildsOpen = false → builds = []) → (commandsOpen = false → commands = []) →
        (buildsOpen || commandsOpen) = true →
          Stands settings
            ⟨.ready herald buildsOpen commandsOpen, builds, commands, past, herald, none⟩
  | busy {course : Course Herald} {buildsOpen commandsOpen : Bool} {builds : List Build}
      {commands : List (Ticket × Command)} {past : List Handled} {herald : Herald}
      {begun : Handled} :
      (buildsOpen = false → builds = []) → (commandsOpen = false → commands = []) →
        (∀ rest after, Runs course rest after →
          Runs (herald.handle settings begun.now begun.input) (begun.trace ++ rest) after) →
          Stands settings
            ⟨.busy course buildsOpen commandsOpen, builds, commands, past, herald, some begun⟩
  | ended {past : List Handled} {herald : Herald} :
      Stands settings ⟨.over, [], [], past, herald, none⟩

/-- The inputs are those of the beginning, and the herald is what it came to by those handled. -/
structure Coherent (settings : Settings) (builds : List Build) (commands : List (Ticket × Command))
    (shift : Shift) : Prop where
  served : Served settings shift.past shift.herald
  builds_eq : buildsIn (shift.past ++ shift.begun.toList) ++ shift.builds = builds
  commands_eq : commandsIn (shift.past ++ shift.begun.toList) ++ shift.commands = commands
  stands : Stands settings shift

theorem stands_idle {settings : Settings} {buildsOpen commandsOpen : Bool} {builds : List Build}
    {commands : List (Ticket × Command)} {past : List Handled} {herald : Herald}
    (hbuilds : buildsOpen = false → builds = [])
    (hcommands : commandsOpen = false → commands = []) :
    Stands settings
      ⟨.idle herald buildsOpen commandsOpen, builds, commands, past, herald, none⟩ := by
  unfold Desk.idle
  by_cases hopen : (buildsOpen || commandsOpen) = true
  · rw [if_pos hopen]
    exact .ready hbuilds hcommands hopen
  · rw [if_neg hopen]
    rw [Bool.not_eq_true, Bool.or_eq_false_iff] at hopen
    rw [hbuilds hopen.1, hcommands hopen.2]
    exact .ended

theorem coherent_start (settings : Settings) (builds : List Build)
    (commands : List (Ticket × Command)) :
    Coherent settings builds commands (start builds commands) where
  served := .fresh
  builds_eq := rfl
  commands_eq := rfl
  stands := stands_idle (fun h => Bool.noConfusion h) (fun h => Bool.noConfusion h)

variable {settings : Settings} {builds : List Build} {commands : List (Ticket × Command)}

theorem stands_move {shift after : Shift} (hstands : Stands settings shift)
    (hmove : Move settings shift after) : Stands settings after := by
  cases hmove with
  | takeBuild now htakes =>
      cases hstands with
      | ready hbuilds hcommands =>
          refine .busy ?_ hcommands (fun rest after hruns => hruns)
          intro hclosed
          exact absurd (hbuilds hclosed) (List.cons_ne_nil _ _)
  | takeCommand now htakes =>
      cases hstands with
      | ready hbuilds hcommands =>
          refine .busy hbuilds ?_ (fun rest after hruns => hruns)
          intro hclosed
          exact absurd (hcommands hclosed) (List.cons_ne_nil _ _)
  | endBuilds htakes =>
      cases hstands with
      | ready hbuilds hcommands => exact stands_idle (fun _ => rfl) hcommands
      | ended => exact .ended
  | endCommands htakes =>
      cases hstands with
      | ready hbuilds hcommands => exact stands_idle hbuilds (fun _ => rfl)
      | ended => exact .ended
  | answer answer =>
      cases hstands with
      | busy hbuilds hcommands hcourse =>
          refine .busy hbuilds hcommands ?_
          intro rest final hruns
          rw [List.append_assoc]
          exact hcourse _ _ (.ask _ answer hruns)
  | finish =>
      cases hstands with
      | busy hbuilds hcommands => exact stands_idle hbuilds hcommands

theorem coherent_move {shift after : Shift} (hcoherent : Coherent settings builds commands shift)
    (hmove : Move settings shift after) : Coherent settings builds commands after := by
  have hstands := stands_move hcoherent.stands hmove
  obtain ⟨hserved, hbuilds, hcommands, hbefore⟩ := hcoherent
  cases hmove with
  | takeBuild =>
      refine ⟨hserved, ?_, ?_, hstands⟩
      · simpa [buildsIn_concat, Handled.build?] using hbuilds
      · simpa [commandsIn_concat, Handled.command?] using hcommands
  | takeCommand =>
      refine ⟨hserved, ?_, ?_, hstands⟩
      · simpa [buildsIn_concat, Handled.build?] using hbuilds
      · simpa [commandsIn_concat, Handled.command?] using hcommands
  | endBuilds => exact ⟨hserved, hbuilds, hcommands, hstands⟩
  | endCommands => exact ⟨hserved, hbuilds, hcommands, hstands⟩
  | answer =>
      refine ⟨hserved, ?_, ?_, hstands⟩
      · simpa [buildsIn_concat, Handled.build?] using hbuilds
      · simpa [commandsIn_concat, Handled.command?] using hcommands
  | finish =>
      cases hbefore with
      | busy _ _ hcourse =>
          refine ⟨.next hserved ?_, ?_, ?_, hstands⟩
          · have hruns := hcourse _ _ (.done _)
            rwa [List.append_nil] at hruns
          · simpa using hbuilds
          · simpa using hcommands

theorem coherent_of_reached {shift : Shift}
    (hreached : Relation.ReflTransGen (Move settings) (start builds commands) shift) :
    Coherent settings builds commands shift := by
  induction hreached with
  | refl => exact coherent_start settings builds commands
  | tail _ hmove ih => exact coherent_move ih hmove

/-! ### What can happen -/

/-- An input in hand can be handled to the end in any way that its course can go. -/
theorem handled_of_runs (settings : Settings) {course : Course Herald} {rest : List Done}
    {after : Herald} (hruns : Runs course rest after) (builds : List Build)
    (commands : List (Ticket × Command)) (past : List Handled) (herald : Herald) (begun : Handled) :
    Relation.ReflTransGen (Move settings)
      ⟨.busy course true true, builds, commands, past, herald, some begun⟩
      ⟨.ready after true true, builds, commands,
        past ++ [{ begun with trace := begun.trace ++ rest }], after, none⟩ := by
  induction hruns generalizing begun with
  | done result =>
      rw [List.append_nil]
      exact .single .finish
  | ask question answer _ ih =>
      have hlater := ih { begun with trace := begun.trace ++ [⟨question, answer⟩] }
      rw [List.append_assoc] at hlater
      exact .head (.answer answer) hlater

/-- Whatever a herald can come to by inputs in some order, a desk that takes them in that order can
come to, whatever follows. -/
theorem reached_of_served {past : List Handled} {herald : Herald}
    (hserved : Served settings past herald) (later : List Build)
    (laterCommands : List (Ticket × Command)) :
    Relation.ReflTransGen (Move settings)
      (start (buildsIn past ++ later) (commandsIn past ++ laterCommands))
      ⟨.ready herald true true, later, laterCommands, past, herald, none⟩ := by
  induction hserved generalizing later laterCommands with
  | fresh => exact .refl
  | @next past herald after handled _ hruns ih =>
      obtain ⟨now, input, trace⟩ := handled
      rw [buildsIn_concat, commandsIn_concat, List.append_assoc, List.append_assoc]
      have hhandled :=
        handled_of_runs settings hruns later laterCommands past herald ⟨now, input, []⟩
      cases input with
      | build build => exact ((ih _ _).tail (.takeBuild now rfl)).trans hhandled
      | command ticket command => exact ((ih _ _).tail (.takeCommand now rfl)).trans hhandled

theorem over_of_ready (past : List Handled) (herald : Herald) :
    Relation.ReflTransGen (Move settings) ⟨.ready herald true true, [], [], past, herald, none⟩
      ⟨.over, [], [], past, herald, none⟩ :=
  .tail (.single (.endBuilds rfl)) (.endCommands rfl)

/-! ### What comes to an end -/

/-- How much is still to come: inputs, and the ends of inputs. -/
def outstanding (shift : Shift) : Nat :=
  shift.builds.length + shift.commands.length +
    match shift.desk with
    | .ready _ buildsOpen commandsOpen => buildsOpen.toNat + commandsOpen.toNat
    | .busy _ buildsOpen commandsOpen => buildsOpen.toNat + commandsOpen.toNat
    | .over => 0

theorem outstanding_idle (herald kept : Herald) (buildsOpen commandsOpen : Bool)
    (builds : List Build) (commands : List (Ticket × Command)) (past : List Handled)
    (begun : Option Handled) :
    outstanding ⟨.idle herald buildsOpen commandsOpen, builds, commands, past, kept, begun⟩ =
      builds.length + commands.length + (buildsOpen.toNat + commandsOpen.toNat) := by
  cases buildsOpen <;> cases commandsOpen <;> rfl

theorem eq_ready_of_takesBuilds {desk : Desk} (htakes : desk.takesBuilds = true) :
    ∃ herald commandsOpen, desk = .ready herald true commandsOpen := by
  cases desk with
  | ready herald buildsOpen commandsOpen =>
      obtain rfl : buildsOpen = true := htakes
      exact ⟨herald, commandsOpen, rfl⟩
  | _ => exact Bool.noConfusion htakes

theorem eq_ready_of_takesCommands {desk : Desk} (htakes : desk.takesCommands = true) :
    ∃ herald buildsOpen, desk = .ready herald buildsOpen true := by
  cases desk with
  | ready herald buildsOpen commandsOpen =>
      obtain rfl : commandsOpen = true := htakes
      exact ⟨herald, buildsOpen, rfl⟩
  | _ => exact Bool.noConfusion htakes

theorem outstanding_lt_of_move {shift after : Shift}
    (hfree : ∀ course buildsOpen commandsOpen, shift.desk ≠ .busy course buildsOpen commandsOpen)
    (hmove : Move settings shift after) : outstanding after < outstanding shift := by
  cases hmove with
  | takeBuild now htakes =>
      obtain ⟨herald, commandsOpen, rfl⟩ := eq_ready_of_takesBuilds htakes
      simp only [outstanding, Desk.take, List.length_cons]
      omega
  | takeCommand now htakes =>
      obtain ⟨herald, buildsOpen, rfl⟩ := eq_ready_of_takesCommands htakes
      simp only [outstanding, Desk.take, List.length_cons]
      omega
  | endBuilds htakes =>
      obtain ⟨herald, commandsOpen, rfl⟩ := eq_ready_of_takesBuilds htakes
      rw [Desk.endBuilds, outstanding_idle]
      simp [outstanding]
  | endCommands htakes =>
      obtain ⟨herald, buildsOpen, rfl⟩ := eq_ready_of_takesCommands htakes
      rw [Desk.endCommands, outstanding_idle]
      simp [outstanding]
  | answer => exact absurd rfl (hfree _ _ _)
  | finish => exact absurd rfl (hfree _ _ _)

theorem idle_ne_busy (herald : Herald) (buildsOpen commandsOpen : Bool) (course : Course Herald)
    (buildsBusy commandsBusy : Bool) :
    Desk.idle herald buildsOpen commandsOpen ≠ .busy course buildsBusy commandsBusy := by
  unfold Desk.idle
  split <;> exact Desk.noConfusion

/-- No shift goes on for ever if every errand is answered. -/
theorem acc_move (shift : Shift) : Acc (fun after before => Move settings before after) shift := by
  induction hbound : outstanding shift using Nat.strong_induction_on generalizing shift with
  | _ bound ih =>
      -- Answers only shorten the course in hand; at a free desk something outstanding is used up.
      have hfree (shift : Shift) (hshift : outstanding shift = bound)
          (hdesk : ∀ course buildsOpen commandsOpen,
            shift.desk ≠ .busy course buildsOpen commandsOpen) :
          Acc (fun after before => Move settings before after) shift := by
        refine .intro _ fun after hmove => ih _ ?_ after rfl
        rw [← hshift]
        exact outstanding_lt_of_move hdesk hmove
      obtain ⟨desk, builds, commands, past, herald, begun⟩ := shift
      cases desk with
      | busy course buildsOpen commandsOpen =>
          induction course generalizing begun with
          | done result =>
              refine .intro _ fun after hmove => ?_
              cases hmove with
              | takeBuild _ htakes => exact Bool.noConfusion htakes
              | takeCommand _ htakes => exact Bool.noConfusion htakes
              | endBuilds htakes => exact Bool.noConfusion htakes
              | endCommands htakes => exact Bool.noConfusion htakes
              | finish =>
                  refine hfree _ ?_ (idle_ne_busy _ _ _)
                  rw [outstanding_idle]
                  exact hbound
          | ask errand next ihnext =>
              refine .intro _ fun after hmove => ?_
              cases hmove with
              | takeBuild _ htakes => exact Bool.noConfusion htakes
              | takeCommand _ htakes => exact Bool.noConfusion htakes
              | endBuilds htakes => exact Bool.noConfusion htakes
              | endCommands htakes => exact Bool.noConfusion htakes
              | answer answer => exact ihnext answer _ hbound
      | _ => exact hfree _ hbound fun _ _ _ => Desk.noConfusion

theorem exists_move {shift : Shift} (hstands : Stands settings shift)
    (hdesk : shift.desk ≠ .over) : ∃ after, Move settings shift after := by
  cases hstands with
  | @ready buildsOpen commandsOpen builds commands past herald hbuilds hcommands hopen =>
      rw [Bool.or_eq_true] at hopen
      obtain rfl | rfl := hopen
      · cases builds with
        | nil => exact ⟨_, .endBuilds rfl⟩
        | cons build builds => exact ⟨_, .takeBuild ⟨0⟩ rfl⟩
      · cases commands with
        | nil => exact ⟨_, .endCommands rfl⟩
        | cons command commands => exact ⟨_, .takeCommand ⟨0⟩ rfl⟩
  | @busy course =>
      cases course with
      | done after => exact ⟨_, .finish⟩
      | ask errand next =>
          obtain ⟨answer⟩ := nonempty_answer errand
          exact ⟨_, .answer answer⟩
  | ended => exact absurd rfl hdesk

theorem exists_end {shift : Shift} (hstands : Stands settings shift) :
    ∃ last, Relation.ReflTransGen (Move settings) shift last ∧ last.desk = .over := by
  have hacc : Acc (fun after before => Move settings before after) shift := acc_move shift
  induction hacc with
  | intro shift _ ih =>
      by_cases hdesk : shift.desk = .over
      · exact ⟨shift, .refl, hdesk⟩
      · obtain ⟨after, hmove⟩ := exists_move hstands hdesk
        obtain ⟨last, hreached, hover⟩ := ih after hmove (stands_move hstands hmove)
        exact ⟨last, .head hmove hreached, hover⟩

theorem takes_of_ready {shift : Shift} (hstands : Stands settings shift) {herald : Herald}
    {buildsOpen commandsOpen : Bool}
    (hready : shift.desk = .ready herald buildsOpen commandsOpen) :
    herald = shift.herald ∧ (shift.builds ≠ [] → shift.desk.takesBuilds = true) ∧
      (shift.commands ≠ [] → shift.desk.takesCommands = true) := by
  cases hstands with
  | ready hbuilds hcommands =>
      obtain ⟨rfl, rfl, rfl⟩ := Desk.ready.inj hready
      refine ⟨rfl, fun hleft => ?_, fun hleft => ?_⟩
      · exact Bool.of_not_eq_false fun hclosed => hleft (hbuilds hclosed)
      · exact Bool.of_not_eq_false fun hclosed => hleft (hcommands hclosed)
  | busy => exact Desk.noConfusion hready
  | ended => exact Desk.noConfusion hready

theorem exhausted_of_over {shift : Shift} (hstands : Stands settings shift)
    (hover : shift.desk = .over) :
    shift.builds = [] ∧ shift.commands = [] ∧ shift.begun = none := by
  cases hstands with
  | ready => exact Desk.noConfusion hover
  | busy => exact Desk.noConfusion hover
  | ended => exact ⟨rfl, rfl, rfl⟩

/-- Whatever happens at the desk, the inputs are handled one after the other and each once, in the
order in which they come; both kinds are served to their end, which comes; and what is remembered of
the jobs is a matter of the builds alone. -/
theorem dispatch_coherent {shift : Shift}
    (hreached : Relation.ReflTransGen (Move settings) (start builds commands) shift) :
    (buildsIn (shift.past ++ shift.begun.toList) ++ shift.builds = builds ∧
        commandsIn (shift.past ++ shift.begun.toList) ++ shift.commands = commands) ∧
      (∀ herald buildsOpen commandsOpen, shift.desk = .ready herald buildsOpen commandsOpen →
        herald = shift.herald ∧ (shift.builds ≠ [] → shift.desk.takesBuilds = true) ∧
          (shift.commands ≠ [] → shift.desk.takesCommands = true)) ∧
      (shift.desk = .over → buildsIn shift.past = builds ∧ commandsIn shift.past = commands) ∧
      (shift.desk ≠ .over → ∃ after, Move settings shift after) ∧
      Acc (fun after before => Move settings before after) shift ∧
      Served settings shift.past shift.herald ∧
      Remembers shift.herald.streaks (buildsIn shift.past) := by
  have hcoherent := coherent_of_reached hreached
  have hstands := hcoherent.stands
  refine ⟨⟨hcoherent.builds_eq, hcoherent.commands_eq⟩,
    fun herald buildsOpen commandsOpen => takes_of_ready hstands, ?_, exists_move hstands,
    acc_move shift, hcoherent.served, ?_⟩
  · intro hover
    obtain ⟨hbuilds, hcommands, hbegun⟩ := exhausted_of_over hstands hover
    have hbuildsEq := hcoherent.builds_eq
    have hcommandsEq := hcoherent.commands_eq
    rw [hbegun, hbuilds, Option.toList_none, List.append_nil, List.append_nil] at hbuildsEq
    rw [hbegun, hcommands, Option.toList_none, List.append_nil, List.append_nil] at hcommandsEq
    exact ⟨hbuildsEq, hcommandsEq⟩
  · rw [streaks_of_served hcoherent.served]
    exact remembers_streaksOf _

def unitJob : Job :=
  ⟨"main", "web", "unit"⟩

def lintJob : Job :=
  ⟨"main", "web", "lint"⟩

def rerunUnit : Command :=
  ⟨"rerun", [], some unitJob⟩

def finished (id : Nat) (job : Job) (status : Status) : Build :=
  { id, name := "6", team := job.team, pipeline := some job.pipeline, jobName := some job.name,
    status }

def dashboardSettings : Settings :=
  ⟨"https://ci.example", .ofSeconds 60⟩

/-- A failure that cannot be told of, a command that starts the job again, a success of another job,
and the failure of what the command started. -/
def interleaved : List Handled :=
  [⟨⟨0⟩, .build (finished 101 unitJob .failed),
      [rendered 101 "exit code 1",
        notified (Change.broke.notification "https://ci.example" (finished 101 unitJob .failed)
          unitJob .none "exit code 1") (.error (.sendFailed "telegram" "no route"))]⟩,
    ⟨⟨1⟩, .command 0 rerunUnit,
      [said 0 "Rerunning main/web/unit...", begun unitJob (.ok 103)]⟩,
    ⟨⟨2⟩, .build (finished 102 lintJob .succeeded), []⟩,
    ⟨⟨3⟩, .build (finished 103 unitJob .failed), [said 0 "Job failed.", closed 0]⟩]

theorem exists_served_interleaved : ∃ herald, Served dashboardSettings interleaved herald := by
  have hfailed : Served dashboardSettings (interleaved.take 1)
      ⟨Streaks.record .empty (finished 101 unitJob .failed), .empty, .empty⟩ := by
    refine .next .fresh ?_
    refine runs_ask_iff.mpr ⟨"exit code 1", _, rfl, ?_⟩
    exact runs_ask_iff.mpr ⟨_, _, rfl, runs_done_iff.mpr ⟨rfl, rfl⟩⟩
  have hverb : Verb.ofName? rerunUnit.name = some .rerun := by decide
  have hrerun : Served dashboardSettings (interleaved.take 2) _ :=
    .next hfailed (runs_rerun _ hverb rfl)
  have hlint : Served dashboardSettings (interleaved.take 3) _ :=
    .next hrerun (runs_done_iff.mpr ⟨rfl, rfl⟩)
  exact ⟨_, .next hlint (runs_reported _ rfl)⟩

theorem interleaved_remembered :
    ∃ shift,
      Relation.ReflTransGen (Move dashboardSettings)
          (start [finished 101 unitJob .failed, finished 102 lintJob .succeeded,
            finished 103 unitJob .failed] [(0, rerunUnit)])
          shift ∧
        shift.desk = .over ∧ shift.past = interleaved ∧
          shift.herald.streaks.get unitJob = ⟨some .failed, 2⟩ ∧
          shift.herald.streaks.get lintJob = ⟨some .succeeded, 0⟩ ∧
          shift.herald.streaks.size = 2 := by
  obtain ⟨herald, hserved⟩ := exists_served_interleaved
  have hreached := (reached_of_served hserved [] []).trans (over_of_ready interleaved herald)
  obtain ⟨-, -, -, -, -, -, hremembers⟩ := dispatch_coherent hreached
  exact ⟨_, hreached, rfl, rfl, hremembers.foldl unitJob, hremembers.foldl lintJob,
    hremembers.size⟩

end BuildHerald.Proofs.Dispatch
