import BuildHerald.Proofs.Replies
import Mathlib.Data.Set.Basic

/-!
Two heralds that handle the same input side by side.

They run the same errands, and their entries under the job and the ids of the input stay alike, as long
as those were alike before and the answers are the same. What came of a notification does not matter.
-/

namespace BuildHerald.Proofs.SideBySide

open BuildHerald.Herald
open BuildHerald.Time
open BuildHerald.Chat
open BuildHerald.Proofs.Conversation
open BuildHerald.Proofs.JobStatuses
open BuildHerald.Proofs.Announcements
open BuildHerald.Proofs.Footprints
open BuildHerald.Proofs.Replies

/-! ### Procedures side by side -/

section Dialogue

variable {Question : Type} {Answer : Question → Type} {α β γ δ : Type}

/-- Two procedures put the same questions as long as they get fitting answers, and have matching
results. -/
inductive Lockstep (Fits : (question : Question) → Answer question → Answer question → Prop)
    (Match : α → β → Prop) : Dialogue Question Answer α → Dialogue Question Answer β → Prop
  | done {result : α} {result' : β} :
      Match result result' → Lockstep Fits Match (.done result) (.done result')
  | ask (question : Question) {next : Answer question → Dialogue Question Answer α}
      {next' : Answer question → Dialogue Question Answer β} :
      (∀ answer answer', Fits question answer answer' →
        Lockstep Fits Match (next answer) (next' answer')) →
          Lockstep Fits Match (.ask question next) (.ask question next')

/-- Wherever both traces have an answer to one question, the answers fit. -/
def Agreed (Fits : (question : Question) → Answer question → Answer question → Prop)
    (trace trace' : List (Turn Answer)) : Prop :=
  ∀ question answer answer', ⟨question, answer⟩ ∈ trace → ⟨question, answer'⟩ ∈ trace' →
    Fits question answer answer'

variable {Fits : (question : Question) → Answer question → Answer question → Prop}
  {Match : α → β → Prop} {Match' : γ → δ → Prop}
  {first : Dialogue Question Answer α} {first' : Dialogue Question Answer β}

theorem lockstep_bind {second : α → Dialogue Question Answer γ}
    {second' : β → Dialogue Question Answer δ} (hfirst : Lockstep Fits Match first first')
    (hsecond : ∀ result result', Match result result' →
      Lockstep Fits Match' (second result) (second' result')) :
    Lockstep Fits Match' (first >>= second) (first' >>= second') := by
  induction hfirst with
  | done hmatch => exact hsecond _ _ hmatch
  | ask question _ ih => exact .ask question fun answer answer' hfits => ih answer answer' hfits

theorem match_of_lockstep {trace trace' : List (Turn Answer)} {result : α} {result' : β}
    (hlockstep : Lockstep Fits Match first first') (hruns : Runs first trace result)
    (hruns' : Runs first' trace' result') (hagreed : Agreed Fits trace trace') :
    Match result result' ∧ trace.map Turn.question = trace'.map Turn.question := by
  induction hlockstep generalizing trace trace' with
  | done hmatch =>
      obtain ⟨rfl, rfl⟩ := runs_done_iff.mp hruns
      obtain ⟨rfl, rfl⟩ := runs_done_iff.mp hruns'
      exact ⟨hmatch, rfl⟩
  | ask question _ ih =>
      obtain ⟨answer, rest, rfl, hrest⟩ := runs_ask_iff.mp hruns
      obtain ⟨answer', rest', rfl, hrest'⟩ := runs_ask_iff.mp hruns'
      have hfits := hagreed question answer answer' List.mem_cons_self List.mem_cons_self
      have hlater : Agreed Fits rest rest' := fun other told told' hmem hmem' =>
        hagreed other told told' (List.mem_cons_of_mem _ hmem) (List.mem_cons_of_mem _ hmem')
      obtain ⟨hmatch, hquestions⟩ := ih answer answer' hfits hrest hrest' hlater
      exact ⟨hmatch, by rw [List.map_cons, List.map_cons, hquestions]⟩

/-- What one of them goes through the other can go through too, if the answers fit themselves. -/
theorem exists_runs_of_lockstep {trace : List (Turn Answer)} {result : α}
    (hlockstep : Lockstep Fits Match first first') (hruns : Runs first trace result)
    (hfits : ∀ turn ∈ trace, Fits turn.question turn.answer turn.answer) :
    ∃ result', Runs first' trace result' ∧ Match result result' := by
  induction hlockstep generalizing trace with
  | @done _ result' hmatch =>
      obtain ⟨rfl, rfl⟩ := runs_done_iff.mp hruns
      exact ⟨result', .done result', hmatch⟩
  | ask question _ ih =>
      obtain ⟨answer, rest, rfl, hrest⟩ := runs_ask_iff.mp hruns
      obtain ⟨result', hruns', hmatch⟩ := ih answer answer (hfits _ List.mem_cons_self) hrest
        fun turn hmem => hfits turn (List.mem_cons_of_mem _ hmem)
      exact ⟨result', .ask question answer hruns', hmatch⟩

end Dialogue

/-! ### Answers that fit -/

/-- Two answers to an errand are the same, or tell what came of a notification. -/
def Fits : (errand : Errand) → errand.Answer → errand.Answer → Prop
  | .notify _, _, _ => True
  | _, answer, answer' => answer = answer'

/-- Two answers fit, and the builds that were started have ids among these. -/
def FitsIn (ids : Set Nat) : (errand : Errand) → errand.Answer → errand.Answer → Prop
  | .start _, answer, answer' => answer = answer' ∧ ∀ id, answer = .ok id → id ∈ ids
  | errand, answer, answer' => Fits errand answer answer'

theorem fitsIn_of_fits {ids : Set Nat} {errand : Errand} {answer answer' : errand.Answer}
    (hfits : Fits errand answer answer')
    (hids : ∀ job id, (⟨errand, answer⟩ : Done) = begun job (.ok id) → id ∈ ids) :
    FitsIn ids errand answer answer' := by
  cases errand with
  | transcribe => exact hfits
  | start job =>
      refine ⟨hfits, ?_⟩
      rintro id rfl
      exact hids job id rfl
  | setPaused => exact hfits
  | notify => exact hfits
  | reply => exact hfits
  | close => exact hfits

theorem fits_refl (errand : Errand) (answer : errand.Answer) : Fits errand answer answer := by
  cases errand with
  | notify => trivial
  | transcribe => rfl
  | start => rfl
  | setPaused => rfl
  | reply => rfl
  | close => rfl

theorem fits_symm {errand : Errand} {answer answer' : errand.Answer}
    (hfits : Fits errand answer answer') : Fits errand answer' answer := by
  cases errand with
  | notify => trivial
  | transcribe => exact Eq.symm hfits
  | start => exact Eq.symm hfits
  | setPaused => exact Eq.symm hfits
  | reply => exact Eq.symm hfits
  | close => exact Eq.symm hfits

theorem mem_startsIn_iff {id : Nat} {trace : List Done} :
    id ∈ startsIn trace ↔ ∃ job, begun job (.ok id) ∈ trace := by
  rw [startsIn, List.mem_filterMap]
  constructor
  · rintro ⟨⟨errand, answer⟩, hmem, hstart⟩
    cases errand with
    | start job =>
        cases answer with
        | error => simp at hstart
        | ok started =>
            obtain rfl : started = id := by simpa using hstart
            exact ⟨job, hmem⟩
    | transcribe => simp at hstart
    | setPaused => simp at hstart
    | notify => simp at hstart
    | reply => simp at hstart
    | close => simp at hstart
  · rintro ⟨job, hmem⟩
    exact ⟨_, hmem, rfl⟩

/-! ### Heralds side by side -/

/-- Two heralds remember the same of these jobs and of these builds. -/
structure AgreeOn (jobs : Set Job) (ids : Set Nat) (first second : Herald) : Prop where
  streaks : ∀ job ∈ jobs, first.streaks.get? job = second.streaks.get? job
  mutes : ∀ job ∈ jobs, first.mutes.get? job = second.mutes.get? job
  awaited : ∀ id ∈ ids, first.awaited.get? id = second.awaited.get? id

namespace AgreeOn

variable {jobs fewer : Set Job} {ids smaller : Set Nat} {first second third : Herald}

theorem refl (jobs : Set Job) (ids : Set Nat) (herald : Herald) : AgreeOn jobs ids herald herald :=
  ⟨fun _ _ => rfl, fun _ _ => rfl, fun _ _ => rfl⟩

theorem symm (hagree : AgreeOn jobs ids first second) : AgreeOn jobs ids second first :=
  ⟨fun job hjob => (hagree.streaks job hjob).symm, fun job hjob => (hagree.mutes job hjob).symm,
    fun id hid => (hagree.awaited id hid).symm⟩

theorem trans (hfirst : AgreeOn jobs ids first second) (hsecond : AgreeOn jobs ids second third) :
    AgreeOn jobs ids first third :=
  ⟨fun job hjob => (hfirst.streaks job hjob).trans (hsecond.streaks job hjob),
    fun job hjob => (hfirst.mutes job hjob).trans (hsecond.mutes job hjob),
    fun id hid => (hfirst.awaited id hid).trans (hsecond.awaited id hid)⟩

theorem mono (hagree : AgreeOn jobs ids first second) (hjobs : fewer ⊆ jobs)
    (hids : smaller ⊆ ids) : AgreeOn fewer smaller first second :=
  ⟨fun job hjob => hagree.streaks job (hjobs hjob), fun job hjob => hagree.mutes job (hjobs hjob),
    fun id hid => hagree.awaited id (hids hid)⟩

end AgreeOn

section Handle

variable {jobs : Set Job} {ids : Set Nat} {settings : Settings} {now : Instant}
  {first second : Herald}

theorem get?_record_congr {streaks streaks' : Streaks} {build : Build} {job : Job}
    (hsame : streaks.get? job = streaks'.get? job) :
    (streaks.record build).get? job = (streaks'.record build).get? job := by
  by_cases hjob : build.job? = some job
  · simp only [Streaks.record, hjob, Streaks.get, hsame, Table.get?_put_self]
  · rw [get?_record_of_ne streaks hjob, get?_record_of_ne streaks' hjob, hsame]

theorem lockstep_announce (build : Build) (job : Job) (streak : Streak) (change : Change) :
    Lockstep (FitsIn ids) Eq (announce settings build job streak change)
      (announce settings build job streak change) := by
  unfold announce
  cases change.showsTranscript with
  | true =>
      refine .ask _ ?_
      rintro transcript _ rfl
      exact .ask _ fun _ _ _ => .done rfl
  | false => exact .ask _ fun _ _ _ => .done rfl

theorem agreeOn_recorded {build : Build} {mutes mutes' : Mutes} {awaited awaited' : Table Nat Ticket}
    (hagree : AgreeOn jobs ids first second)
    (hmutes : ∀ job ∈ jobs, mutes.get? job = mutes'.get? job)
    (hawaited : ∀ id ∈ ids, awaited.get? id = awaited'.get? id) :
    AgreeOn jobs ids ⟨first.streaks.record build, mutes, awaited⟩
      ⟨second.streaks.record build, mutes', awaited'⟩ :=
  ⟨fun job hjob => get?_record_congr (hagree.streaks job hjob), hmutes, hawaited⟩

theorem lockstep_handleBuild {build : Build} (hagree : AgreeOn jobs ids first second)
    (hjob : ∀ job, build.job? = some job → job ∈ jobs) (hid : build.id ∈ ids) :
    Lockstep (FitsIn ids) (AgreeOn jobs ids) (first.handleBuild settings now build)
      (second.handleBuild settings now build) := by
  unfold handleBuild
  rw [hagree.awaited _ hid]
  cases second.awaited.get? build.id with
  | some ticket =>
      refine .ask _ fun _ _ _ => .ask _ fun _ _ _ => .done ?_
      refine agreeOn_recorded hagree hagree.mutes ?_
      intro id hmem
      rw [get?_erase, get?_erase, hagree.awaited id hmem]
  | none =>
      cases hheard : build.job? with
      | none => exact .done hagree
      | some job =>
          have hmem := hjob job hheard
          have hstreak : first.streaks.get job = second.streaks.get job := by
            rw [Streaks.get, hagree.streaks job hmem]
            rfl
          have hmuted : (first.mutes.check job now).1 = (second.mutes.check job now).1 := by
            rw [fst_check, fst_check, hagree.mutes job hmem]
          have hafter : AgreeOn jobs ids
              ⟨first.streaks.record build, (first.mutes.check job now).2, first.awaited⟩
              ⟨second.streaks.record build, (second.mutes.check job now).2, second.awaited⟩ := by
            refine agreeOn_recorded hagree ?_ hagree.awaited
            intro other hother
            rw [get?_snd_check, get?_snd_check, hagree.mutes other hother]
          simp only [hstreak, hmuted]
          cases (second.mutes.check job now).1 with
          | true => exact .done hafter
          | false =>
              cases Change.between? (second.streaks.get job).last build.status with
              | none => exact .done hafter
              | some change =>
                  refine lockstep_bind (lockstep_announce build job _ change) ?_
                  rintro - - -
                  exact .done hafter

theorem lockstep_rerun {ticket : Ticket} {job : Job} (hagree : AgreeOn jobs ids first second) :
    Lockstep (FitsIn ids) (AgreeOn jobs ids) (rerun first ticket job)
      (rerun second ticket job) := by
  refine .ask _ fun _ _ _ => .ask _ ?_
  rintro answer _ ⟨rfl, hids⟩
  cases answer with
  | error fault => exact .ask _ fun _ _ _ => .ask _ fun _ _ _ => .done hagree
  | ok id =>
      have hafter : AgreeOn jobs ids { first with awaited := first.awaited.put id ticket }
          { second with awaited := second.awaited.put id ticket } := by
        refine ⟨hagree.streaks, hagree.mutes, ?_⟩
        intro other hother
        rw [get?_put, get?_put, hagree.awaited other hother]
      simp only [Dialogue.andThen, hagree.awaited id (hids id rfl)]
      cases second.awaited.get? id with
      | none => exact .done hafter
      | some other => exact .ask _ fun _ _ _ => .done hafter

theorem lockstep_setPaused {ticket : Ticket} (command : Command) (job : Job) (paused : Bool) :
    Lockstep (FitsIn ids) Eq (setPaused ticket command job paused)
      (setPaused ticket command job paused) := by
  unfold setPaused
  refine .ask _ ?_
  rintro answer _ rfl
  exact .ask _ fun _ _ _ => .ask _ fun _ _ _ => .done rfl

theorem lockstep_mute {ticket : Ticket} {command : Command} {job : Job}
    (hagree : AgreeOn jobs ids first second) :
    Lockstep (FitsIn ids) (AgreeOn jobs ids) (mute settings now first ticket command job)
      (mute settings now second ticket command job) := by
  unfold mute
  cases muteExpiry settings now command.args with
  | error line => exact .ask _ fun _ _ _ => .ask _ fun _ _ _ => .done hagree
  | ok expiry =>
      refine .ask _ fun _ _ _ => .ask _ fun _ _ _ => .done ?_
      refine ⟨hagree.streaks, ?_, hagree.awaited⟩
      intro other hother
      rw [get?_put, get?_put, hagree.mutes other hother]

theorem lockstep_handleCommand {ticket : Ticket} {command : Command}
    (hagree : AgreeOn jobs ids first second) :
    Lockstep (FitsIn ids) (AgreeOn jobs ids) (first.handleCommand settings now ticket command)
      (second.handleCommand settings now ticket command) := by
  have hrefuse (line : String) : Lockstep (FitsIn ids) (AgreeOn jobs ids)
      (refuse first ticket line) (refuse second ticket line) :=
    .ask _ fun _ _ _ => .ask _ fun _ _ _ => .done hagree
  unfold handleCommand
  cases Verb.ofName? command.name with
  | none => exact hrefuse _
  | some verb =>
      cases command.job with
      | none => exact hrefuse _
      | some job =>
          cases verb with
          | rerun => exact lockstep_rerun hagree
          | pause =>
              exact lockstep_bind (lockstep_setPaused command job true) fun _ _ _ => .done hagree
          | unpause =>
              exact lockstep_bind (lockstep_setPaused command job false) fun _ _ _ => .done hagree
          | mute => exact lockstep_mute hagree

theorem lockstep_handle {handled : Handled} (hagree : AgreeOn jobs ids first second)
    (hjobs : ∀ job, subject? handled.input = some job → job ∈ jobs)
    (hids : ∀ id ∈ idsIn handled, id ∈ ids) :
    Lockstep (FitsIn ids) (AgreeOn jobs ids) (first.handle settings handled.now handled.input)
      (second.handle settings handled.now handled.input) := by
  obtain ⟨now, input, trace⟩ := handled
  cases input with
  | build build => exact lockstep_handleBuild hagree hjobs (hids _ (List.mem_singleton.mpr rfl))
  | command ticket command =>
      change Lockstep _ _ (first.handleCommand settings now ticket command)
        (second.handleCommand settings now ticket command)
      exact lockstep_handleCommand hagree

end Handle

/-! ### Alike inputs -/

variable {settings : Settings} {herald after : Herald} {handled : Handled}

/-- The same input at the same time, and the same answers to its errands. What came of notifications
may differ. -/
structure Alike (first second : Handled) : Prop where
  now : first.now = second.now
  input : first.input = second.input
  answers : Agreed Fits first.trace second.trace

theorem Alike.symm {first second : Handled} (halike : Alike first second) : Alike second first where
  now := halike.now.symm
  input := halike.input.symm
  answers errand answer answer' hmem hmem' :=
    fits_symm (halike.answers errand answer' answer hmem' hmem)

theorem alike_self (hquestions : (handled.trace.map Turn.question).Nodup) :
    Alike handled handled := by
  refine ⟨rfl, rfl, ?_⟩
  intro errand answer answer' hmem hmem'
  have hsame := List.inj_on_of_nodup_map hquestions hmem hmem' rfl
  cases hsame
  exact fits_refl errand answer

/-- The errand has an answer that can be this or that, and it matters which. -/
def weighty : Errand → Bool
  | .transcribe _ | .start _ | .setPaused .. => true
  | .notify _ | .reply .. | .close _ => false

theorem length_weighty_le
    (hruns : Runs (herald.handle settings handled.now handled.input) handled.trace after) :
    (handled.trace.filter fun done => weighty done.question).length ≤ 1 := by
  obtain ⟨now, input, trace⟩ := handled
  cases input with
  | build build =>
      cases buildHandled_of_handle hruns with
      | @announced _ change _ _ _ _ _ hannounces =>
          obtain ⟨transcript, answer, rfl⟩ := hannounces
          cases change.showsTranscript <;> exact Nat.le_of_ble_eq_true rfl
      | _ => exact Nat.zero_le 1
  | command ticket command =>
      cases commandHandled_of_handle hruns with
      | @rerun job id =>
          cases herald.awaited.get? id <;> exact Nat.le_of_ble_eq_true rfl
      | rerunFailed => exact Nat.le_of_ble_eq_true rfl
      | paused => exact Nat.le_of_ble_eq_true rfl
      | _ => exact Nat.zero_le 1

theorem alike_of_runs
    (hruns : Runs (herald.handle settings handled.now handled.input) handled.trace after) :
    Alike handled handled := by
  refine ⟨rfl, rfl, ?_⟩
  intro errand answer answer' hmem hmem'
  cases hweighty : weighty errand with
  | false =>
      cases errand with
      | notify => trivial
      | reply => rfl
      | close => rfl
      | _ => exact absurd hweighty (Bool.false_ne_true ∘ Eq.symm)
  | true =>
      have hboth (other : errand.Answer) (hother : (⟨errand, other⟩ : Done) ∈ handled.trace) :
          (⟨errand, other⟩ : Done) ∈ handled.trace.filter fun done => weighty done.question :=
        List.mem_filter.mpr ⟨hother, hweighty⟩
      have hfew := length_weighty_le hruns
      have hfirst := hboth answer hmem
      have hsecond := hboth answer' hmem'
      cases hall : handled.trace.filter fun done => weighty done.question with
      | nil =>
          rw [hall] at hfirst
          exact absurd hfirst List.not_mem_nil
      | cons only rest =>
          rw [hall] at hfew hfirst hsecond
          obtain rfl : rest = [] :=
            List.length_eq_zero_iff.mp (Nat.le_zero.mp (Nat.le_of_succ_le_succ hfew))
          have hsame := (List.mem_singleton.mp hfirst).trans (List.mem_singleton.mp hsecond).symm
          cases hsame
          exact fits_refl errand answer

theorem mem_idsIn_of_begun {other : Job} {id : Nat}
    (hruns : Runs (herald.handle settings handled.now handled.input) handled.trace after)
    (hbegun : begun other (.ok id) ∈ handled.trace) : id ∈ idsIn handled := by
  obtain ⟨now, input, trace⟩ := handled
  have hstarts : id ∈ startsIn trace := mem_startsIn_iff.mpr ⟨other, hbegun⟩
  cases input with
  | command => exact hstarts
  | build build =>
      rw [startsIn_of_buildHandled (buildHandled_of_handle hruns)] at hstarts
      exact absurd hstarts List.not_mem_nil

theorem fitsIn_self {ids : Set Nat}
    (hruns : Runs (herald.handle settings handled.now handled.input) handled.trace after)
    (hids : ∀ id ∈ idsIn handled, id ∈ ids) :
    ∀ done ∈ handled.trace, FitsIn ids done.question done.answer done.answer := by
  rintro ⟨errand, answer⟩ hmem
  refine fitsIn_of_fits (fits_refl errand answer) ?_
  intro other id hbegun
  exact hids id (mem_idsIn_of_begun hruns (hbegun ▸ hmem))

theorem begun_of_rerun {ticket : Ticket} {command : Command} {job : Job} {now : Instant}
    {trace : List Done}
    (hhandled : CommandHandled settings now herald ticket command trace after)
    (hverb : Verb.ofName? command.name = some .rerun) (hjob : command.job = some job) :
    ∃ answer, begun job answer ∈ trace ∧ startsIn trace = answer.toOption.toList := by
  cases hhandled with
  | unknown hother => simp [hverb] at hother
  | untargeted _ hother => simp [hjob] at hother
  | @rerun other id _ hother =>
      obtain rfl := Option.some.inj (hjob.symm.trans hother)
      exact ⟨.ok id, by simp, startsIn_rerun _ _ _ _ _⟩
  | @rerunFailed other fault _ hother =>
      obtain rfl := Option.some.inj (hjob.symm.trans hother)
      exact ⟨.error fault, by simp, rfl⟩
  | @paused _ _ paused _ hpausing heq =>
      obtain rfl := Option.some.inj (hverb.symm.trans hpausing)
      cases paused <;> simp at heq
  | muteRefused hmuting => simp [hverb] at hmuting
  | muted hmuting => simp [hverb] at hmuting

theorem agreeOn_of_runs {jobs : Set Job} {ids : Set Nat}
    (hruns : Runs (herald.handle settings handled.now handled.input) handled.trace after)
    (hjobs : ∀ job ∈ jobs, subject? handled.input ≠ some job)
    (hids : ∀ id ∈ ids, id ∉ idsIn handled) : AgreeOn jobs ids herald after where
  streaks job hjob := (get?_streaks_of_runs hruns (hjobs job hjob)).symm
  mutes job hjob := (get?_mutes_of_runs hruns (hjobs job hjob)).symm
  awaited id hid := by rw [get?_awaited_of_runs hruns, if_neg (hids id hid)]

section Pair

variable {first second : Handled} {herald' after' : Herald}

theorem idsIn_eq_of_alike
    (hruns : Runs (herald.handle settings first.now first.input) first.trace after)
    (hruns' : Runs (herald'.handle settings second.now second.input) second.trace after')
    (halike : Alike first second) : idsIn first = idsIn second := by
  obtain ⟨now, input, trace⟩ := first
  obtain ⟨now', input', trace'⟩ := second
  obtain ⟨rfl, rfl, hanswers⟩ := halike
  cases input with
  | build build => rfl
  | command ticket command =>
      have hhandled := commandHandled_of_handle hruns
      have hhandled' := commandHandled_of_handle hruns'
      change startsIn trace = startsIn trace'
      by_cases hcommand : Verb.ofName? command.name ≠ some .rerun ∨ command.job = none
      · rw [(told_at_once hhandled hcommand).1, (told_at_once hhandled' hcommand).1]
      · rw [not_or, not_ne_iff] at hcommand
        obtain ⟨job, hjob⟩ := Option.ne_none_iff_exists'.mp hcommand.2
        obtain ⟨answer, hbegun, hstarts⟩ := begun_of_rerun hhandled hcommand.1 hjob
        obtain ⟨answer', hbegun', hstarts'⟩ := begun_of_rerun hhandled' hcommand.1 hjob
        have hsame : answer = answer' := hanswers _ _ _ hbegun hbegun'
        rw [hstarts, hstarts', hsame]

theorem agreed_fitsIn {ids : Set Nat}
    (hruns : Runs (herald.handle settings first.now first.input) first.trace after)
    (hids : ∀ id ∈ idsIn first, id ∈ ids) (halike : Alike first second) :
    Agreed (FitsIn ids) first.trace second.trace := by
  intro errand answer answer' hmem hmem'
  refine fitsIn_of_fits (halike.answers errand answer answer' hmem hmem') ?_
  intro other id hbegun
  exact hids id (mem_idsIn_of_begun hruns (hbegun ▸ hmem))

/-- Heralds that agree on what an input is about still agree after alike inputs, and have run the same
errands. -/
theorem agreeOn_of_alike {jobs : Set Job} {ids : Set Nat} (hagree : AgreeOn jobs ids herald herald')
    (hruns : Runs (herald.handle settings first.now first.input) first.trace after)
    (hruns' : Runs (herald'.handle settings second.now second.input) second.trace after')
    (halike : Alike first second)
    (hjobs : ∀ job, subject? first.input = some job → job ∈ jobs)
    (hids : ∀ id ∈ idsIn first, id ∈ ids) :
    AgreeOn jobs ids after after' ∧
      first.trace.map Turn.question = second.trace.map Turn.question := by
  have hagreed := agreed_fitsIn hruns hids halike
  rw [← halike.now, ← halike.input] at hruns'
  exact match_of_lockstep (lockstep_handle hagree hjobs hids) hruns hruns' hagreed

end Pair

theorem agreeOn_of_goes {past past' : List Handled} {herald herald' last last' : Herald}
    (hgoes : Goes settings herald past last) (hgoes' : Goes settings herald' past' last')
    (halike : List.Forall₂ Alike past past')
    (hagree : AgreeOn Set.univ Set.univ herald herald') :
    AgreeOn Set.univ Set.univ last last' ∧
      List.Forall₂ (fun first second =>
        first.trace.map Turn.question = second.trace.map Turn.question) past past' := by
  induction halike generalizing herald herald' with
  | nil =>
      cases hgoes
      cases hgoes'
      exact ⟨hagree, .nil⟩
  | cons hfirst _ ih =>
      cases hgoes with
      | step hruns hgoes =>
          cases hgoes' with
          | step hruns' hgoes' =>
              obtain ⟨hafter, hquestions⟩ := agreeOn_of_alike hagree hruns hruns' hfirst
                (fun _ _ => trivial) (fun _ _ => trivial)
              obtain ⟨hlast, hrest⟩ := ih hgoes hgoes' hafter
              exact ⟨hlast, .cons hquestions hrest⟩

end BuildHerald.Proofs.SideBySide
