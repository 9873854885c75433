import BuildHerald.Proofs.MuteEntries

/-!
Each handler writes in its own places only.

A command writes at most one entry of one table, and a command that is not obeyed writes none. A build
writes under its job and its id. This holds of any herald, also of one that no inputs lead to.
-/

namespace BuildHerald.Proofs.OwnEntries

open BuildHerald.Herald
open BuildHerald.Time
open BuildHerald.Chat
open BuildHerald.Proofs.Conversation
open BuildHerald.Proofs.JobStatuses
open BuildHerald.Proofs.Announcements
open BuildHerald.Proofs.MuteEntries (spanAsked erase_of_get?_eq_none)

/-! ### One entry -/

section Table

variable {κ ν : Type} [DecidableEq κ]

/-- One entry has been written: there is this value under the key now, or none. All other keys have what
they had. -/
def Written (key : κ) (value : Option ν) (before after : Table κ ν) : Prop :=
  after.get? key = value ∧ ∀ other, other ≠ key → after.get? other = before.get? other

theorem written_put (table : Table κ ν) (key : κ) (value : ν) :
    Written key (some value) table (table.put key value) :=
  ⟨Table.get?_put_self .., fun _ hother => Table.get?_put_of_ne _ _ hother⟩

theorem written_erase (table : Table κ ν) (key : κ) : Written key none table (table.erase key) :=
  ⟨Table.get?_erase_self .., fun _ hother => Table.get?_erase_of_ne _ hother⟩

end Table

/-! ### Commands -/

section Command

variable {settings : Settings} {now : Instant} {herald after : Herald} {ticket : Ticket}
  {command : Command} {trace : List Done}

/-- The command mutes a job: it can be read for how long, and the end of the mute can be told. -/
structure MutesUntil (settings : Settings) (now : Instant) (command : Command) (job : Job)
    (expiry : Instant) : Prop where
  verb : Verb.ofName? command.name = some .mute
  target : command.job = some job
  ends : ∃ span, spanAsked settings command.args = some span ∧ now.later? span = some expiry

/-- The command asks for a build of a job, and the server starts the one of this id. -/
structure Starts (command : Command) (trace : List Done) (job : Job) (id : Nat) : Prop where
  verb : Verb.ofName? command.name = some .rerun
  target : command.job = some job
  started : begun job (.ok id) ∈ trace

/-- Why a command is not obeyed. -/
inductive Rejected (settings : Settings) (now : Instant) (command : Command) (trace : List Done) :
    Prop
  | unknown : Verb.ofName? command.name = none → Rejected settings now command trace
  | untargeted : command.job = none → Rejected settings now command trace
  | unreadable : Verb.ofName? command.name = some .mute → spanAsked settings command.args = none →
      Rejected settings now command trace
  | unreachable {span : Span} : Verb.ofName? command.name = some .mute →
      spanAsked settings command.args = some span → now.later? span = none →
        Rejected settings now command trace
  | notStarted {job : Job} {fault : ServerFault} : begun job (.error fault) ∈ trace →
      Rejected settings now command trace
  | notSwitched {scope : Scope} {job : Job} {paused : Bool} {fault : ServerFault} :
      switched scope job paused (.error fault) ∈ trace → Rejected settings now command trace

theorem muteExpiry_eq_ok_iff {args : List String} {expiry : Instant} :
    muteExpiry settings now args = .ok expiry ↔
      ∃ span, spanAsked settings args = some span ∧ now.later? span = some expiry := by
  unfold muteExpiry spanAsked
  cases args with
  | nil => cases hlater : now.later? settings.muteSpan <;> simp [hlater]
  | cons arg rest =>
      cases hspan : Span.ofText? arg.toList with
      | none => simp [hspan]
      | some span => cases hlater : now.later? span <;> simp [hspan, hlater]

/-- What a command does to the tables. -/
structure CommandWrites (settings : Settings) (now : Instant) (herald : Herald) (ticket : Ticket)
    (command : Command) (trace : List Done) (after : Herald) : Prop where
  streaks : after.streaks = herald.streaks
  muted : ∀ job expiry, MutesUntil settings now command job expiry →
    Written job (some expiry) herald.mutes after.mutes
  mutes : (∀ job expiry, ¬ MutesUntil settings now command job expiry) →
    after.mutes = herald.mutes
  started : ∀ job id, Starts command trace job id →
    Written id (some ticket) herald.awaited after.awaited
  awaited : (∀ job id, ¬ Starts command trace job id) → after.awaited = herald.awaited
  rejected : Rejected settings now command trace → after = herald

theorem not_mutesUntil_of_verb {verb : Option Verb} (hverb : Verb.ofName? command.name = verb)
    (hother : verb ≠ some .mute) (job : Job) (expiry : Instant) :
    ¬ MutesUntil settings now command job expiry :=
  fun hmutes => hother (hverb.symm.trans hmutes.verb)

theorem not_starts_of_verb {verb : Option Verb} (hverb : Verb.ofName? command.name = verb)
    (hother : verb ≠ some .rerun) (job : Job) (id : Nat) : ¬ Starts command trace job id :=
  fun hstarts => hother (hverb.symm.trans hstarts.verb)

/-- A command that neither mutes nor starts anything leaves everything as it was. -/
theorem commandWrites_self (hmutes : ∀ job expiry, ¬ MutesUntil settings now command job expiry)
    (hstarts : ∀ job id, ¬ Starts command trace job id) :
    CommandWrites settings now herald ticket command trace herald where
  streaks := rfl
  muted job expiry hmuted := absurd hmuted (hmutes job expiry)
  mutes _ := rfl
  started job id hstarted := absurd hstarted (hstarts job id)
  awaited _ := rfl
  rejected _ := rfl

theorem commandWrites_mute {job : Job} {expiry : Instant} {line : String}
    (hmutes : MutesUntil settings now command job expiry) :
    CommandWrites settings now herald ticket command [said ticket line, closed ticket]
      { herald with mutes := herald.mutes.put job expiry } where
  streaks := rfl
  muted other found hother := by
    obtain ⟨span, hspan, hexpiry⟩ := hmutes.ends
    obtain ⟨same, hsame, hfound⟩ := hother.ends
    obtain rfl := Option.some.inj (hmutes.target.symm.trans hother.target)
    obtain rfl := Option.some.inj (hspan.symm.trans hsame)
    obtain rfl := Option.some.inj (hexpiry.symm.trans hfound)
    exact written_put herald.mutes job expiry
  mutes hnone := absurd hmutes (hnone job expiry)
  started other id hstarts :=
    absurd hstarts (not_starts_of_verb hmutes.verb (by decide) other id)
  awaited _ := rfl
  rejected hrejected := by
    obtain ⟨hverb, hjob, span, hspan, hexpiry⟩ := hmutes
    cases hrejected with
    | unknown hother => simp [hverb] at hother
    | untargeted hother => simp [hjob] at hother
    | unreadable _ hother => simp [hspan] at hother
    | unreachable _ hother hnever =>
        obtain rfl := Option.some.inj (hspan.symm.trans hother)
        simp [hexpiry] at hnever
    | notStarted hmem => simp [said, begun, closed] at hmem
    | notSwitched hmem => simp [said, switched, closed] at hmem

theorem commandWrites_rerun {job : Job} {id : Nat} {line : String} {others : List Ticket}
    (hverb : Verb.ofName? command.name = some .rerun) (hjob : command.job = some job) :
    CommandWrites settings now herald ticket command
      ([said ticket line, begun job (.ok id)] ++ others.map closed)
      { herald with awaited := herald.awaited.put id ticket } where
  streaks := rfl
  muted other expiry hmutes :=
    absurd hmutes (not_mutesUntil_of_verb hverb (by decide) other expiry)
  mutes _ := rfl
  started other found hstarts := by
    obtain ⟨-, rfl⟩ : other = job ∧ found = id := by
      simpa [said, begun, closed] using hstarts.started
    exact written_put herald.awaited found ticket
  awaited hnone := absurd ⟨hverb, hjob, by simp⟩ (hnone job id)
  rejected hrejected := by
    cases hrejected with
    | unknown hother => simp [hverb] at hother
    | untargeted hother => simp [hjob] at hother
    | unreadable hother => simp [hverb] at hother
    | unreachable hother => simp [hverb] at hother
    | notStarted hmem => simp [said, begun, closed] at hmem
    | notSwitched hmem => simp [said, begun, switched, closed] at hmem

theorem commandWrites_of_commandHandled
    (hhandled : CommandHandled settings now herald ticket command trace after) :
    CommandWrites settings now herald ticket command trace after := by
  cases hhandled with
  | unknown hverb =>
      exact commandWrites_self (not_mutesUntil_of_verb hverb (by decide))
        (not_starts_of_verb hverb (by decide))
  | untargeted _ hjob =>
      refine commandWrites_self ?_ ?_
      · exact fun job _ hmutes => Option.some_ne_none job (hmutes.target.symm.trans hjob)
      · exact fun job _ hstarts => Option.some_ne_none job (hstarts.target.symm.trans hjob)
  | rerun hverb hjob => exact commandWrites_rerun hverb hjob
  | rerunFailed hverb =>
      refine commandWrites_self (not_mutesUntil_of_verb hverb (by decide)) ?_
      intro job id hstarts
      simpa [said, begun, closed] using hstarts.started
  | @paused _ verb paused _ hverb hpaused =>
      have hother : verb = .pause ∨ verb = .unpause := by
        cases paused
        · exact .inr hpaused
        · exact .inl hpaused
      refine commandWrites_self (not_mutesUntil_of_verb hverb ?_) (not_starts_of_verb hverb ?_)
      · rcases hother with rfl | rfl <;> decide
      · rcases hother with rfl | rfl <;> decide
  | muteRefused hverb _ hrefused =>
      refine commandWrites_self ?_ (not_starts_of_verb hverb (by decide))
      intro job expiry hmutes
      simp [muteExpiry_eq_ok_iff.mpr hmutes.ends] at hrefused
  | muted hverb hjob hexpiry =>
      exact commandWrites_mute ⟨hverb, hjob, muteExpiry_eq_ok_iff.mp hexpiry⟩

end Command

/-! ### Builds -/

section Build

variable {settings : Settings} {now : Instant} {herald after : Herald} {build : Build} {job : Job}
  {trace : List Done}

/-- The mute of the build's job is over when the build comes, and nobody waits for the build. -/
structure Lapses (now : Instant) (herald : Herald) (build : Build) (job : Job) : Prop where
  unawaited : herald.awaited.get? build.id = none
  job_eq : build.job? = some job
  passed : ∃ expiry, herald.mutes.get? job = some expiry ∧ expiry.nanos ≤ now.nanos

/-- What a finished build does to the tables. -/
structure BuildWrites (now : Instant) (herald : Herald) (build : Build) (after : Herald) : Prop where
  recorded : ∀ job, build.job? = some job →
    Written job (some ((herald.streaks.get job).record build.status)) herald.streaks after.streaks
  streaks : build.job? = none → after.streaks = herald.streaks
  reported : Written build.id none herald.awaited after.awaited
  awaited : herald.awaited.get? build.id = none → after.awaited = herald.awaited
  lapsed : ∀ job, Lapses now herald build job → Written job none herald.mutes after.mutes
  mutes : (∀ job, ¬ Lapses now herald build job) → after.mutes = herald.mutes

theorem snd_check_of_not_over {mutes : Mutes}
    (hlasts : ∀ expiry, mutes.get? job = some expiry → now.nanos < expiry.nanos) :
    (mutes.check job now).2 = mutes := by
  unfold Mutes.check
  cases hexpiry : mutes.get? job with
  | none => rfl
  | some expiry => exact congrArg Prod.snd (if_pos (hlasts expiry hexpiry))

theorem snd_check_of_over {mutes : Mutes} {expiry : Instant}
    (hexpiry : mutes.get? job = some expiry) (hover : expiry.nanos ≤ now.nanos) :
    (mutes.check job now).2 = mutes.erase job := by
  unfold Mutes.check
  rw [hexpiry]
  exact congrArg Prod.snd (if_neg (Int.not_lt.mpr hover))

/-- All tables after a build, whatever has been told of it. -/
theorem tables_of_buildHandled (hhandled : BuildHandled settings now herald build trace after) :
    after.streaks = herald.streaks.record build ∧
      after.awaited = herald.awaited.erase build.id ∧
      after.mutes =
        match herald.awaited.get? build.id, build.job? with
        | none, some job => (herald.mutes.check job now).2
        | _, _ => herald.mutes := by
  have hunasked (hnobody : herald.awaited.get? build.id = none) :
      herald.awaited = herald.awaited.erase build.id := (erase_of_get?_eq_none hnobody).symm
  refine ⟨streaks_of_buildHandled hhandled, ?_⟩
  cases hhandled with
  | reported hasked => simp [hasked]
  | passedOver hnobody hjob => simp [hjob, ← hunasked hnobody]
  | muted hnobody hjob => simp [hnobody, hjob, ← hunasked hnobody]
  | quiet hnobody hjob => simp [hnobody, hjob, ← hunasked hnobody]
  | announced hnobody hjob => simp [hnobody, hjob, ← hunasked hnobody]

theorem buildWrites_of_buildHandled
    (hhandled : BuildHandled settings now herald build trace after) :
    BuildWrites now herald build after := by
  obtain ⟨hstreaks, hawaited, hmutes⟩ := tables_of_buildHandled hhandled
  constructor
  case recorded =>
    intro job hjob
    rw [hstreaks, Streaks.record, hjob]
    exact written_put ..
  case streaks =>
    intro hjob
    rw [hstreaks, Streaks.record, hjob]
  case reported =>
    rw [hawaited]
    exact written_erase ..
  case awaited =>
    intro hnobody
    rw [hawaited, erase_of_get?_eq_none hnobody]
  case lapsed =>
    rintro job ⟨hnobody, hjob, expiry, hexpiry, hover⟩
    rw [hmutes, hnobody, hjob]
    change Written job none herald.mutes (herald.mutes.check job now).2
    rw [snd_check_of_over hexpiry hover]
    exact written_erase ..
  case mutes =>
    intro hnone
    rw [hmutes]
    split
    · next job hnobody hjob =>
        refine snd_check_of_not_over fun expiry hexpiry => Int.not_le.mp fun hover => ?_
        exact hnone job ⟨hnobody, hjob, expiry, hexpiry, hover⟩
    · rfl

end Build

/-- Whatever a herald remembers and whatever it is answered, what it handles changes these entries and no
others. -/
theorem only_own_entries_written (settings : Settings) (now : Instant) (herald : Herald) :
    (∀ ticket command trace after,
      Runs (herald.handleCommand settings now ticket command) trace after →
        CommandWrites settings now herald ticket command trace after) ∧
    ∀ build trace after, Runs (herald.handleBuild settings now build) trace after →
      BuildWrites now herald build after :=
  ⟨fun _ _ _ _ hruns => commandWrites_of_commandHandled (commandHandled_of_runs hruns),
    fun _ _ _ hruns => buildWrites_of_buildHandled (buildHandled_of_runs hruns)⟩

/-- A herald with two mutes, and somebody who waits for a build. -/
def heraldWithMutes : Herald :=
  ⟨.empty, (Table.empty.put ⟨"main", "web", "unit"⟩ ⟨5⟩).put ⟨"main", "web", "lint"⟩ ⟨5⟩,
    Table.empty.put 7 0⟩

/-- A mute that cannot be read changes nothing, and a build takes out the mute of its own job only. -/
theorem heraldWithMutes_written :
    (∃ trace after, Runs (heraldWithMutes.handleCommand webSettings ⟨9⟩ 1
        ⟨"mute", ["abc"], some ⟨"main", "web", "unit"⟩⟩) trace after ∧ after = heraldWithMutes) ∧
    ∃ trace after,
      Runs (heraldWithMutes.handleBuild webSettings ⟨9⟩ (failedBuild 102 "7")) trace after ∧
        after.mutes.get? ⟨"main", "web", "unit"⟩ = none ∧
        after.mutes.get? ⟨"main", "web", "lint"⟩ = some ⟨5⟩ ∧
        after.awaited = heraldWithMutes.awaited := by
  obtain ⟨hcommand, hbuild⟩ := only_own_entries_written webSettings ⟨9⟩ heraldWithMutes
  refine ⟨?_, ?_⟩
  · obtain ⟨trace, after, hruns⟩ := exists_runs nonempty_answer
      (heraldWithMutes.handleCommand webSettings ⟨9⟩ 1
        ⟨"mute", ["abc"], some ⟨"main", "web", "unit"⟩⟩)
    exact ⟨trace, after, hruns,
      (hcommand _ _ _ _ hruns).rejected (.unreadable (by decide) (by decide +kernel))⟩
  · obtain ⟨trace, after, hruns⟩ := exists_runs nonempty_answer
      (heraldWithMutes.handleBuild webSettings ⟨9⟩ (failedBuild 102 "7"))
    have hwrites := hbuild _ _ _ hruns
    have hlapsed := hwrites.lapsed ⟨"main", "web", "unit"⟩ ⟨rfl, rfl, ⟨5⟩, rfl, by decide⟩
    exact ⟨trace, after, hruns, hlapsed.1, hlapsed.2 ⟨"main", "web", "lint"⟩ (by decide),
      hwrites.awaited rfl⟩

end BuildHerald.Proofs.OwnEntries
