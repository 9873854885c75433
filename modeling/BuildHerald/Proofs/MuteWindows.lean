import BuildHerald.Proofs.SparedRuns

namespace BuildHerald.Proofs.MuteWindows

open BuildHerald.Herald
open BuildHerald.Time
open BuildHerald.Chat
open BuildHerald.Proofs.Conversation
open BuildHerald.Proofs.JobStatuses
open BuildHerald.Proofs.Announcements
open BuildHerald.Proofs.Footprints
open BuildHerald.Proofs.Waiting
open BuildHerald.Proofs.SideBySide
open BuildHerald.Proofs.Separation
open BuildHerald.Proofs.MuteEntries
open BuildHerald.Proofs.SparedRuns

variable {settings : Settings} {past later : List Handled} {herald after last : Herald}
  {handled : Handled} {job : Job} {expiry : Instant}

theorem not_muted_of_entry {now : Instant} (hover : expiry.nanos ≤ now.nanos)
    (hentry : herald.mutes.get? job = none ∨ herald.mutes.get? job = some expiry) :
    ∀ found, herald.mutes.get? job = some found → found.nanos ≤ now.nanos := by
  intro found hfound
  obtain hnone | hsome := hentry
  · exact absurd (hnone.symm.trans hfound) (Option.some_ne_none found).symm
  · obtain rfl := Option.some.inj (hsome.symm.trans hfound)
    exact hover

/-- The same can happen in handling a build, and it comes to the same. -/
def SameCourse (settings : Settings) (now : Instant) (build : Build) (herald other : Herald) : Prop :=
  ∀ trace next, Runs (herald.handleBuild settings now build) trace next →
    ∃ next', Runs (other.handleBuild settings now build) trace next' ∧
      AgreeOn Set.univ Set.univ next next'

theorem sameCourse_of_agreeOn {other : Herald} (now : Instant) (build : Build)
    (hagree : AgreeOn Set.univ Set.univ herald other) :
    SameCourse settings now build herald other := by
  intro trace next hruns
  let handled : Handled := ⟨now, .build build, trace⟩
  have hfits : ∀ done ∈ handled.trace, FitsIn Set.univ done.question done.answer done.answer :=
    fitsIn_self hruns fun _ _ => trivial
  exact exists_runs_of_lockstep (lockstep_handleBuild hagree (fun _ _ => trivial) trivial) hruns hfits

theorem sameCourse_of_spares {other : Herald} {now : Instant} {build : Build}
    (hspares : Spares job herald other) (hjob : build.job? = some job)
    (hawaited : herald.awaited.get? build.id = none)
    (hover : (herald.mutes.check job now).1 = false) :
    SameCourse settings now build herald other ∧ SameCourse settings now build other herald := by
  unfold SameCourse
  rw [handleBuild_unmuted hjob hawaited hover]
  exact ⟨sameCourse_of_agreeOn now build hspares, sameCourse_of_agreeOn now build hspares.symm⟩

/-- What has come of a mute, with the inputs before its end and those after it. -/
structure Holds (settings : Settings) (job : Job) (expiry : Instant) (before later : List Handled)
    (last : Herald) : Prop where
  stands : ¬ Lapsed before later job expiry → last.mutes.get? job = some expiry
  gone : Lapsed before later job expiry → last.mutes.get? job = none
  suppressed : ∀ now build trace next, Runs (last.handleBuild settings now build) trace next →
    build.job? = some job → waitingFor? (before ++ later) build.id = none →
      (∀ handled ∈ later, handled.now.nanos ≤ now.nanos) → now.nanos < expiry.nanos →
        notificationsIn trace = [] ∧ transcriptsIn trace = []
  told : ∀ now build trace next, Runs (last.handleBuild settings now build) trace next →
    build.job? = some job → waitingFor? (before ++ later) build.id = none →
      expiry.nanos ≤ now.nanos →
        let earlier := statusesOf job (buildsIn (before ++ later))
        (∀ change, Change.between? earlier.getLast? build.status = some change →
          ∃ transcript, notificationsIn trace =
            [notice settings build job change earlier transcript]) ∧
        (Change.between? earlier.getLast? build.status = none → notificationsIn trace = []) ∧
        next.mutes.get? job = none
  reported : ∀ now build trace next issuer,
    Runs (last.handleBuild settings now build) trace next →
      waitingFor? (before ++ later) build.id = some issuer →
        trace = [said issuer ("Job " ++ build.status.name ++ "."), closed issuer]
  spared_run : ∃ plain other, Served settings plain other ∧
    List.Forall₂ Alike (spared settings job (before ++ later)) plain
  as_if_never_muted : ∀ plain other, Served settings plain other →
    List.Forall₂ Alike (spared settings job (before ++ later)) plain →
      (∀ heard, heard ≠ job →
        notificationsAbout heard (before ++ later) = notificationsAbout heard plain) ∧
      ∀ now build, build.job? = some job → waitingFor? (before ++ later) build.id = none →
        expiry.nanos ≤ now.nanos →
          SameCourse settings now build last other ∧ SameCourse settings now build other last

theorem holds_of_goes {before : List Handled} (hserved : Served settings before herald)
    (hentry : herald.mutes.get? job = some expiry) (hgoes : Goes settings herald later last)
    (hnone : ∀ handled ∈ later, mutedBy? settings job handled = none) :
    Holds settings job expiry before later last := by
  have hall := served_append hserved hgoes
  obtain ⟨hgone, hstands⟩ := get?_mutes_of_goes hserved hentry hgoes hnone
  have hwaiting (id : Nat) : last.awaited.get? id = waitingFor? (before ++ later) id :=
    congrFun (awaited_of_served hall) id
  have hunmuted {now : Instant} (hover : expiry.nanos ≤ now.nanos) :
      ∀ found, last.mutes.get? job = some found → found.nanos ≤ now.nanos := by
    refine not_muted_of_entry hover ?_
    by_cases hlapsed : Lapsed before later job expiry
    · exact .inl (hgone hlapsed)
    · exact .inr (hstands hlapsed)
  constructor
  case stands => exact hstands
  case gone => exact hgone
  case suppressed =>
    intro now build trace next hruns hjob _ hclock hearly
    refine silent_of_not_callsFor hall ?_ (buildHandled_of_runs hruns)
    rintro ⟨found, change, hcalls⟩
    obtain rfl := Option.some.inj (hjob.symm.trans hcalls.job_eq)
    have hstill : ¬ Lapsed before later job expiry := by
      rintro ⟨calm, handled, rest, rfl, -, hpast⟩
      have horder := hclock handled List.mem_append_cons_self
      omega
    have hpast := hcalls.not_muted expiry (hstands hstill)
    omega
  case told =>
    intro now build trace next hruns hjob hnobody hover
    have hhandled := buildHandled_of_runs hruns
    have hunasked := (hwaiting build.id).trans hnobody
    refine ⟨?_, ?_, ?_⟩
    · intro change hchange
      obtain ⟨transcript, htold, -⟩ :=
        notice_of_callsFor hall ⟨hjob, hunasked, hunmuted hover, hchange⟩ hhandled
      exact ⟨transcript, htold⟩
    · intro hquiet
      refine (silent_of_not_callsFor hall ?_ hhandled).1
      rintro ⟨found, change, hcalls⟩
      obtain rfl := Option.some.inj (hjob.symm.trans hcalls.job_eq)
      exact absurd (hquiet.symm.trans hcalls.changes) (Option.some_ne_none change).symm
    · rw [get?_mutes_of_buildHandled hhandled, if_pos ⟨hunasked, hjob⟩]
      refine Option.filter_eq_none_iff.mpr ?_
      intro found hfound
      have hpast := hunmuted hover found hfound
      simpa using hpast
  case reported =>
    intro now build trace next issuer hruns hissuer
    have hasked := (hwaiting build.id).trans hissuer
    cases buildHandled_of_runs hruns with
    | reported hsame =>
        obtain rfl := Option.some.inj (hsame.symm.trans hasked)
        rfl
    | passedOver hnobody => simp [hasked] at hnobody
    | muted hnobody => simp [hasked] at hnobody
    | quiet hnobody => simp [hasked] at hnobody
    | announced hnobody => simp [hasked] at hnobody
  case spared_run =>
    obtain ⟨plain, other, hplain, halike⟩ :=
      exists_goes_spared (spares_fresh job) (goes_of_served hall)
    exact ⟨plain, other, served_of_goes hplain, halike⟩
  case as_if_never_muted =>
    intro plain other hplain halike
    obtain ⟨hspares, hothers⟩ :=
      spares_of_goes (spares_fresh job) (goes_of_served hall) (goes_of_served hplain) halike
    refine ⟨hothers, ?_⟩
    intro now build hjob hnobody hover
    exact sameCourse_of_spares hspares hjob ((hwaiting build.id).trans hnobody)
      ((fst_check_eq_false_iff _ _ _).mpr (hunmuted hover))

/-- A mute keeps a job from being told of until its expiry, which is as long after the command as was
asked for, and changes nothing else. -/
theorem mute_holds_until_expiry {ticket : Ticket} {command : Command} {span : Span} {now : Instant}
    {trace : List Done} (hverb : Verb.ofName? command.name = some .mute)
    (hjob : command.job = some job) (hspan : spanAsked settings command.args = some span)
    (hnow : now.InRange) (hexpiry : (⟨now.nanos + span.nanos⟩ : Instant).InRange)
    (hserved : Served settings (past ++ ⟨now, .command ticket command, trace⟩ :: later) last)
    (hnone : ∀ handled ∈ later, mutedBy? settings job handled = none) :
    trace =
        [said ticket ("Job " ++ job.display ++ " muted until " ++
          (⟨now.nanos + span.nanos⟩ : Instant).text ++ "."), closed ticket] ∧
      Holds settings job ⟨now.nanos + span.nanos⟩
        (past ++ [⟨now, .command ticket command, trace⟩]) later last := by
  obtain ⟨herald, hbefore, hgoes⟩ := exists_goes_of_served hserved
  have hmuted : mutedBy? settings job ⟨now, .command ticket command, trace⟩ =
      some ⟨now.nanos + span.nanos⟩ := by
    simp only [mutedBy?, hverb, hjob, and_self, if_true, muteExpiry_of_spanAsked hspan hnow hexpiry]
    rfl
  cases hgoes with
  | step hruns hgoes =>
      obtain ⟨⟨issuer, hissuer, htrace⟩, -⟩ := muted_of_mutedBy? hruns hmuted
      obtain rfl : ticket = issuer := Option.some.inj hissuer
      exact ⟨htrace, holds_of_goes (.next hbefore hruns) (get?_mutes_of_muted hruns hmuted) hgoes
        hnone⟩

def seconds (count : Int) : Instant :=
  ⟨count * 1000000000⟩

def muteAnswer (ticket : Ticket) (expiry : Instant) : List Done :=
  [said ticket ("Job " ++ unitJob.display ++ " muted until " ++ expiry.text ++ "."), closed ticket]

/-- A long mute, a short one in its place, and a build that fails just before the short one is over. -/
def shortenedMute : List Handled :=
  [⟨seconds 0, .command 0 ⟨"mute", ["2h"], some unitJob⟩, muteAnswer 0 (seconds 7200)⟩,
    ⟨seconds 10, .command 1 ⟨"mute", [], some unitJob⟩, muteAnswer 1 (seconds 70)⟩,
    ⟨seconds 69, .build (failedBuild 101 "6"), []⟩]

def heraldAfterMutes : Herald :=
  ⟨.empty, (Table.empty.put unitJob (seconds 7200)).put unitJob (seconds 70), .empty⟩

def heraldAfterShortenedMute : Herald :=
  { heraldAfterMutes with streaks := Streaks.record .empty (failedBuild 101 "6") }

theorem runs_muted {ticket : Ticket} {command : Command} {now : Instant} (herald : Herald)
    (hverb : Verb.ofName? command.name = some .mute) (hjob : command.job = some job)
    (hasked : muteExpiry settings now command.args = .ok expiry) :
    Runs (herald.handle settings now (.command ticket command))
      [said ticket ("Job " ++ job.display ++ " muted until " ++ expiry.text ++ "."), closed ticket]
      { herald with mutes := herald.mutes.put job expiry } := by
  change Runs (herald.handleCommand settings now ticket command) _ _
  simp only [handleCommand, hverb, hjob, mute, hasked]
  refine runs_ask_iff.mpr ⟨(), _, rfl, ?_⟩
  refine runs_ask_iff.mpr ⟨(), _, rfl, ?_⟩
  exact runs_done_iff.mpr ⟨rfl, rfl⟩

theorem served_shortenedMute : Served webSettings shortenedMute heraldAfterShortenedMute := by
  have hverb : Verb.ofName? "mute" = some .mute := by decide
  have hlong : muteExpiry webSettings (seconds 0) ["2h"] = .ok (seconds 7200) := by decide +kernel
  have hshort : muteExpiry webSettings (seconds 10) [] = .ok (seconds 70) := by decide +kernel
  have hfirst : Served webSettings (shortenedMute.take 1) _ :=
    .next .fresh (runs_muted .fresh hverb rfl hlong)
  have hsecond : Served webSettings (shortenedMute.take 2) heraldAfterMutes :=
    .next hfirst (runs_muted _ hverb rfl hshort)
  exact .next hsecond (runs_done_iff.mpr ⟨rfl, rfl⟩)

theorem shortenedMute_over :
    Served webSettings shortenedMute heraldAfterShortenedMute ∧
      Holds webSettings unitJob (seconds 70) (shortenedMute.take 2) (shortenedMute.drop 2)
        heraldAfterShortenedMute ∧
      ∃ trace next,
        Runs (heraldAfterShortenedMute.handleBuild webSettings (seconds 70) (failedBuild 102 "7"))
            trace next ∧
          next.mutes.get? unitJob = none ∧
          ∃ transcript, notificationsIn trace =
            [{ severity := .error
               title := "Job unit from web is still failing (2 times in a row)."
               link := "https://ci.example/teams/main/pipelines/web/jobs/unit/builds/7"
               job := unitJob
               output := transcript }] := by
  have hsplit : Served webSettings
      (shortenedMute.take 1 ++
        ⟨seconds 10, .command 1 ⟨"mute", [], some unitJob⟩, muteAnswer 1 (seconds 70)⟩ ::
          shortenedMute.drop 2) heraldAfterShortenedMute :=
    served_shortenedMute
  have hholds : Holds webSettings unitJob (seconds 70) (shortenedMute.take 2) (shortenedMute.drop 2)
      heraldAfterShortenedMute :=
    (mute_holds_until_expiry (by decide) rfl rfl (by decide) (by decide) hsplit (by decide)).2
  obtain ⟨trace, next, hruns⟩ := exists_runs nonempty_answer
    (heraldAfterShortenedMute.handleBuild webSettings (seconds 70) (failedBuild 102 "7"))
  obtain ⟨htold, -, hgone⟩ := hholds.told _ _ _ _ hruns rfl (by decide) (by decide)
  obtain ⟨transcript, hnotified⟩ := htold .staysBroken (by decide)
  exact ⟨served_shortenedMute, hholds, trace, next, hruns, hgone, transcript, hnotified⟩

end BuildHerald.Proofs.MuteWindows
