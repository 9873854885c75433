import BuildHerald.Proofs.JobStatuses

/-!
When a build is told of, and how.

A reference keeps the statuses, the mutes and the awaited builds of a run as plain lists and functions,
and reads off them which notifications are due. The herald's tables agree with it after every input.
-/

namespace BuildHerald.Proofs.Announcements

open BuildHerald.Herald
open BuildHerald.Time
open BuildHerald.Chat
open BuildHerald.Proofs.Conversation
open BuildHerald.Proofs.JobStatuses

/-! ### What is in a trace -/

def notificationsIn (trace : List Done) : List Notification :=
  trace.filterMap fun done =>
    match done with
    | ⟨.notify notification, _⟩ => some notification
    | _ => none

/-- The builds whose transcripts were asked for, with the transcripts. -/
def transcriptsIn (trace : List Done) : List (Nat × String) :=
  trace.filterMap fun done =>
    match done with
    | ⟨.transcribe build, transcript⟩ => some (build, transcript)
    | _ => none

/-- The builds that were started. -/
def startsIn (trace : List Done) : List Nat :=
  trace.filterMap fun done =>
    match done with
    | ⟨.start _, .ok id⟩ => some id
    | _ => none

/-! ### Mutes -/

/-- What is left of a mute at an instant. -/
def lasting (now : Instant) (expiry : Option Instant) : Option Instant :=
  expiry.filter fun expiry => now.nanos < expiry.nanos

theorem fst_check (mutes : Mutes) (job : Job) (now : Instant) :
    (mutes.check job now).1 = (lasting now (mutes.get? job)).isSome := by
  unfold Mutes.check lasting
  cases hexpiry : mutes.get? job with
  | none => rfl
  | some expiry =>
      by_cases hlasts : now.nanos < expiry.nanos
      · simp [hlasts]
      · simp [hlasts]

theorem fst_check_eq_false_iff (mutes : Mutes) (job : Job) (now : Instant) :
    (mutes.check job now).1 = false ↔
      ∀ expiry, mutes.get? job = some expiry → expiry.nanos ≤ now.nanos := by
  rw [fst_check, lasting]
  cases hexpiry : mutes.get? job with
  | none => simp
  | some expiry => simp [Option.filter]

theorem get?_snd_check (mutes : Mutes) (job other : Job) (now : Instant) :
    (mutes.check job now).2.get? other =
      if job = other then lasting now (mutes.get? other) else mutes.get? other := by
  unfold Mutes.check lasting
  by_cases hother : job = other
  · rw [if_pos hother, ← hother]
    cases hexpiry : mutes.get? job with
    | none => simpa using hexpiry
    | some expiry =>
        by_cases hlasts : now.nanos < expiry.nanos
        · simp [hlasts, hexpiry, Option.filter]
        · simp [hlasts, Option.filter]
  · rw [if_neg hother]
    cases hexpiry : mutes.get? job with
    | none => rfl
    | some expiry =>
        by_cases hlasts : now.nanos < expiry.nanos
        · simp only [hlasts, if_true]
        · simp only [hlasts, if_false]
          rw [get?_erase, if_neg hother]

section Handled

variable {settings : Settings} {now : Instant} {herald after : Herald} {build : Build}
  {trace : List Done}

theorem get?_mutes_of_buildHandled (hhandled : BuildHandled settings now herald build trace after)
    (job : Job) :
    after.mutes.get? job =
      if herald.awaited.get? build.id = none ∧ build.job? = some job then
        lasting now (herald.mutes.get? job)
      else herald.mutes.get? job := by
  have hchecked {heard : Job} (hawaited : herald.awaited.get? build.id = none)
      (hjob : build.job? = some heard) :
      (herald.mutes.check heard now).2.get? job =
        if herald.awaited.get? build.id = none ∧ build.job? = some job then
          lasting now (herald.mutes.get? job)
        else herald.mutes.get? job := by
    rw [get?_snd_check, hjob]
    simp only [hawaited, true_and, Option.some.injEq]
  cases hhandled with
  | reported hawaited => rw [if_neg (by simp [hawaited])]
  | passedOver _ hjob => rw [if_neg (by simp [hjob])]
  | muted hawaited hjob => exact hchecked hawaited hjob
  | quiet hawaited hjob => exact hchecked hawaited hjob
  | announced hawaited hjob => exact hchecked hawaited hjob

theorem get?_awaited_of_buildHandled
    (hhandled : BuildHandled settings now herald build trace after) (id : Nat) :
    after.awaited.get? id = if build.id = id then none else herald.awaited.get? id := by
  have hkept (hawaited : herald.awaited.get? build.id = none) :
      herald.awaited.get? id = if build.id = id then none else herald.awaited.get? id := by
    by_cases hid : build.id = id
    · rw [if_pos hid, ← hid, hawaited]
    · rw [if_neg hid]
  cases hhandled with
  | reported => exact get?_erase _ _ _
  | passedOver hawaited => exact hkept hawaited
  | muted hawaited => exact hkept hawaited
  | quiet hawaited => exact hkept hawaited
  | announced hawaited => exact hkept hawaited

end Handled

/-! ### Notices -/

/-- The title of a notification, if these were the statuses of the job's builds before. -/
def headline (change : Change) (job : Job) (statuses : List Status) (status : Status) : String :=
  let subject := "Job " ++ job.name ++ " from " ++ job.pipeline
  match change with
  | .broke => subject ++ " has failed."
  | .staysBroken =>
      subject ++ " is still failing (" ++ toString (failureRun (statuses ++ [status])) ++
        " times in a row)."
  | .recovered =>
      subject ++ " has recovered after " ++ toString (failureRun statuses) ++ " failure(s)."
  | .errored => subject ++ " has errored."
  | .aborted => subject ++ " was aborted."

/-- The notification of a change, if these were the statuses of the job's builds before. -/
def notice (settings : Settings) (build : Build) (job : Job) (change : Change)
    (statuses : List Status) (transcript : String) : Notification where
  severity := change.severity
  title := headline change job statuses build.status
  link := settings.dashboard ++ build.page
  job := job
  output := if change = .broke ∨ change = .staysBroken then transcript else ""

theorem between?_eq_staysBroken {old : Option Status} {new : Status}
    (hchange : Change.between? old new = some .staysBroken) :
    old = some .failed ∧ new = .failed := by
  revert hchange
  rcases old with - | old
  · cases new <;> simp [Change.between?]
  · cases old <;> cases new <;> simp [Change.between?]

theorem between?_eq_recovered {old : Option Status} {new : Status}
    (hchange : Change.between? old new = some .recovered) :
    old = some .failed ∧ new = .succeeded := by
  revert hchange
  rcases old with - | old
  · cases new <;> simp [Change.between?]
  · cases old <;> cases new <;> simp [Change.between?]

theorem two_le_of_staysBroken {statuses : List Status} {status : Status}
    (hchange : Change.between? statuses.getLast? status = some .staysBroken) :
    2 ≤ failureRun (statuses ++ [status]) := by
  obtain ⟨hlast, hfailed⟩ := between?_eq_staysBroken hchange
  have hpos := (failureRun_pos_iff statuses).mpr hlast
  rw [failureRun_concat, if_pos hfailed]
  omega

theorem one_le_of_recovered {statuses : List Status} {status : Status}
    (hchange : Change.between? statuses.getLast? status = some .recovered) :
    1 ≤ failureRun statuses :=
  (failureRun_pos_iff statuses).mpr (between?_eq_recovered hchange).1

theorem showsTranscript_iff (change : Change) :
    change.showsTranscript = true ↔ change = .broke ∨ change = .staysBroken := by
  cases change <;> simp [Change.showsTranscript]

theorem title_streakOf {change : Change} {job : Job} {statuses : List Status} {status : Status}
    (hchange : Change.between? statuses.getLast? status = some change) :
    change.title job (streakOf statuses) = headline change job statuses status := by
  cases change with
  | broke => rfl
  | staysBroken =>
      have hfailed := (between?_eq_staysBroken hchange).2
      rw [headline, failureRun_concat, if_pos hfailed]
      rfl
  | recovered => rfl
  | errored => rfl
  | aborted => rfl

theorem notification_streakOf {settings : Settings} {build : Build} {job : Job} {change : Change}
    {statuses : List Status} (transcript : String)
    (hchange : Change.between? statuses.getLast? build.status = some change) :
    change.notification settings.dashboard build job (streakOf statuses) transcript =
      notice settings build job change statuses transcript := by
  simp only [Change.notification, notice, title_streakOf hchange, showsTranscript_iff]

/-- A build calls for the notification of a change. -/
structure CallsFor (past : List Handled) (herald : Herald) (now : Instant) (build : Build) (job : Job)
    (change : Change) : Prop where
  job_eq : build.job? = some job
  not_awaited : herald.awaited.get? build.id = none
  not_muted : ∀ expiry, herald.mutes.get? job = some expiry → expiry.nanos ≤ now.nanos
  changes :
    Change.between? (statusesOf job (buildsIn past)).getLast? build.status = some change

theorem notificationsIn_announces {settings : Settings} {build : Build} {job : Job}
    {streak : Streak} {change : Change} {trace : List Done}
    (hannounces : Announces settings build job streak change trace) :
    ∃ transcript,
      notificationsIn trace =
          [change.notification settings.dashboard build job streak transcript] ∧
        transcriptsIn trace =
          if change = .broke ∨ change = .staysBroken then [(build.id, transcript)] else [] := by
  obtain ⟨transcript, answer, rfl⟩ := hannounces
  refine ⟨transcript, ?_⟩
  by_cases hshows : change.showsTranscript = true
  · rw [if_pos hshows, if_pos ((showsTranscript_iff change).mp hshows)]
    exact ⟨rfl, rfl⟩
  · rw [if_neg hshows, if_neg (mt (showsTranscript_iff change).mpr hshows)]
    exact ⟨rfl, rfl⟩

section Calls

variable {settings : Settings} {past : List Handled} {now : Instant} {herald after : Herald}
  {build : Build} {trace : List Done}

theorem streaks_get_of_served (hserved : Served settings past herald) (job : Job) :
    herald.streaks.get job = streakOf (statusesOf job (buildsIn past)) := by
  rw [streaks_of_served hserved, get_streaksOf]

theorem notice_of_callsFor {job : Job} {change : Change}
    (hserved : Served settings past herald)
    (hcalls : CallsFor past herald now build job change)
    (hhandled : BuildHandled settings now herald build trace after) :
    ∃ transcript,
      notificationsIn trace =
          [notice settings build job change (statusesOf job (buildsIn past)) transcript] ∧
        transcriptsIn trace =
          if change = .broke ∨ change = .staysBroken then [(build.id, transcript)] else [] := by
  have hjob := hcalls.job_eq
  have hchange := hcalls.changes
  have hunmuted := (fst_check_eq_false_iff herald.mutes job now).mpr hcalls.not_muted
  have hstreak := streaks_get_of_served hserved job
  cases hhandled with
  | reported hawaited => simp [hcalls.not_awaited] at hawaited
  | passedOver _ hnone => simp [hjob] at hnone
  | muted _ hother hmuted =>
      obtain rfl := Option.some.inj (hjob.symm.trans hother)
      simp [hunmuted] at hmuted
  | quiet _ hother _ hquiet =>
      obtain rfl := Option.some.inj (hjob.symm.trans hother)
      rw [hstreak, last_streakOf, hchange] at hquiet
      simp at hquiet
  | announced _ hother _ hfound hannounces =>
      obtain rfl := Option.some.inj (hjob.symm.trans hother)
      rw [hstreak] at hfound hannounces
      obtain rfl := Option.some.inj (hchange.symm.trans hfound)
      obtain ⟨transcript, hnotifications, htranscripts⟩ := notificationsIn_announces hannounces
      rw [notification_streakOf transcript hchange] at hnotifications
      exact ⟨transcript, hnotifications, htranscripts⟩

theorem silent_of_not_callsFor (hserved : Served settings past herald)
    (hcalls : ¬ ∃ job change, CallsFor past herald now build job change)
    (hhandled : BuildHandled settings now herald build trace after) :
    notificationsIn trace = [] ∧ transcriptsIn trace = [] := by
  cases hhandled with
  | reported => exact ⟨rfl, rfl⟩
  | passedOver => exact ⟨rfl, rfl⟩
  | muted => exact ⟨rfl, rfl⟩
  | quiet => exact ⟨rfl, rfl⟩
  | @announced job change _ hawaited hjob hunmuted hchange =>
      rw [streaks_get_of_served hserved] at hchange
      exact absurd ⟨job, change, hjob, hawaited, (fst_check_eq_false_iff _ _ _).mp hunmuted,
        hchange⟩ hcalls

end Calls

/-! ### The reference -/

/-- What the notifications of a run go by, and those that are due. -/
structure Reference where
  statuses : Job → List Status
  mutedUntil : Job → Option Instant
  /-- The builds that were started from the chat and have not come. -/
  awaited : List Nat
  due : List Notification

namespace Reference

def blank : Reference :=
  ⟨fun _ => [], fun _ => none, [], []⟩

/-- The notification that a build calls for, if there is one. -/
def call (settings : Settings) (reference : Reference) (now : Instant) (build : Build)
    (transcript : String) : Option Notification :=
  match build.job? with
  | none => none
  | some job =>
      if build.id ∈ reference.awaited ∨ (lasting now (reference.mutedUntil job)).isSome then none
      else
        (Change.between? (reference.statuses job).getLast? build.status).map fun change =>
          notice settings build job change (reference.statuses job) transcript

def enterBuild (settings : Settings) (reference : Reference) (now : Instant) (build : Build)
    (transcript : String) : Reference where
  statuses job :=
    if build.job? = some job then reference.statuses job ++ [build.status]
    else reference.statuses job
  mutedUntil job :=
    if build.id ∉ reference.awaited ∧ build.job? = some job then
      lasting now (reference.mutedUntil job)
    else reference.mutedUntil job
  awaited := reference.awaited.filter fun id => build.id ≠ id
  due := reference.due ++ (reference.call settings now build transcript).toList

def enterCommand (settings : Settings) (reference : Reference) (now : Instant) (command : Command)
    (started : List Nat) : Reference :=
  match Verb.ofName? command.name, command.job with
  | some .rerun, some _ => { reference with awaited := started ++ reference.awaited }
  | some .mute, some job =>
      match muteExpiry settings now command.args with
      | .ok expiry =>
          { reference with
            mutedUntil := fun other =>
              if job = other then some expiry else reference.mutedUntil other }
      | .error _ => reference
  | _, _ => reference

/-- Takes in an input. Of the errands only the answers count: the transcript, and the builds that were
started. -/
def enter (settings : Settings) (reference : Reference) (handled : Handled) : Reference :=
  match handled.input with
  | .build build =>
      reference.enterBuild settings handled.now build
        (((transcriptsIn handled.trace).map Prod.snd).headD "")
  | .command _ command =>
      reference.enterCommand settings handled.now command (startsIn handled.trace)

def ofRun (settings : Settings) (past : List Handled) : Reference :=
  past.foldl (enter settings) blank

theorem ofRun_concat (settings : Settings) (past : List Handled) (handled : Handled) :
    ofRun settings (past ++ [handled]) = (ofRun settings past).enter settings handled := by
  rw [ofRun, List.foldl_append]
  rfl

end Reference

/-- The herald remembers what the reference tells. -/
structure Agrees (herald : Herald) (reference : Reference) : Prop where
  streaks : ∀ job, herald.streaks.get job = streakOf (reference.statuses job)
  mutes : ∀ job, herald.mutes.get? job = reference.mutedUntil job
  awaited : ∀ id, (herald.awaited.get? id).isSome ↔ id ∈ reference.awaited

theorem Agrees.get?_awaited_eq_none {herald : Herald} {reference : Reference}
    (hagrees : Agrees herald reference) (id : Nat) :
    herald.awaited.get? id = none ↔ id ∉ reference.awaited := by
  rw [← hagrees.awaited, Option.not_isSome_iff_eq_none]

section Simulation

variable {settings : Settings} {now : Instant} {herald after : Herald} {reference : Reference}
  {trace : List Done}

theorem agrees_enterBuild {build : Build} (transcript : String)
    (hagrees : Agrees herald reference)
    (hhandled : BuildHandled settings now herald build trace after) :
    Agrees after (reference.enterBuild settings now build transcript) where
  streaks job := by
    rw [streaks_of_buildHandled hhandled, get_record, hagrees.streaks, Reference.enterBuild]
    by_cases hjob : build.job? = some job
    · simp only [if_pos hjob, streakOf_concat]
    · simp only [if_neg hjob]
  mutes job := by
    rw [get?_mutes_of_buildHandled hhandled, hagrees.mutes, Reference.enterBuild]
    simp only [hagrees.get?_awaited_eq_none]
  awaited id := by
    rw [get?_awaited_of_buildHandled hhandled, Reference.enterBuild]
    by_cases hid : build.id = id
    · simp [hid]
    · simp [hid, hagrees.awaited]

theorem agrees_enterCommand {ticket : Ticket} {command : Command}
    (hagrees : Agrees herald reference)
    (hhandled : CommandHandled settings now herald ticket command trace after) :
    Agrees after (reference.enterCommand settings now command (startsIn trace)) := by
  unfold Reference.enterCommand
  cases hhandled with
  | unknown hverb =>
      simp only [hverb]
      exact hagrees
  | @untargeted verb hverb hjob =>
      simp only [hverb, hjob]
      cases verb <;> exact hagrees
  | @rerun job id hverb hjob =>
      have hstarts : startsIn ([said ticket ("Rerunning " ++ job.display ++ "..."),
          begun job (.ok id)] ++ (herald.awaited.get? id).toList.map closed) = [id] := by
        cases herald.awaited.get? id <;> rfl
      simp only [hverb, hjob, hstarts]
      refine ⟨hagrees.streaks, hagrees.mutes, ?_⟩
      intro other
      rw [get?_put]
      by_cases hother : id = other
      · simp [hother]
      · simp [hother, Ne.symm hother, hagrees.awaited]
  | rerunFailed hverb hjob =>
      simp only [hverb, hjob]
      exact hagrees
  | @paused job verb paused answer hverb hpaused hjob =>
      subst hpaused
      cases paused with
      | false =>
          simp only [hverb, hjob]
          exact hagrees
      | true =>
          simp only [hverb, hjob]
          exact hagrees
  | muteRefused hverb hjob hexpiry =>
      simp only [hverb, hjob, hexpiry]
      exact hagrees
  | @muted job expiry hverb hjob hexpiry =>
      simp only [hverb, hjob, hexpiry]
      refine ⟨hagrees.streaks, ?_, hagrees.awaited⟩
      intro other
      simp only [get?_put, hagrees.mutes]

theorem call_of_heard {build : Build} {job : Job} (hagrees : Agrees herald reference)
    (hawaited : herald.awaited.get? build.id = none) (hjob : build.job? = some job)
    (hunmuted : (herald.mutes.check job now).1 = false) (transcript : String) :
    reference.call settings now build transcript =
      (Change.between? (reference.statuses job).getLast? build.status).map fun change =>
        notice settings build job change (reference.statuses job) transcript := by
  rw [fst_check, hagrees.mutes] at hunmuted
  have hheard : ¬ (build.id ∈ reference.awaited ∨
      (lasting now (reference.mutedUntil job)).isSome = true) := by
    rw [not_or, hunmuted]
    exact ⟨(hagrees.get?_awaited_eq_none _).mp hawaited, Bool.false_ne_true⟩
  simp only [Reference.call, hjob, if_neg hheard]

theorem notificationsIn_of_buildHandled {build : Build} (hagrees : Agrees herald reference)
    (hhandled : BuildHandled settings now herald build trace after) :
    notificationsIn trace =
      (reference.call settings now build
        (((transcriptsIn trace).map Prod.snd).headD "")).toList := by
  cases hhandled with
  | reported hawaited =>
      have hmem : build.id ∈ reference.awaited := (hagrees.awaited _).mp (by simp [hawaited])
      unfold Reference.call
      cases build.job? with
      | none => rfl
      | some job =>
          simp only [if_pos (Or.inl hmem)]
          rfl
  | passedOver _ hjob =>
      simp only [Reference.call, hjob]
      rfl
  | @muted job _ hjob hmuted =>
      rw [fst_check, hagrees.mutes] at hmuted
      simp only [Reference.call, hjob, if_pos (Or.inr hmuted)]
      rfl
  | quiet hawaited hjob hunmuted hquiet =>
      rw [hagrees.streaks, last_streakOf] at hquiet
      rw [call_of_heard hagrees hawaited hjob hunmuted, hquiet]
      rfl
  | @announced job change _ hawaited hjob hunmuted hchange hannounces =>
      rw [hagrees.streaks] at hannounces
      rw [hagrees.streaks, last_streakOf] at hchange
      rw [call_of_heard hagrees hawaited hjob hunmuted, hchange]
      obtain ⟨transcript, hnotifications, htranscripts⟩ := notificationsIn_announces hannounces
      rw [hnotifications, notification_streakOf transcript hchange, htranscripts]
      by_cases hshows : change = .broke ∨ change = .staysBroken
      · rw [if_pos hshows]
        rfl
      · simp [notice, hshows]

theorem notificationsIn_of_commandHandled {ticket : Ticket} {command : Command}
    (hhandled : CommandHandled settings now herald ticket command trace after) :
    notificationsIn trace = [] := by
  cases hhandled with
  | unknown => rfl
  | untargeted => rfl
  | @rerun job id => cases herald.awaited.get? id <;> rfl
  | rerunFailed => rfl
  | paused => rfl
  | muteRefused => rfl
  | muted => rfl

theorem due_enterCommand (command : Command) (started : List Nat) :
    (reference.enterCommand settings now command started).due = reference.due := by
  unfold Reference.enterCommand
  split
  · rfl
  · split <;> rfl
  · rfl

end Simulation

theorem agrees_ofRun {settings : Settings} {past : List Handled} {herald : Herald}
    (hserved : Served settings past herald) :
    Agrees herald (Reference.ofRun settings past) ∧
      past.flatMap (fun handled => notificationsIn handled.trace) =
        (Reference.ofRun settings past).due := by
  induction hserved with
  | fresh => exact ⟨⟨fun _ => rfl, fun _ => rfl, fun _ => by simp [Herald.fresh, Reference.ofRun,
      Reference.blank]⟩, rfl⟩
  | @next past herald after handled hserved hruns ih =>
      obtain ⟨hagrees, hdue⟩ := ih
      obtain ⟨now, input, trace⟩ := handled
      rw [Reference.ofRun_concat, List.flatMap_append, hdue]
      cases input with
      | build build =>
          have hhandled := buildHandled_of_handle hruns
          refine ⟨agrees_enterBuild _ hagrees hhandled, ?_⟩
          rw [List.flatMap_singleton, notificationsIn_of_buildHandled hagrees hhandled]
          rfl
      | command ticket command =>
          have hhandled := commandHandled_of_handle hruns
          refine ⟨agrees_enterCommand hagrees hhandled, ?_⟩
          rw [List.flatMap_singleton, notificationsIn_of_commandHandled hhandled, List.append_nil]
          exact (due_enterCommand command _).symm

/-- A build is told of exactly if it calls for a notification, by one that says what has happened to
the job. All notifications of a run are those that the reference tells. -/
theorem notifications_as_due {settings : Settings} {past : List Handled} {herald : Herald}
    (hserved : Served settings past herald) :
    (∀ now build trace after, Runs (herald.handleBuild settings now build) trace after →
      (∀ job change, CallsFor past herald now build job change →
        let earlier := statusesOf job (buildsIn past)
        (∃ transcript,
          notificationsIn trace = [notice settings build job change earlier transcript] ∧
            transcriptsIn trace =
              if change = .broke ∨ change = .staysBroken then [(build.id, transcript)] else []) ∧
        (change = .staysBroken → 2 ≤ failureRun (earlier ++ [build.status])) ∧
        (change = .recovered → 1 ≤ failureRun earlier)) ∧
      ((¬ ∃ job change, CallsFor past herald now build job change) →
        notificationsIn trace = [] ∧ transcriptsIn trace = [])) ∧
    past.flatMap (fun handled => notificationsIn handled.trace) =
      (Reference.ofRun settings past).due := by
  refine ⟨?_, (agrees_ofRun hserved).2⟩
  intro now build trace after hruns
  have hhandled := buildHandled_of_runs hruns
  refine ⟨?_, fun hcalls => silent_of_not_callsFor hserved hcalls hhandled⟩
  intro job change hcalls
  refine ⟨notice_of_callsFor hserved hcalls hhandled, ?_, ?_⟩
  · rintro rfl
    exact two_le_of_staysBroken hcalls.changes
  · rintro rfl
    exact one_le_of_recovered hcalls.changes

def failedBuild (id : Nat) (name : String) : Build :=
  { id, name, team := "main", pipeline := some "web", jobName := some "unit", status := .failed }

def webSettings : Settings :=
  ⟨"https://ci.example", .ofSeconds 60⟩

/-- A first failure, the notification of which was lost. -/
def firstFailure : Handled where
  now := ⟨0⟩
  input := .build (failedBuild 101 "6")
  trace :=
    [rendered 101 "exit code 1",
      notified (notice webSettings (failedBuild 101 "6") ⟨"main", "web", "unit"⟩ .broke []
        "exit code 1") (.error (.sendFailed "telegram" "no route"))]

def heraldAfterFailure : Herald :=
  ⟨Streaks.record .empty (failedBuild 101 "6"), .empty, .empty⟩

theorem served_firstFailure : Served webSettings [firstFailure] heraldAfterFailure := by
  change Served webSettings ([] ++ [firstFailure]) heraldAfterFailure
  refine .next .fresh ?_
  refine runs_ask_iff.mpr ⟨"exit code 1", _, rfl, ?_⟩
  exact runs_ask_iff.mpr ⟨_, _, rfl, runs_done_iff.mpr ⟨rfl, rfl⟩⟩

theorem second_failure_told :
    Served webSettings [firstFailure] heraldAfterFailure ∧
      ∃ trace after,
        Runs (heraldAfterFailure.handleBuild webSettings ⟨0⟩ (failedBuild 102 "7")) trace after ∧
          ∃ transcript, notificationsIn trace =
            [{ severity := .error
               title := "Job unit from web is still failing (2 times in a row)."
               link := "https://ci.example/teams/main/pipelines/web/jobs/unit/builds/7"
               job := ⟨"main", "web", "unit"⟩
               output := transcript }] := by
  refine ⟨served_firstFailure, ?_⟩
  have hcalls : CallsFor [firstFailure] heraldAfterFailure ⟨0⟩ (failedBuild 102 "7")
      ⟨"main", "web", "unit"⟩ .staysBroken := by
    refine ⟨rfl, rfl, ?_, rfl⟩
    intro expiry hexpiry
    exact absurd hexpiry (Option.some_ne_none expiry).symm
  obtain ⟨trace, after, hruns⟩ := exists_runs nonempty_answer
    (heraldAfterFailure.handleBuild webSettings ⟨0⟩ (failedBuild 102 "7"))
  obtain ⟨⟨transcript, htold, -⟩, -⟩ :=
    ((notifications_as_due served_firstFailure).1 _ _ _ _ hruns).1 _ _ hcalls
  exact ⟨trace, after, hruns, transcript, htold⟩

end BuildHerald.Proofs.Announcements
