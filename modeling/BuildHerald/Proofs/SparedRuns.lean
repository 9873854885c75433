import BuildHerald.Proofs.MuteEntries
import BuildHerald.Proofs.Separation

/-!
A run and the same run without the mutes of one job.

The heralds differ in the entry of that job only. So all other jobs are told of alike, and this one too
as soon as the entry does not count any more.
-/

namespace BuildHerald.Proofs.SparedRuns

open BuildHerald.Herald
open BuildHerald.Time
open BuildHerald.Chat
open BuildHerald.Proofs.Conversation
open BuildHerald.Proofs.JobStatuses
open BuildHerald.Proofs.Announcements
open BuildHerald.Proofs.Footprints
open BuildHerald.Proofs.Replies
open BuildHerald.Proofs.Waiting
open BuildHerald.Proofs.SideBySide
open BuildHerald.Proofs.Separation
open BuildHerald.Proofs.MuteEntries

variable {settings : Settings} {herald after last : Herald} {handled : Handled} {job : Job}
  {expiry : Instant}

/-! ### A herald that has not muted a job -/

def unmuted (job : Job) (herald : Herald) : Herald :=
  { herald with mutes := herald.mutes.erase job }

theorem check_of_over {mutes : Mutes} {now : Instant} (hover : (mutes.check job now).1 = false) :
    mutes.check job now = (false, mutes.erase job) := by
  unfold Mutes.check at hover ⊢
  cases hexpiry : mutes.get? job with
  | none => rw [erase_of_get?_eq_none hexpiry]
  | some expiry =>
      by_cases hlasts : now.nanos < expiry.nanos
      · simp [hexpiry, hlasts] at hover
      · simp only [hlasts, if_false]

/-- When the mute of a job is over, its build is handled as if there were no mute. -/
theorem handleBuild_unmuted {now : Instant} {build : Build} (hjob : build.job? = some job)
    (hawaited : herald.awaited.get? build.id = none)
    (hover : (herald.mutes.check job now).1 = false) :
    herald.handleBuild settings now build = (unmuted job herald).handleBuild settings now build := by
  have herased : Mutes.check (herald.mutes.erase job) job now = (false, herald.mutes.erase job) := by
    unfold Mutes.check
    rw [Table.get?_erase_self]
  unfold handleBuild
  simp only [unmuted, hawaited, hjob, check_of_over hover, herased]

/-- The heralds remember the same, except that the second has not muted the job. -/
def Spares (job : Job) (herald other : Herald) : Prop :=
  AgreeOn Set.univ Set.univ (unmuted job herald) other

theorem Spares.agreeOn {other : Herald} (hspares : Spares job herald other) :
    AgreeOn {job}ᶜ Set.univ herald other where
  streaks heard _ := hspares.streaks heard trivial
  mutes heard hne := by
    have hsame := hspares.mutes heard trivial
    rwa [unmuted, get?_erase, if_neg (Ne.symm hne)] at hsame
  awaited id _ := hspares.awaited id trivial

theorem Spares.get?_mutes {other : Herald} (hspares : Spares job herald other) :
    other.mutes.get? job = none := by
  rw [← hspares.mutes job trivial]
  exact Table.get?_erase_self _ _

theorem Spares.unasked_iff {other : Herald} (hspares : Spares job herald other) (heard : Job)
    (input : Input) :
    Unasked herald.awaited.get? heard input ↔ Unasked other.awaited.get? heard input := by
  have hsame (id : Nat) : herald.awaited.get? id = other.awaited.get? id :=
    hspares.awaited id trivial
  unfold Unasked
  simp only [hsame]

theorem mutedBy?_congr {other : Handled} (halike : Alike handled other) (job : Job) :
    mutedBy? settings job other = mutedBy? settings job handled := by
  unfold mutedBy?
  rw [halike.input, halike.now]

section Pair

variable {plain : Handled} {other other' : Herald}

theorem get?_streaks_of_alike {heard : Job}
    (hruns : Runs (herald.handle settings handled.now handled.input) handled.trace after)
    (hruns' : Runs (other.handle settings plain.now plain.input) plain.trace other')
    (halike : Alike handled plain)
    (hsame : herald.streaks.get? heard = other.streaks.get? heard) :
    after.streaks.get? heard = other'.streaks.get? heard := by
  obtain ⟨now, input, trace⟩ := handled
  obtain ⟨now', input', trace'⟩ := plain
  obtain ⟨rfl, rfl, -⟩ := halike
  cases input with
  | build build =>
      rw [streaks_of_buildHandled (buildHandled_of_handle hruns),
        streaks_of_buildHandled (buildHandled_of_handle hruns')]
      exact get?_record_congr hsame
  | command ticket command =>
      rw [streaks_of_commandHandled (commandHandled_of_handle hruns),
        streaks_of_commandHandled (commandHandled_of_handle hruns')]
      exact hsame

theorem spares_step (hspares : Spares job herald other)
    (hruns : Runs (herald.handle settings handled.now handled.input) handled.trace after)
    (hruns' : Runs (other.handle settings plain.now plain.input) plain.trace other')
    (halike : Alike handled plain) (hnone : mutedBy? settings job handled = none) :
    Spares job after other' where
  streaks heard _ := by
    show after.streaks.get? heard = other'.streaks.get? heard
    exact get?_streaks_of_alike hruns hruns' halike (hspares.streaks heard trivial)
  mutes heard _ := by
    have hasked (other : Job) : mutedBy? settings other plain = mutedBy? settings other handled :=
      mutedBy?_congr halike other
    have hunasked := hspares.unasked_iff heard handled.input
    rw [unmuted, get?_erase]
    by_cases hjob : job = heard
    · subst hjob
      rw [if_pos rfl]
      by_cases hown : Unasked other.awaited.get? job plain.input
      · rw [get?_mutes_of_unasked hruns' hown, hspares.get?_mutes]
        rfl
      · rw [get?_mutes_of_not_unasked hruns' hown ((hasked job).trans hnone), hspares.get?_mutes]
    · have hsame := hspares.agreeOn.mutes heard (Ne.symm hjob)
      rw [if_neg hjob]
      cases hmuted : mutedBy? settings heard handled with
      | some expiry =>
          rw [get?_mutes_of_muted hruns hmuted,
            get?_mutes_of_muted hruns' ((hasked heard).trans hmuted)]
      | none =>
          rw [halike.input] at hunasked
          by_cases hown : Unasked other.awaited.get? heard plain.input
          · rw [get?_mutes_of_unasked hruns' hown,
              get?_mutes_of_unasked hruns (halike.input ▸ hunasked.mpr hown), hsame, halike.now]
          · rw [get?_mutes_of_not_unasked hruns' hown ((hasked heard).trans hmuted),
              get?_mutes_of_not_unasked hruns (fun h => hown (hunasked.mp (halike.input ▸ h))) hmuted,
              hsame]
  awaited id _ := by
    have hids := idsIn_eq_of_alike hruns hruns' halike
    have hissuer : issuer? plain = issuer? handled := by
      unfold issuer? Handled.command?
      rw [halike.input]
    have hsame := hspares.awaited id trivial
    change herald.awaited.get? id = _ at hsame
    change after.awaited.get? id = _
    rw [get?_awaited_of_runs hruns, get?_awaited_of_runs hruns', hids, hissuer, hsame]

end Pair

/-! ### A run without the mutes of a job -/

/-- The inputs of a run, but for those that mute the job. -/
def spared (settings : Settings) (job : Job) (run : List Handled) : List Handled :=
  run.filter fun handled => mutedBy? settings job handled = none

theorem notificationsAbout_cons (handled : Handled) (run : List Handled) :
    notificationsAbout job (handled :: run) =
      (notificationsIn handled.trace).filter (fun notification => notification.job = job) ++
        notificationsAbout job run := by
  rw [notificationsAbout, List.flatMap_cons, List.filter_append, notificationsAbout]

theorem notificationsIn_of_mutedBy?
    (hruns : Runs (herald.handle settings handled.now handled.input) handled.trace after)
    (hmuted : mutedBy? settings job handled = some expiry) : notificationsIn handled.trace = [] := by
  obtain ⟨⟨ticket, -, htrace⟩, -⟩ := muted_of_mutedBy? hruns hmuted
  rw [htrace]
  rfl

theorem spares_of_mutedBy? {other : Herald} (hspares : Spares job herald other)
    (hruns : Runs (herald.handle settings handled.now handled.input) handled.trace after)
    (hmuted : mutedBy? settings job handled = some expiry) : Spares job after other := by
  obtain ⟨-, rfl⟩ := muted_of_mutedBy? hruns hmuted
  refine ⟨hspares.streaks, ?_, hspares.awaited⟩
  intro heard _
  have hsame := hspares.mutes heard trivial
  rw [unmuted, get?_erase] at hsame ⊢
  by_cases hjob : job = heard
  · rwa [if_pos hjob] at hsame ⊢
  · rw [if_neg hjob] at hsame ⊢
    rwa [get?_put, if_neg hjob]

theorem spares_fresh (job : Job) : Spares job .fresh .fresh where
  streaks _ _ := rfl
  mutes heard _ := by
    show (Table.erase Table.empty job).get? heard = none
    rw [get?_erase]
    split <;> rfl
  awaited _ _ := rfl

section Counterpart

variable {plain : List Handled} {other other' : Herald}

theorem notificationsIn_of_spares {heard : Job} {handled' : Handled}
    (hspares : Spares job herald other)
    (hruns : Runs (herald.handle settings handled.now handled.input) handled.trace after)
    (hruns' : Runs (other.handle settings handled'.now handled'.input) handled'.trace other')
    (halike : Alike handled handled') (hne : heard ≠ job) :
    (notificationsIn handled.trace).filter (fun notification => notification.job = heard) =
      (notificationsIn handled'.trace).filter (fun notification => notification.job = heard) := by
  by_cases hsubject : subject? handled.input = some heard
  · have hquestions := (agreeOn_of_alike hspares.agreeOn hruns hruns' halike
      (fun found hfound => by
        obtain rfl := Option.some.inj (hsubject.symm.trans hfound)
        exact hne)
      fun _ _ => trivial).2
    rw [notificationsIn_eq_filterMap, notificationsIn_eq_filterMap, hquestions]
  · have hsubject' : subject? handled'.input ≠ some heard := halike.input ▸ hsubject
    rw [notificationsIn_of_not_subject hruns hsubject,
      notificationsIn_of_not_subject hruns' hsubject']

/-- Of two runs that differ in the mutes of one job, the heralds differ in that entry, and all other
jobs are told of alike. -/
theorem spares_of_goes {run : List Handled} (hspares : Spares job herald other)
    (hgoes : Goes settings herald run last) (hgoes' : Goes settings other plain other')
    (halike : List.Forall₂ Alike (spared settings job run) plain) :
    Spares job last other' ∧
      ∀ heard, heard ≠ job → notificationsAbout heard run = notificationsAbout heard plain := by
  induction hgoes generalizing other plain with
  | stay =>
      cases halike
      cases hgoes'
      exact ⟨hspares, fun _ _ => rfl⟩
  | @step herald next last handled run hruns _ ih =>
      cases hmuted : mutedBy? settings job handled with
      | some expiry =>
          have hcons : spared settings job (handled :: run) = spared settings job run :=
            List.filter_cons_of_neg (by simp [hmuted])
          rw [hcons] at halike
          obtain ⟨hlast, htold⟩ := ih (spares_of_mutedBy? hspares hruns hmuted) hgoes' halike
          refine ⟨hlast, fun heard hne => ?_⟩
          rw [notificationsAbout_cons, notificationsIn_of_mutedBy? hruns hmuted, htold heard hne]
          rfl
      | none =>
          have hcons : spared settings job (handled :: run) = handled :: spared settings job run :=
            List.filter_cons_of_pos (by simp [hmuted])
          rw [hcons] at halike
          cases halike with
          | cons hfirst hrest =>
              cases hgoes' with
              | step hruns' hgoes' =>
                  obtain ⟨hlast, htold⟩ :=
                    ih (spares_step hspares hruns hruns' hfirst hmuted) hgoes' hrest
                  refine ⟨hlast, fun heard hne => ?_⟩
                  rw [notificationsAbout_cons, notificationsAbout_cons, htold heard hne,
                    notificationsIn_of_spares hspares hruns hruns' hfirst hne]

theorem exists_runs_of_spares (hspares : Spares job herald other)
    (hruns : Runs (herald.handle settings handled.now handled.input) handled.trace after) :
    ∃ trace other',
      Runs (other.handle settings handled.now handled.input) trace other' ∧
        Alike handled ⟨handled.now, handled.input, trace⟩ := by
  have hself := alike_of_runs hruns
  have hfits : ∀ done ∈ handled.trace, FitsIn Set.univ done.question done.answer done.answer :=
    fitsIn_self hruns fun _ _ => trivial
  obtain ⟨now, input, trace⟩ := handled
  cases input with
  | command ticket command =>
      obtain ⟨other', hruns', -⟩ :=
        exists_runs_of_lockstep (lockstep_handleCommand hspares.agreeOn) hruns hfits
      exact ⟨trace, other', hruns', hself⟩
  | build build =>
      have hawaited : herald.awaited.get? build.id = other.awaited.get? build.id :=
        hspares.awaited build.id trivial
      have hforeign (hjob : build.job? ≠ some job) : ∃ other',
          Runs (other.handleBuild settings now build) trace other' := by
        have hheard : ∀ found, build.job? = some found → found ∈ ({job}ᶜ : Set Job) := by
          rintro _ hfound rfl
          exact hjob hfound
        obtain ⟨other', hruns', -⟩ := exists_runs_of_lockstep
          (lockstep_handleBuild hspares.agreeOn hheard trivial) hruns hfits
        exact ⟨other', hruns'⟩
      have hopen {found : Job} (hwaiting : herald.awaited.get? build.id = none)
          (hfound : build.job? = some found) (hover : (herald.mutes.check found now).1 = false) :
          ∃ other', Runs (other.handleBuild settings now build) trace other' := by
        by_cases hjob : found = job
        · subst hjob
          change Runs (herald.handleBuild settings now build) trace after at hruns
          rw [handleBuild_unmuted hfound hwaiting hover] at hruns
          obtain ⟨other', hruns', -⟩ := exists_runs_of_lockstep
            (lockstep_handleBuild hspares (fun _ _ => trivial) trivial) hruns hfits
          exact ⟨other', hruns'⟩
        · exact hforeign fun hsame => hjob (Option.some.inj (hfound.symm.trans hsame))
      cases buildHandled_of_handle hruns with
      | reported hwaiting =>
          exact ⟨_, _, runs_reported other (hawaited.symm.trans hwaiting), hself⟩
      | passedOver _ hnone =>
          obtain ⟨other', hruns'⟩ := hforeign (by simp [hnone])
          exact ⟨_, other', hruns', hself⟩
      | muted =>
          -- The other herald may tell of the build, and then asks for more: any answers will do.
          obtain ⟨trace', other', hruns'⟩ :=
            exists_runs nonempty_answer (other.handleBuild settings now build)
          exact ⟨trace', other', hruns', rfl, rfl, fun _ _ _ hmem => absurd hmem List.not_mem_nil⟩
      | quiet hwaiting hfound hover =>
          obtain ⟨other', hruns'⟩ := hopen hwaiting hfound hover
          exact ⟨_, other', hruns', hself⟩
      | announced hwaiting hfound hover =>
          obtain ⟨other', hruns'⟩ := hopen hwaiting hfound hover
          exact ⟨_, other', hruns', hself⟩

theorem exists_goes_spared {run : List Handled} (hspares : Spares job herald other)
    (hgoes : Goes settings herald run last) :
    ∃ plain other', Goes settings other plain other' ∧
      List.Forall₂ Alike (spared settings job run) plain := by
  induction hgoes generalizing other with
  | stay => exact ⟨[], other, .stay other, .nil⟩
  | @step herald next last handled run hruns _ ih =>
      cases hmuted : mutedBy? settings job handled with
      | some expiry =>
          obtain ⟨plain, other', hgoes', halike⟩ := ih (spares_of_mutedBy? hspares hruns hmuted)
          refine ⟨plain, other', hgoes', ?_⟩
          rwa [spared, List.filter_cons_of_neg (by simp [hmuted])]
      | none =>
          obtain ⟨trace, middle, hfirst, hsame⟩ := exists_runs_of_spares hspares hruns
          obtain ⟨plain, other', hgoes', halike⟩ :=
            ih (spares_step hspares hruns hfirst hsame hmuted)
          refine ⟨⟨handled.now, handled.input, trace⟩ :: plain, other', .step hfirst hgoes', ?_⟩
          rw [spared, List.filter_cons_of_pos (by simp [hmuted])]
          exact .cons hsame halike

end Counterpart

end BuildHerald.Proofs.SparedRuns
