import BuildHerald.Proofs.Waiting

/-!
Until when a job is entered as muted.

The entry is made by a command, and taken out by the first build of the job that comes when the mute is
over. A build that was started from the chat leaves it alone.
-/

namespace BuildHerald.Proofs.MuteEntries

open BuildHerald.Herald
open BuildHerald.Time
open BuildHerald.Chat
open BuildHerald.Proofs.Conversation
open BuildHerald.Proofs.JobStatuses
open BuildHerald.Proofs.Announcements
open BuildHerald.Proofs.Footprints
open BuildHerald.Proofs.Waiting

/-! ### Mutes -/

/-- How long a job is to be muted: as long as the command says, or else as long as is usual. -/
def spanAsked (settings : Settings) (args : List String) : Option Span :=
  match args with
  | [] => some settings.muteSpan
  | arg :: _ => Span.ofText? arg.toList

/-- Until when an input mutes a job, if it does. -/
def mutedBy? (settings : Settings) (job : Job) (handled : Handled) : Option Instant :=
  match handled.input with
  | .build _ => none
  | .command _ command =>
      if Verb.ofName? command.name = some .mute ∧ command.job = some job then
        (muteExpiry settings handled.now command.args).toOption
      else none

theorem later?_of_inRange {now : Instant} {span : Span} (hnow : now.InRange)
    (hexpiry : (⟨now.nanos + span.nanos⟩ : Instant).InRange) :
    now.later? span = some ⟨now.nanos + span.nanos⟩ := by
  have hwhole : Instant.last.nanos - Instant.first.nanos ≤ Instant.longestStep.nanos := by decide
  have hshort : span.nanos ≤ Instant.longestStep.nanos := by
    have hfirst := hnow.1
    have hlast : now.nanos + span.nanos ≤ Instant.last.nanos := hexpiry.2
    omega
  rw [Instant.later?, if_pos hshort]
  exact if_pos hexpiry

theorem muteExpiry_of_spanAsked {settings : Settings} {now : Instant} {args : List String}
    {span : Span} (hspan : spanAsked settings args = some span) (hnow : now.InRange)
    (hexpiry : (⟨now.nanos + span.nanos⟩ : Instant).InRange) :
    muteExpiry settings now args = .ok ⟨now.nanos + span.nanos⟩ := by
  have hlater := later?_of_inRange hnow hexpiry
  unfold muteExpiry
  cases args with
  | nil =>
      obtain rfl := Option.some.inj hspan
      simp only [hlater]
  | cons arg rest =>
      have hread : Span.ofText? arg.toList = some span := hspan
      simp only [hread, Option.bind_some, hlater]

theorem erase_of_get?_eq_none {κ ν : Type} [DecidableEq κ] {table : Table κ ν} {key : κ}
    (hnone : table.get? key = none) : table.erase key = table := by
  have hkept : (table.erase key).entries = table.entries := by
    refine List.filter_eq_self.mpr ?_
    rintro ⟨other, value⟩ hmem
    refine decide_eq_true ?_
    rintro rfl
    rw [(mem_entries_iff table other value).mp hmem] at hnone
    exact absurd hnone (Option.some_ne_none value)
  cases table
  simp only [Table.erase, Table.mk.injEq] at hkept ⊢
  exact hkept

/-! ### Who waits for a build -/

/-- Who waits for the build of this id after these inputs. -/
def waitingFor? (past : List Handled) (id : Nat) : Option Ticket :=
  (past.reverse.find? fun handled => decide (id ∈ idsIn handled)).bind issuer?

theorem waitingFor?_concat (past : List Handled) (handled : Handled) (id : Nat) :
    waitingFor? (past ++ [handled]) id =
      if id ∈ idsIn handled then issuer? handled else waitingFor? past id := by
  unfold waitingFor?
  rw [List.reverse_append, List.reverse_singleton, List.singleton_append, List.find?_cons]
  by_cases hid : id ∈ idsIn handled
  · simp [hid]
  · simp [hid]

variable {settings : Settings} {past later : List Handled} {herald after last : Herald}
  {handled : Handled} {job : Job} {expiry : Instant}

theorem awaited_of_served (hserved : Served settings past herald) :
    herald.awaited.get? = waitingFor? past := by
  funext id
  induction hserved with
  | fresh => rfl
  | next _ hruns ih => rw [get?_awaited_of_runs hruns, waitingFor?_concat, ih]

/-- The input is a build of the job, and nobody waits for it. -/
def Unasked (waiting : Nat → Option Ticket) (job : Job) (input : Input) : Prop :=
  ∃ build, input = .build build ∧ build.job? = some job ∧ waiting build.id = none

/-- Among the later inputs is a build of the job that nobody waited for and that came when the mute was
over. -/
def Lapsed (before later : List Handled) (job : Job) (expiry : Instant) : Prop :=
  ∃ calm handled rest, later = calm ++ handled :: rest ∧
    Unasked (waitingFor? (before ++ calm)) job handled.input ∧ expiry.nanos ≤ handled.now.nanos

theorem not_lapsed_nil (before : List Handled) : ¬ Lapsed before [] job expiry := by
  rintro ⟨calm, handled, rest, hsplit, -⟩
  simp at hsplit

theorem lapsed_concat (before later : List Handled) (handled : Handled) :
    Lapsed before (later ++ [handled]) job expiry ↔
      Lapsed before later job expiry ∨
        Unasked (waitingFor? (before ++ later)) job handled.input ∧
          expiry.nanos ≤ handled.now.nanos := by
  constructor
  · rintro ⟨calm, first, rest, hsplit, hfirst⟩
    rcases List.eq_nil_or_concat rest with rfl | ⟨middle, final, rfl⟩
    · obtain ⟨rfl, hlast⟩ := List.append_inj' hsplit rfl
      obtain rfl := List.singleton_inj.mp hlast
      exact .inr hfirst
    · rw [List.concat_eq_append, ← List.cons_append, ← List.append_assoc] at hsplit
      exact .inl ⟨calm, first, middle, (List.append_inj' hsplit rfl).1, hfirst⟩
  · rintro (⟨calm, first, rest, rfl, hfirst⟩ | hlast)
    · exact ⟨calm, first, rest ++ [handled], by simp, hfirst⟩
    · exact ⟨later, handled, [], rfl, hlast⟩

/-! ### The entry of a job -/

section Entry

variable (hruns : Runs (herald.handle settings handled.now handled.input) handled.trace after)

include hruns

theorem muted_of_mutedBy? (hmuted : mutedBy? settings job handled = some expiry) :
    (∃ ticket, issuer? handled = some ticket ∧ handled.trace =
        [said ticket ("Job " ++ job.display ++ " muted until " ++ expiry.text ++ "."),
          closed ticket]) ∧
      after = { herald with mutes := herald.mutes.put job expiry } := by
  obtain ⟨now, input, trace⟩ := handled
  cases input with
  | build => exact absurd hmuted (Option.some_ne_none expiry).symm
  | command ticket command =>
      have hmutes : Verb.ofName? command.name = some .mute ∧ command.job = some job := by
        by_contra hother
        simp [mutedBy?, hother] at hmuted
      obtain ⟨hverb, hjob⟩ := hmutes
      simp only [mutedBy?, hverb, hjob, and_self, if_true] at hmuted
      cases commandHandled_of_handle hruns with
      | unknown hother => simp [hverb] at hother
      | untargeted _ hother => simp [hjob] at hother
      | rerun hother => simp [hverb] at hother
      | rerunFailed hother => simp [hverb] at hother
      | @paused _ _ paused _ hother heq =>
          obtain rfl := Option.some.inj (hverb.symm.trans hother)
          cases paused <;> simp at heq
      | muteRefused _ _ hrefused =>
          change muteExpiry settings now command.args = _ at hrefused
          simp [hrefused, Except.toOption] at hmuted
      | muted _ hsame hasked =>
          change muteExpiry settings now command.args = _ at hasked
          obtain rfl := Option.some.inj (hjob.symm.trans hsame)
          obtain rfl : _ = expiry := by simpa [hasked, Except.toOption] using hmuted
          exact ⟨⟨ticket, rfl, rfl⟩, rfl⟩

theorem get?_mutes_of_muted (hmuted : mutedBy? settings job handled = some expiry) :
    after.mutes.get? job = some expiry := by
  rw [(muted_of_mutedBy? hruns hmuted).2, get?_put, if_pos rfl]

theorem get?_mutes_of_unasked (hunasked : Unasked herald.awaited.get? job handled.input) :
    after.mutes.get? job = lasting handled.now (herald.mutes.get? job) := by
  obtain ⟨now, input, trace⟩ := handled
  obtain ⟨build, rfl, hjob, hawaited⟩ := hunasked
  rw [get?_mutes_of_buildHandled (buildHandled_of_handle hruns), if_pos ⟨hawaited, hjob⟩]

theorem get?_mutes_of_not_unasked (hunasked : ¬ Unasked herald.awaited.get? job handled.input)
    (hnone : mutedBy? settings job handled = none) :
    after.mutes.get? job = herald.mutes.get? job := by
  obtain ⟨now, input, trace⟩ := handled
  cases input with
  | build build =>
      rw [get?_mutes_of_buildHandled (buildHandled_of_handle hruns), if_neg]
      rintro ⟨hawaited, hjob⟩
      exact hunasked ⟨build, rfl, hjob, hawaited⟩
  | command ticket command =>
      cases commandHandled_of_handle hruns with
      | unknown => rfl
      | untargeted => rfl
      | rerun => rfl
      | rerunFailed => rfl
      | paused => rfl
      | muteRefused => rfl
      | @muted other expiry hverb hother hasked =>
          have hne : other ≠ job := by
            rintro rfl
            change muteExpiry settings now command.args = _ at hasked
            simp [mutedBy?, hverb, hother, hasked, Except.toOption] at hnone
          rw [get?_put, if_neg hne]

end Entry

/-- The entry stands at its expiry until a build takes it out, and does not come back. -/
theorem get?_mutes_of_goes {before : List Handled} (hserved : Served settings before herald)
    (hentry : herald.mutes.get? job = some expiry) (hgoes : Goes settings herald later last)
    (hnone : ∀ handled ∈ later, mutedBy? settings job handled = none) :
    (Lapsed before later job expiry → last.mutes.get? job = none) ∧
      (¬ Lapsed before later job expiry → last.mutes.get? job = some expiry) := by
  induction later using List.reverseRecOn generalizing last with
  | nil =>
      cases hgoes
      exact ⟨fun hlapsed => absurd hlapsed (not_lapsed_nil before), fun _ => hentry⟩
  | append_singleton later handled ih =>
      obtain ⟨mid, hmid, hfinal⟩ := exists_goes_of_append hgoes
      obtain ⟨hgone, hstands⟩ := ih hmid fun other hmem => hnone other (List.mem_append_left _ hmem)
      have hwaiting := awaited_of_served (served_append hserved hmid)
      have hquiet := hnone handled (List.mem_append_right _ List.mem_cons_self)
      rw [lapsed_concat, ← hwaiting]
      cases hfinal with
      | step hruns hstay =>
          cases hstay
          by_cases hunasked : Unasked mid.awaited.get? job handled.input
          · rw [get?_mutes_of_unasked hruns hunasked]
            by_cases hlapsed : Lapsed before later job expiry
            · rw [hgone hlapsed]
              exact ⟨fun _ => rfl, fun hnot => absurd (.inl hlapsed) hnot⟩
            · rw [hstands hlapsed]
              simp [lasting, Option.filter, hlapsed, hunasked]
          · rw [get?_mutes_of_not_unasked hruns hunasked hquiet]
            simp only [hunasked, false_and, or_false]
            exact ⟨hgone, hstands⟩

end BuildHerald.Proofs.MuteEntries
