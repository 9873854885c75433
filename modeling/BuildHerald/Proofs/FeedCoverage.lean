import BuildHerald.Proofs.FeedHistory
import Mathlib.Data.List.Permutation

namespace BuildHerald.Proofs.FeedCoverage

open BuildHerald.Feed
open BuildHerald.Proofs.IntakeSteps
open BuildHerald.Proofs.FeedHistory

/-- The server lists, as it now is, every build after the cursor asked from up to the cursor that it
gives, in any order and with any others, and later builds have numbers beyond that cursor. -/
def covering : Conduct where
  creates replies id :=
    ∀ reply ∈ replies, ∀ listing next, Conveys reply listing next → next < id
  answers builds cursor reply :=
    ∀ listing next, Conveys reply listing next →
      ∀ build ∈ builds, cursor < build.id → build.id ≤ next → build ∈ listing.builds

/-- The server lists builds only as they now are. -/
def candid : Conduct where
  creates _ _ := True
  answers builds _ reply :=
    ∀ listing next, Conveys reply listing next → ∀ listed ∈ listing.builds, listed ∈ builds

/-- The cursor is never moved beyond all those that the server has given. -/
theorem cursorAfter_le_given (start : Bookmark) (replies : List Reply) :
    cursorAfter start replies ≤ start.position ∨
      ∃ reply ∈ replies, ∃ listing next,
        Conveys reply listing next ∧ cursorAfter start replies ≤ next := by
  induction replies using List.reverseRecOn with
  | nil => exact .inl (le_refl _)
  | append_singleton replies reply ih =>
      rw [cursorAfter, intakeAfter_concat]
      by_cases hmatters : ∃ listing next, Conveys reply listing next
      · obtain ⟨listing, next, hconveys⟩ := hmatters
        refine .inr ⟨reply, by simp, listing, next, hconveys, ?_⟩
        rw [absorb_of_conveys hconveys]
        exact cursor_take_le hconveys.leads
      · rw [absorb_of_not_conveys hmatters]
        rcases ih with hstart | ⟨given, hmem, hgiven⟩
        · exact .inl hstart
        · exact .inr ⟨given, List.mem_append_left _ hmem, hgiven⟩

/-- An answer that covers what it claims to cover leaves no build behind the cursor undelivered. -/
theorem exists_sent_of_answer {start : Bookmark} {replies : List Reply} {reply : Reply}
    {builds : List Build} {build : Build}
    (hanswer : covering.answers builds (cursorAfter start replies) reply) (hbuild : build ∈ builds)
    (hnew : cursorAfter start replies < build.id)
    (hbehind : build.id ≤ cursorAfter start (replies ++ [reply])) :
    ∃ sent ∈ sentBy start (replies ++ [reply]), sent.id = build.id := by
  rw [cursorAfter, intakeAfter_concat] at hbehind
  by_cases hmatters : ∃ listing next, Conveys reply listing next
  · obtain ⟨listing, next, hconveys⟩ := hmatters
    rw [absorb_of_conveys hconveys] at hbehind
    have hlisted : build ∈ listing.builds :=
      hanswer listing next hconveys build hbuild hnew
        (hbehind.trans (cursor_take_le hconveys.leads))
    have hfinished : build.status.isFinished = true := by
      by_contra hrunning
      rw [← isRunning_eq_false_iff, Bool.not_eq_false] at hrunning
      have hlow : ((intakeAfter start replies).take listing).1.cursor ≤ build.id - 1 :=
        cursor_take_le_of_running hconveys.leads hlisted hrunning
      omega
    exact exists_sent_of_listed hconveys hlisted hfinished
  · rw [absorb_of_not_conveys hmatters] at hbehind
    exact absurd hbehind (Nat.not_le.mpr hnew)

/-- Whatever the cursor has once been moved past had been delivered by then. -/
theorem exists_sent_of_passed {start : Bookmark} {builds : List Build} {replies past : List Reply}
    (hrun : Polled covering start builds replies) (hpast : past <+: replies) {build : Build}
    (hbuild : build ∈ builds) (hbeyond : start.position < build.id)
    (hbehind : build.id ≤ cursorAfter start past) :
    ∃ sent ∈ sentBy start past, sent.id = build.id := by
  -- The cursor may have been further on before, so the induction is about all earlier positions.
  induction hrun generalizing build past with
  | begun _ =>
      rw [List.prefix_nil] at hpast
      subst hpast
      exact absurd hbehind (Nat.not_le.mpr hbeyond)
  | created _ _ hcreates ih =>
      rcases List.mem_append.mp hbuild with hold | hnew
      · exact ih hpast hold hbeyond hbehind
      · rw [List.mem_singleton] at hnew
        -- The cursor stays within what the server has given, and a new build lies beyond all of that.
        rcases cursorAfter_le_given start past with
          hstart | ⟨reply, hmem, listing, next, hconveys, hnext⟩
        · exact absurd (hbehind.trans hstart) (Nat.not_le.mpr hbeyond)
        · have hcreated := hcreates reply (hpast.subset hmem) listing next hconveys
          rw [← hnew] at hcreated
          exact absurd (hbehind.trans hnext) (Nat.not_le.mpr hcreated)
  | @changed before after replies old new _ hid _ ih =>
      rcases List.mem_append.mp hbuild with hmem | hmem
      · exact ih hpast (List.mem_append_left _ hmem) hbeyond hbehind
      · rcases List.mem_cons.mp hmem with rfl | hafter
        · rw [hid] at hbeyond hbehind ⊢
          exact ih hpast (List.mem_append_right _ List.mem_cons_self) hbeyond hbehind
        · exact ih hpast (List.mem_append_right _ (List.mem_cons_of_mem _ hafter)) hbeyond hbehind
  | @answered builds replies reply _ hanswer ih =>
      rcases List.prefix_concat_iff.mp hpast with rfl | hearlier
      · by_cases hnew : cursorAfter start replies < build.id
        · exact exists_sent_of_answer hanswer hbuild hnew hbehind
        · obtain ⟨sent, hsent, hid⟩ :=
            ih (List.prefix_refl _) hbuild hbeyond (Nat.not_lt.mp hnew)
          rw [sentBy_concat]
          exact ⟨sent, List.mem_append_left _ hsent, hid⟩
      · exact ih hearlier hbuild hbeyond hbehind

/-- A candid server's builds are delivered with the status that they have, then and ever after. -/
theorem exists_build_of_sent {start : Bookmark} {builds : List Build} {replies : List Reply}
    (hrun : Polled candid start builds replies) {sent : Build} (hsent : sent ∈ sentBy start replies) :
    ∃ build ∈ builds, build.id = sent.id ∧ build.status = sent.status := by
  induction hrun with
  | begun _ => cases hsent
  | created _ _ _ ih =>
      obtain ⟨build, hbuild, hsame⟩ := ih hsent
      exact ⟨build, List.mem_append_left _ hbuild, hsame⟩
  | @changed before after replies old new _ hid hkept ih =>
      obtain ⟨build, hbuild, hsame, hstatus⟩ := ih hsent
      rcases List.mem_append.mp hbuild with hmem | hmem
      · exact ⟨build, List.mem_append_left _ hmem, hsame, hstatus⟩
      · rcases List.mem_cons.mp hmem with rfl | hafter
        · have hfinished : build.status.isFinished = true :=
            hstatus ▸ finished_of_mem_absorbAll hsent
          refine ⟨new, List.mem_append_right _ List.mem_cons_self, hid.trans hsame, ?_⟩
          exact (hkept hfinished).trans hstatus
        · exact ⟨build, List.mem_append_right _ (List.mem_cons_of_mem _ hafter), hsame, hstatus⟩
  | @answered builds replies reply _ hanswer ih =>
      rw [sentBy_concat] at hsent
      rcases List.mem_append.mp hsent with hbefore | hnow
      · exact ih hbefore
      · obtain ⟨listing, next, hconveys, hlisted⟩ := exists_conveys_of_mem_absorb hnow
        exact ⟨sent, hanswer listing next hconveys sent hlisted, rfl, rfl⟩

/-- No finished build is ever skipped: every build between the place where the feed began and its
cursor has been delivered as finished, and with its true status if the server is candid. -/
theorem delivered_of_le_cursor {start : Bookmark} {builds : List Build} {replies : List Reply}
    (hrun : Polled covering start builds replies) {build : Build} (hbuild : build ∈ builds)
    (hbeyond : start.position < build.id) (hbehind : build.id ≤ cursorAfter start replies) :
    ∃ sent ∈ sentBy start replies, sent.id = build.id ∧ sent.status.isFinished = true ∧
      (Polled candid start builds replies → sent.status = build.status) := by
  obtain ⟨sent, hsent, hid⟩ :=
    exists_sent_of_passed hrun (List.prefix_refl _) hbuild hbeyond hbehind
  refine ⟨sent, hsent, hid, finished_of_mem_absorbAll hsent, ?_⟩
  intro hcandid
  obtain ⟨other, hother, hsame, hstatus⟩ := exists_build_of_sent hcandid hsent
  have hequal := hrun.eq_of_id_eq hother hbuild (hsame.trans hid)
  exact hequal ▸ hstatus.symm

def unitBuild (id : Nat) (status : Status) : Build :=
  ⟨id, toString id, "main", some "pip", some "unit", status⟩

/-- A listing in the wrong order with a build that is pending, a failure, and a listing with that
build aborted and a later one, beyond its cursor, that runs. -/
def withholdingReplies : List Reply :=
  [.ok ⟨[unitBuild 103 .failed, unitBuild 101 .succeeded, unitBuild 102 .pending], some 104⟩,
    .error (.requestFailed "/api/v1/builds" "timeout"),
    .ok ⟨[unitBuild 105 .started, unitBuild 102 .aborted, unitBuild 103 .failed], some 104⟩]

def withholdingBuilds : List Build :=
  [unitBuild 101 .succeeded] ++ unitBuild 102 .aborted :: [unitBuild 103 .failed] ++
    [unitBuild 105 .started]

theorem polled_withholdingReplies :
    Polled covering ⟨100, 100⟩ withholdingBuilds withholdingReplies := by
  have hbegun : Polled covering ⟨100, 100⟩
      ([unitBuild 101 .succeeded] ++ unitBuild 102 .pending :: [unitBuild 103 .failed]) [] :=
    .begun (by decide)
  have hlisted : Polled covering ⟨100, 100⟩
      ([unitBuild 101 .succeeded] ++ unitBuild 102 .pending :: [unitBuild 103 .failed])
      (withholdingReplies.take 1) := by
    refine hbegun.answered ?_
    rintro _ _ ⟨hok, hnext, _⟩
    cases hok
    cases hnext
    decide
  have hfailed : Polled covering ⟨100, 100⟩
      ([unitBuild 101 .succeeded] ++ unitBuild 102 .pending :: [unitBuild 103 .failed])
      (withholdingReplies.take 2) := by
    refine hlisted.answered ?_
    rintro _ _ ⟨hok, _⟩
    cases hok
  have haborted : Polled covering ⟨100, 100⟩
      ([unitBuild 101 .succeeded] ++ unitBuild 102 .aborted :: [unitBuild 103 .failed])
      (withholdingReplies.take 2) :=
    hfailed.changed rfl (by decide)
  have hcreated : Polled covering ⟨100, 100⟩ withholdingBuilds (withholdingReplies.take 2) := by
    refine haborted.created (by decide) ?_
    intro reply hmem listing next hconveys
    have hnext := hconveys.leads.next_eq
    simp only [withholdingReplies, List.take_succ_cons, List.take_zero, List.mem_cons,
      List.not_mem_nil, or_false] at hmem
    rcases hmem with rfl | rfl <;> cases hconveys.ok
    cases hnext
    decide
  have hcursor : cursorAfter ⟨100, 100⟩ (withholdingReplies.take 2) = 101 := by cbv
  refine hcreated.answered ?_
  rintro _ _ ⟨hok, hnext, _⟩
  cases hok
  cases hnext
  intro build hbuild hnew _
  rw [hcursor] at hnew
  revert build
  decide

/-- The build that was pending at first is delivered, once the cursor is behind it. -/
theorem withheld_build_delivered :
    Polled covering ⟨100, 100⟩ withholdingBuilds withholdingReplies ∧
      102 ≤ cursorAfter ⟨100, 100⟩ withholdingReplies ∧
      ∃ sent ∈ sentBy ⟨100, 100⟩ withholdingReplies, sent.id = 102 ∧
        sent.status.isFinished = true := by
  have hbehind : 102 ≤ cursorAfter ⟨100, 100⟩ withholdingReplies := by cbv
  have hbuild : unitBuild 102 .aborted ∈ withholdingBuilds := by decide
  obtain ⟨sent, hsent, hid, hfinished, _⟩ :=
    delivered_of_le_cursor polled_withholdingReplies hbuild (by decide) hbehind
  exact ⟨polled_withholdingReplies, hbehind, sent, hsent, hid, hfinished⟩

end BuildHerald.Proofs.FeedCoverage
