import BuildHerald.Feed.Watch
import BuildHerald.Proofs.IntakeSteps
import Mathlib.Data.List.Induction

/-!
Runs of the feed against a server whose builds are created and change while it is asked.

The answers to successive queries are taken in one by one. What a server may answer is a parameter,
its conduct, so that one notion of a run serves servers of every kind.
-/

namespace BuildHerald.Proofs.FeedHistory

open BuildHerald.Feed
open BuildHerald.Proofs.IntakeSteps

/-! ### Answers, one after the other -/

/-- Takes in the answer to a query. One that failed has no effect. -/
def absorb (intake : Intake) : Reply → Intake × List Build
  | .ok listing => intake.take listing
  | .error _ => (intake, [])

/-- Takes in the answers to successive queries, and tells all builds that are delivered. -/
def absorbAll (intake : Intake) : List Reply → Intake × List Build
  | [] => (intake, [])
  | reply :: rest =>
      let (intake, first) := absorb intake reply
      let (intake, others) := absorbAll intake rest
      (intake, first ++ others)

/-- A feed that waits for an answer goes on as `absorb` says. -/
theorem answered_asking (pageSize : Nat) (intake : Intake) (reply : Reply) :
    Watch.answered pageSize reply (.asking intake) =
      Watch.offer (absorb intake reply).1 (absorb intake reply).2 := by
  cases reply with
  | ok listing => rfl
  | error fault => rfl

theorem absorbAll_cons (intake : Intake) (reply : Reply) (rest : List Reply) :
    absorbAll intake (reply :: rest) =
      ((absorbAll (absorb intake reply).1 rest).1,
        (absorb intake reply).2 ++ (absorbAll (absorb intake reply).1 rest).2) :=
  rfl

theorem absorbAll_append (intake : Intake) (earlier later : List Reply) :
    absorbAll intake (earlier ++ later) =
      ((absorbAll (absorbAll intake earlier).1 later).1,
        (absorbAll intake earlier).2 ++ (absorbAll (absorbAll intake earlier).1 later).2) := by
  induction earlier generalizing intake with
  | nil => rfl
  | cons reply rest ih =>
      rw [List.cons_append, absorbAll_cons, absorbAll_cons, ih]
      simp only [List.append_assoc]

theorem absorbAll_concat (intake : Intake) (replies : List Reply) (reply : Reply) :
    absorbAll intake (replies ++ [reply]) =
      ((absorb (absorbAll intake replies).1 reply).1,
        (absorbAll intake replies).2 ++ (absorb (absorbAll intake replies).1 reply).2) := by
  rw [absorbAll_append, absorbAll_cons]
  simp only [absorbAll, List.append_nil]

/-- Where the intake stands after some answers. -/
def intakeAfter (start : Bookmark) (replies : List Reply) : Intake :=
  (absorbAll (.start start) replies).1

/-- The cursor to ask from after some answers. -/
def cursorAfter (start : Bookmark) (replies : List Reply) : Nat :=
  (intakeAfter start replies).cursor

/-- The builds delivered by some answers. -/
def sentBy (start : Bookmark) (replies : List Reply) : List Build :=
  (absorbAll (.start start) replies).2

theorem intakeAfter_concat (start : Bookmark) (replies : List Reply) (reply : Reply) :
    intakeAfter start (replies ++ [reply]) = (absorb (intakeAfter start replies) reply).1 := by
  rw [intakeAfter, absorbAll_concat]
  rfl

theorem intakeAfter_append_cons (start : Bookmark) (earlier later : List Reply) (reply : Reply) :
    intakeAfter start (earlier ++ reply :: later) =
      (absorbAll (absorb (intakeAfter start earlier) reply).1 later).1 := by
  rw [intakeAfter, absorbAll_append]
  rfl

theorem sentBy_concat (start : Bookmark) (replies : List Reply) (reply : Reply) :
    sentBy start (replies ++ [reply]) =
      sentBy start replies ++ (absorb (intakeAfter start replies) reply).2 := by
  rw [sentBy, absorbAll_concat]
  rfl

theorem sentBy_mono {start : Bookmark} {past replies : List Reply} (hpast : past <+: replies) :
    sentBy start past <+: sentBy start replies := by
  obtain ⟨later, rfl⟩ := hpast
  rw [sentBy, sentBy, absorbAll_append]
  exact List.prefix_append _ _

theorem exists_answer_of_sent {start : Bookmark} {replies : List Reply} {build : Build}
    (hsent : build ∈ sentBy start replies) :
    ∃ earlier reply later, replies = earlier ++ reply :: later ∧
      build ∈ (absorb (intakeAfter start earlier) reply).2 := by
  induction replies using List.reverseRecOn with
  | nil => cases hsent
  | append_singleton replies reply ih =>
      rw [sentBy_concat] at hsent
      rcases List.mem_append.mp hsent with hbefore | hnow
      · obtain ⟨earlier, reply', later, rfl, hmem⟩ := ih hbefore
        exact ⟨earlier, reply', later ++ [reply], by simp, hmem⟩
      · exact ⟨replies, reply, [], rfl, hnow⟩

/-! ### Answers that matter -/

/-- The answer is a listing with a cursor, and with builds. Any other has no effect. -/
structure Conveys (reply : Reply) (listing : Listing) (next : Nat) : Prop where
  ok : reply = .ok listing
  leads : Leads listing next

theorem absorb_of_conveys {intake : Intake} {reply : Reply} {listing : Listing} {next : Nat}
    (hconveys : Conveys reply listing next) : absorb intake reply = intake.take listing := by
  rw [hconveys.ok]
  rfl

theorem absorb_of_not_conveys {intake : Intake} {reply : Reply}
    (hnone : ¬ ∃ listing next, Conveys reply listing next) : absorb intake reply = (intake, []) := by
  cases reply with
  | ok listing =>
      apply take_of_not_leads
      rintro ⟨next, hleads⟩
      exact hnone ⟨listing, next, rfl, hleads⟩
  | error fault => rfl

theorem exists_conveys_of_mem_absorb {intake : Intake} {reply : Reply} {build : Build}
    (hmem : build ∈ (absorb intake reply).2) :
    ∃ listing next, Conveys reply listing next ∧ build ∈ listing.builds := by
  by_cases hmatters : ∃ listing next, Conveys reply listing next
  · obtain ⟨listing, next, hconveys⟩ := hmatters
    rw [absorb_of_conveys hconveys] at hmem
    exact ⟨listing, next, hconveys, (of_mem_take hmem).1⟩
  · rw [absorb_of_not_conveys hmatters] at hmem
    cases hmem

theorem finished_of_mem_absorb {intake : Intake} {reply : Reply} {build : Build}
    (hmem : build ∈ (absorb intake reply).2) : build.status.isFinished = true := by
  cases reply with
  | ok listing => exact (of_mem_take hmem).2.1
  | error fault => cases hmem

theorem finished_of_mem_absorbAll {intake : Intake} {replies : List Reply} {build : Build}
    (hmem : build ∈ (absorbAll intake replies).2) : build.status.isFinished = true := by
  induction replies generalizing intake with
  | nil => cases hmem
  | cons reply rest ih =>
      rw [absorbAll_cons] at hmem
      rcases List.mem_append.mp hmem with hfirst | hrest
      · exact finished_of_mem_absorb hfirst
      · exact ih hrest

theorem not_remembered_of_mem_absorb {intake : Intake} {reply : Reply} {build : Build}
    (hmem : build ∈ (absorb intake reply).2) : build.id ∉ intake.delivered := by
  cases reply with
  | ok listing => exact (of_mem_take hmem).2.2
  | error fault => cases hmem

theorem ascending_absorb (intake : Intake) (reply : Reply) :
    ((absorb intake reply).2.map Build.id).Pairwise (· < ·) := by
  cases reply with
  | ok listing => exact ascending_take intake listing
  | error fault => exact List.Pairwise.nil

/-- What is remembered after an answer has been delivered by it, or was remembered before. -/
theorem remembered_of_absorb {intake : Intake} {reply : Reply} {id : Nat}
    (hmem : id ∈ (absorb intake reply).1.delivered) :
    id ∈ intake.delivered ∨ ∃ sent ∈ (absorb intake reply).2, sent.id = id := by
  by_cases hmatters : ∃ listing next, Conveys reply listing next
  · obtain ⟨listing, next, hconveys⟩ := hmatters
    rw [absorb_of_conveys hconveys] at hmem ⊢
    rcases ((mem_delivered_take_iff hconveys.leads id).mp hmem).1 with
      hknown | ⟨build, hlisted, hfinished, rfl⟩
    · exact .inl hknown
    · by_cases hknown : build.id ∈ intake.delivered
      · exact .inl hknown
      · exact .inr (exists_mem_take hconveys.leads hlisted hfinished hknown)
  · rw [absorb_of_not_conveys hmatters] at hmem
    exact .inl hmem

theorem remembered_of_absorbAll {intake : Intake} {replies : List Reply} {id : Nat}
    (hmem : id ∈ (absorbAll intake replies).1.delivered) :
    id ∈ intake.delivered ∨ ∃ sent ∈ (absorbAll intake replies).2, sent.id = id := by
  induction replies generalizing intake with
  | nil => exact .inl hmem
  | cons reply rest ih =>
      rw [absorbAll_cons] at hmem ⊢
      rcases ih hmem with hknown | ⟨sent, hsent, hid⟩
      · rcases remembered_of_absorb hknown with hbefore | ⟨sent, hsent, hid⟩
        · exact .inl hbefore
        · exact .inr ⟨sent, List.mem_append_left _ hsent, hid⟩
      · exact .inr ⟨sent, List.mem_append_right _ hsent, hid⟩

theorem exists_sent_of_remembered {start : Bookmark} {replies : List Reply} {id : Nat}
    (hmem : id ∈ (intakeAfter start replies).delivered) :
    ∃ sent ∈ sentBy start replies, sent.id = id := by
  rcases remembered_of_absorbAll hmem with hknown | hsent
  · cases hknown
  · exact hsent

/-- A finished build that is listed has been delivered with its answer, if not before. -/
theorem exists_sent_of_listed {start : Bookmark} {replies : List Reply} {reply : Reply}
    {listing : Listing} {next : Nat} {build : Build} (hconveys : Conveys reply listing next)
    (hlisted : build ∈ listing.builds) (hfinished : build.status.isFinished = true) :
    ∃ sent ∈ sentBy start (replies ++ [reply]), sent.id = build.id := by
  rw [sentBy_concat, absorb_of_conveys hconveys]
  by_cases hknown : build.id ∈ (intakeAfter start replies).delivered
  · obtain ⟨sent, hsent, hid⟩ := exists_sent_of_remembered hknown
    exact ⟨sent, List.mem_append_left _ hsent, hid⟩
  · obtain ⟨sent, hsent, hid⟩ := exists_mem_take hconveys.leads hlisted hfinished hknown
    exact ⟨sent, List.mem_append_right _ hsent, hid⟩

theorem cursorAfter_lt_of_remembered {start : Bookmark} {replies : List Reply} {id : Nat}
    (hmem : id ∈ (intakeAfter start replies).delivered) : cursorAfter start replies < id := by
  induction replies using List.reverseRecOn generalizing id with
  | nil => cases hmem
  | append_singleton replies reply ih =>
      rw [cursorAfter, intakeAfter_concat]
      rw [intakeAfter_concat] at hmem
      cases reply with
      | ok listing => exact cursor_take_lt (fun known hknown => ih hknown) hmem
      | error fault => exact ih hmem

theorem stride_intakeAfter (start : Bookmark) (replies : List Reply) :
    (intakeAfter start replies).bookmark.stride = start.stride := by
  induction replies using List.reverseRecOn with
  | nil => rfl
  | append_singleton replies reply ih =>
      rw [intakeAfter_concat]
      cases reply with
      | ok listing => exact (stride_take _ _).trans ih
      | error fault => exact ih

/-! ### The server -/

/-- What a server may do: which numbers new builds may have after some answers, and how a query for
builds after a cursor may be answered while the server has certain builds. -/
structure Conduct where
  creates : List Reply → Nat → Prop
  answers : List Build → Nat → Reply → Prop

/-- The server has had these builds, in the order of their creation, when it had given these answers
to a feed that began at `start`. Numbers grow with creation, and a build that has finished keeps its
status. -/
inductive Polled (conduct : Conduct) (start : Bookmark) : List Build → List Reply → Prop
  | begun {builds : List Build} :
      builds.Pairwise (fun old new => old.id < new.id) → Polled conduct start builds []
  | created {builds : List Build} {replies : List Reply} {build : Build} :
      Polled conduct start builds replies → (∀ old ∈ builds, old.id < build.id) →
        conduct.creates replies build.id → Polled conduct start (builds ++ [build]) replies
  | changed {before after : List Build} {replies : List Reply} {old new : Build} :
      Polled conduct start (before ++ old :: after) replies → new.id = old.id →
        (old.status.isFinished = true → new.status = old.status) →
          Polled conduct start (before ++ new :: after) replies
  | answered {builds : List Build} {replies : List Reply} {reply : Reply} :
      Polled conduct start builds replies →
        conduct.answers builds (cursorAfter start replies) reply →
          Polled conduct start builds (replies ++ [reply])

theorem Polled.ids_pairwise {conduct : Conduct} {start : Bookmark} {builds : List Build}
    {replies : List Reply} (hrun : Polled conduct start builds replies) :
    (builds.map Build.id).Pairwise (· < ·) := by
  induction hrun with
  | begun hids => exact List.pairwise_map.mpr hids
  | created _ habove _ ih =>
      rw [List.map_append, List.pairwise_append]
      refine ⟨ih, List.pairwise_singleton _ _, ?_⟩
      intro oldId hold newId hnew
      obtain ⟨old, hmem, rfl⟩ := List.mem_map.mp hold
      rw [List.map_singleton, List.mem_singleton] at hnew
      exact hnew ▸ habove old hmem
  | changed _ hid _ ih =>
      rw [List.map_append, List.map_cons] at ih ⊢
      rw [hid]
      exact ih
  | answered _ _ ih => exact ih

theorem Polled.eq_of_id_eq {conduct : Conduct} {start : Bookmark} {builds : List Build}
    {replies : List Reply} (hrun : Polled conduct start builds replies) {build other : Build}
    (hbuild : build ∈ builds) (hother : other ∈ builds) (hid : build.id = other.id) :
    build = other :=
  List.inj_on_of_nodup_map (hrun.ids_pairwise.imp Nat.ne_of_lt) hbuild hother hid

/-- Every answer is one that the server may have given, to the query that was put then. The numbers of
the builds that there were are the first of those that there are now. -/
theorem Polled.exists_present {conduct : Conduct} {start : Bookmark} {builds : List Build}
    {replies earlier later : List Reply} {reply : Reply}
    (hrun : Polled conduct start builds replies) (hsplit : replies = earlier ++ reply :: later) :
    ∃ present, Polled conduct start present earlier ∧
      conduct.answers present (cursorAfter start earlier) reply ∧
        present.map Build.id <+: builds.map Build.id := by
  induction hrun generalizing later with
  | begun _ => simp at hsplit
  | created _ _ _ ih =>
      obtain ⟨present, hearlier, hanswer, hstarts⟩ := ih hsplit
      refine ⟨present, hearlier, hanswer, hstarts.trans ?_⟩
      rw [List.map_append]
      exact List.prefix_append _ _
  | changed _ hid _ ih =>
      obtain ⟨present, hearlier, hanswer, hstarts⟩ := ih hsplit
      refine ⟨present, hearlier, hanswer, ?_⟩
      rw [List.map_append, List.map_cons] at hstarts ⊢
      rw [hid]
      exact hstarts
  | @answered builds replies last hbefore hanswer ih =>
      rcases List.eq_nil_or_concat later with rfl | ⟨middle, final, rfl⟩
      · obtain ⟨rfl, hlast⟩ := List.append_inj' hsplit rfl
        cases hlast
        exact ⟨builds, hbefore, hanswer, List.prefix_refl _⟩
      · rw [List.concat_eq_append, ← List.cons_append, ← List.append_assoc] at hsplit
        exact ih (List.append_inj' hsplit rfl).1

theorem Polled.exists_answers {conduct : Conduct} {start : Bookmark} {builds : List Build}
    {replies earlier later : List Reply} {reply : Reply}
    (hrun : Polled conduct start builds replies) (hsplit : replies = earlier ++ reply :: later) :
    ∃ present, Polled conduct start present earlier ∧
      conduct.answers present (cursorAfter start earlier) reply := by
  obtain ⟨present, hearlier, hanswer, _⟩ := hrun.exists_present hsplit
  exact ⟨present, hearlier, hanswer⟩

end BuildHerald.Proofs.FeedHistory
