import BuildHerald.Proofs.FeedCoverage

/-!
Which builds the feed delivers more than once.

A listing moves the bookmark back once for each build in it that runs. Several of them can take it
behind builds that have been delivered and forgotten, which are then listed and delivered again.
-/

namespace BuildHerald.Proofs.RepeatedDelivery

open BuildHerald.Feed
open BuildHerald.Proofs.IntakeSteps
open BuildHerald.Proofs.FeedHistory
open BuildHerald.Proofs.FeedCoverage

/-! ### A server that lists page by page -/

/-- The first builds after a cursor, no more than `limit` of them. -/
def pageAfter (limit cursor : Nat) (builds : List Build) : List Build :=
  (builds.filter (cursor < ·.id)).take limit

/-- The server lists exactly the first builds after the cursor asked from, as they now are, and gives
the last of their numbers as the cursor. -/
def paging (limit : Nat) : Conduct where
  creates _ _ := True
  answers builds cursor reply :=
    ∀ listing next, Conveys reply listing next →
      listing.builds.Perm (pageAfter limit cursor builds) ∧
        (pageAfter limit cursor builds).getLast?.map Build.id = some next

theorem answers_page {limit cursor next : Nat} {builds listed : List Build}
    (hperm : listed.Perm (pageAfter limit cursor builds))
    (hnext : (pageAfter limit cursor builds).getLast?.map Build.id = some next) :
    (paging limit).answers builds cursor (.ok ⟨listed, some next⟩) := by
  rintro listing given ⟨hok, hgiven, _⟩
  cases hok
  cases hgiven
  exact ⟨hperm, hnext⟩

theorem of_mem_pageAfter {limit cursor : Nat} {builds : List Build} {build : Build}
    (hmem : build ∈ pageAfter limit cursor builds) : build ∈ builds ∧ cursor < build.id := by
  have hfiltered := List.mem_of_mem_take hmem
  simpa using hfiltered

theorem length_pageAfter_le (limit cursor : Nat) (builds : List Build) :
    (pageAfter limit cursor builds).length ≤ limit := by
  rw [pageAfter, List.length_take]
  exact Nat.min_le_left _ _

theorem le_next_of_mem_pageAfter {limit cursor next : Nat} {builds : List Build} {build : Build}
    (hids : (builds.map Build.id).Pairwise (· < ·))
    (hnext : (pageAfter limit cursor builds).getLast?.map Build.id = some next)
    (hmem : build ∈ pageAfter limit cursor builds) : build.id ≤ next := by
  obtain ⟨last, hlast, rfl⟩ := Option.map_eq_some_iff.mp hnext
  have hsorted : (pageAfter limit cursor builds).Pairwise (fun old new => old.id < new.id) :=
    ((List.pairwise_map.mp hids).filter _).sublist (List.take_sublist _ _)
  obtain ⟨before, hpage⟩ := List.getLast?_eq_some_iff.mp hlast
  rw [hpage] at hsorted hmem
  rcases List.mem_append.mp hmem with hbefore | hlast
  · exact Nat.le_of_lt ((List.pairwise_append.mp hsorted).2.2 build hbefore last (by simp))
  · rw [List.mem_singleton.mp hlast]

theorem mem_pageAfter_of_le {limit cursor next : Nat} {builds : List Build} {build : Build}
    (hids : (builds.map Build.id).Pairwise (· < ·))
    (hnext : (pageAfter limit cursor builds).getLast?.map Build.id = some next)
    (hbuild : build ∈ builds) (hnew : cursor < build.id) (hle : build.id ≤ next) :
    build ∈ pageAfter limit cursor builds := by
  obtain ⟨last, hlast, rfl⟩ := Option.map_eq_some_iff.mp hnext
  have hlastMem := List.mem_of_getLast? hlast
  have hmem : build ∈ builds.filter (cursor < ·.id) := by
    simpa using ⟨hbuild, hnew⟩
  have hsorted : (builds.filter (cursor < ·.id)).Pairwise (fun old new => old.id < new.id) :=
    (List.pairwise_map.mp hids).filter _
  rw [← List.take_append_drop limit (builds.filter (cursor < ·.id))] at hmem hsorted
  rcases List.mem_append.mp hmem with hpage | hrest
  · exact hpage
  · have hbefore := (List.pairwise_append.mp hsorted).2.2 last hlastMem build hrest
    exact absurd hle (Nat.not_le.mpr hbefore)

theorem exists_build_of_listed {limit : Nat} {start : Bookmark} {builds : List Build}
    {replies : List Reply} (hrun : Polled (paging limit) start builds replies) {reply : Reply}
    (hreply : reply ∈ replies) {listing : Listing} {next : Nat} (hconveys : Conveys reply listing next)
    {listed : Build} (hlisted : listed ∈ listing.builds) :
    ∃ build ∈ builds, build.id = listed.id := by
  induction hrun with
  | begun _ => cases hreply
  | created _ _ _ ih =>
      obtain ⟨build, hbuild, hid⟩ := ih hreply
      exact ⟨build, List.mem_append_left _ hbuild, hid⟩
  | @changed before after replies old new _ hid _ ih =>
      obtain ⟨build, hbuild, hsame⟩ := ih hreply
      rcases List.mem_append.mp hbuild with hmem | hmem
      · exact ⟨build, List.mem_append_left _ hmem, hsame⟩
      · rcases List.mem_cons.mp hmem with rfl | hafter
        · exact ⟨new, List.mem_append_right _ List.mem_cons_self, hid.trans hsame⟩
        · exact ⟨build, List.mem_append_right _ (List.mem_cons_of_mem _ hafter), hsame⟩
  | answered _ hanswer ih =>
      rcases List.mem_append.mp hreply with hbefore | hnow
      · exact ih hbefore
      · rw [List.mem_singleton] at hnow
        subst hnow
        have hpage := (hanswer listing next hconveys).1.mem_iff.mp hlisted
        exact ⟨listed, (of_mem_pageAfter hpage).1, rfl⟩

theorem exists_listed_of_next {limit : Nat} {start : Bookmark} {builds : List Build}
    {replies : List Reply} (hrun : Polled (paging limit) start builds replies) {reply : Reply}
    (hreply : reply ∈ replies) {listing : Listing} {next : Nat} (hconveys : Conveys reply listing next) :
    ∃ listed ∈ listing.builds, listed.id = next := by
  obtain ⟨earlier, later, hsplit⟩ := List.append_of_mem hreply
  obtain ⟨present, _, hanswer⟩ := hrun.exists_answers hsplit
  obtain ⟨hperm, hnext⟩ := hanswer listing next hconveys
  obtain ⟨last, hlast, hid⟩ := Option.map_eq_some_iff.mp hnext
  exact ⟨last, hperm.mem_iff.mpr (List.mem_of_getLast? hlast), hid⟩

theorem covering_of_paging {limit : Nat} {start : Bookmark} {builds : List Build}
    {replies : List Reply} (hrun : Polled (paging limit) start builds replies) :
    Polled covering start builds replies := by
  induction hrun with
  | begun hids => exact .begun hids
  | @created builds replies build hbefore habove _ ih =>
      refine ih.created habove ?_
      intro reply hreply listing next hconveys
      obtain ⟨listed, hlisted, rfl⟩ := exists_listed_of_next hbefore hreply hconveys
      obtain ⟨old, hold, hid⟩ := exists_build_of_listed hbefore hreply hconveys hlisted
      exact hid ▸ habove old hold
  | changed _ hid hkept ih => exact ih.changed hid hkept
  | answered hbefore hanswer ih =>
      refine ih.answered ?_
      intro listing next hconveys build hbuild hnew hle
      obtain ⟨hperm, hnext⟩ := hanswer listing next hconveys
      exact hperm.mem_iff.mpr (mem_pageAfter_of_le hbefore.ids_pairwise hnext hbuild hnew hle)

theorem candid_of_paging {limit : Nat} {start : Bookmark} {builds : List Build}
    {replies : List Reply} (hrun : Polled (paging limit) start builds replies) :
    Polled candid start builds replies := by
  induction hrun with
  | begun hids => exact .begun hids
  | created _ habove _ ih => exact ih.created habove trivial
  | changed _ hid hkept ih => exact ih.changed hid hkept
  | answered _ hanswer ih =>
      refine ih.answered ?_
      intro listing next hconveys listed hlisted
      exact (of_mem_pageAfter ((hanswer listing next hconveys).1.mem_iff.mp hlisted)).1

/-! ### What has been delivered is remembered until the cursor is beyond it -/

theorem kept_or_passed_of_absorb {intake : Intake} {reply : Reply} {id : Nat}
    (hmem : id ∈ intake.delivered ∨ ∃ sent ∈ (absorb intake reply).2, sent.id = id) :
    id ∈ (absorb intake reply).1.delivered ∨ id ≤ (absorb intake reply).1.cursor := by
  by_cases hmatters : ∃ listing next, Conveys reply listing next
  · obtain ⟨listing, next, hconveys⟩ := hmatters
    rw [absorb_of_conveys hconveys] at hmem ⊢
    by_cases hpassed : id ≤ (intake.take listing).1.cursor
    · exact .inr hpassed
    · refine .inl ((mem_delivered_take_iff hconveys.leads id).mpr ⟨?_, Nat.not_le.mp hpassed⟩)
      rcases hmem with hknown | ⟨sent, hsent, hid⟩
      · exact .inl hknown
      · exact .inr ⟨sent, (of_mem_take hsent).1, (of_mem_take hsent).2.1, hid⟩
  · rw [absorb_of_not_conveys hmatters] at hmem ⊢
    rcases hmem with hknown | ⟨sent, hsent, _⟩
    · exact .inl hknown
    · cases hsent

/-- A build that has been delivered is forgotten only when the cursor has got to it. -/
theorem kept_or_passed {intake : Intake} {replies : List Reply} {id : Nat}
    (hmem : id ∈ intake.delivered ∨ ∃ sent ∈ (absorbAll intake replies).2, sent.id = id) :
    id ∈ (absorbAll intake replies).1.delivered ∨
      ∃ past, past <+: replies ∧ id ≤ (absorbAll intake past).1.cursor := by
  induction replies generalizing intake with
  | nil =>
      rcases hmem with hknown | ⟨sent, hsent, _⟩
      · exact .inl hknown
      · cases hsent
  | cons reply rest ih =>
      have hstep : (id ∈ (absorb intake reply).1.delivered ∨
            ∃ sent ∈ (absorbAll (absorb intake reply).1 rest).2, sent.id = id) ∨
          id ≤ (absorb intake reply).1.cursor := by
        rcases hmem with hknown | ⟨sent, hsent, hid⟩
        · rcases kept_or_passed_of_absorb (.inl hknown) with hkept | hpassed
          · exact .inl (.inl hkept)
          · exact .inr hpassed
        · rw [absorbAll_cons] at hsent
          rcases List.mem_append.mp hsent with hnow | hlater
          · rcases kept_or_passed_of_absorb (.inr ⟨sent, hnow, hid⟩) with hkept | hpassed
            · exact .inl (.inl hkept)
            · exact .inr hpassed
          · exact .inl (.inr ⟨sent, hlater, hid⟩)
      rcases hstep with hgoes | hpassed
      · rcases ih hgoes with hkept | ⟨past, hpast, hpassed⟩
        · exact .inl hkept
        · exact .inr ⟨reply :: past, (List.prefix_cons_inj reply).mpr hpast, hpassed⟩
      · exact .inr ⟨[reply], ⟨rest, rfl⟩, hpassed⟩

/-- Whatever the server answers: what is remembered lies beyond the cursor, no answer delivers a build
twice, and before a build is delivered by a second answer, the cursor has got to it since the first. -/
theorem passed_between_deliveries (start : Bookmark) :
    (∀ replies, ∀ id ∈ (intakeAfter start replies).delivered, cursorAfter start replies < id) ∧
    (∀ replies reply, ((absorb (intakeAfter start replies) reply).2.map Build.id).Nodup) ∧
    ∀ earlier first between second id,
      id ∈ (absorb (intakeAfter start earlier) first).2.map Build.id →
      id ∈ (absorb (intakeAfter start (earlier ++ first :: between)) second).2.map Build.id →
        ∃ past, past <+: between ∧ id ≤ cursorAfter start (earlier ++ first :: past) := by
  refine ⟨fun _ _ hknown => cursorAfter_lt_of_remembered hknown,
    fun _ _ => (ascending_absorb _ _).imp Nat.ne_of_lt, ?_⟩
  intro earlier first between second id hfirst hsecond
  obtain ⟨sent, hsent, hid⟩ := List.mem_map.mp hfirst
  obtain ⟨again, hagain, rfl⟩ := List.mem_map.mp hsecond
  rcases kept_or_passed_of_absorb (.inr ⟨sent, hsent, hid⟩) with hkept | hpassed
  · -- Remembered after the first answer, and forgotten when the second one comes.
    rcases kept_or_passed (.inl hkept) with hstill | ⟨past, hpast, hpassed⟩
    · rw [intakeAfter_append_cons] at hagain
      exact absurd hstill (not_remembered_of_mem_absorb hagain)
    · refine ⟨past, hpast, ?_⟩
      rw [cursorAfter, intakeAfter_append_cons]
      exact hpassed
  · refine ⟨[], List.nil_prefix, ?_⟩
    rw [cursorAfter, intakeAfter_append_cons]
    exact hpassed

/-- Listings with one number several times, and with cursors that lead on and back again. -/
def erraticReplies : List Reply :=
  [.ok ⟨[unitBuild 105 .succeeded, unitBuild 105 .started, unitBuild 105 .failed], some 110⟩,
    .ok ⟨[unitBuild 50 .succeeded], some 200⟩,
    .ok ⟨[unitBuild 105 .succeeded], some 90⟩]

theorem erratic_build_passed :
    (absorb (intakeAfter ⟨100, 100⟩ []) erraticReplies[0]).2.map Build.id = [105] ∧
      (absorb (intakeAfter ⟨100, 100⟩ ([] ++ erraticReplies[0] :: [erraticReplies[1]]))
        erraticReplies[2]).2.map Build.id = [105] ∧
      ∃ past, past <+: [erraticReplies[1]] ∧
        105 ≤ cursorAfter ⟨100, 100⟩ ([] ++ erraticReplies[0] :: past) := by
  have hfirst : (absorb (intakeAfter ⟨100, 100⟩ []) erraticReplies[0]).2.map Build.id = [105] := by
    cbv
  have hsecond : (absorb (intakeAfter ⟨100, 100⟩ ([] ++ erraticReplies[0] :: [erraticReplies[1]]))
      erraticReplies[2]).2.map Build.id = [105] := by
    cbv
  refine ⟨hfirst, hsecond, ?_⟩
  exact (passed_between_deliveries ⟨100, 100⟩).2.2 [] _ _ _ 105 (hfirst ▸ List.mem_singleton_self _)
    (hsecond ▸ List.mem_singleton_self _)

/-! ### When a build is delivered again -/

/-- A finished build is listed although the cursor has already been at its number or beyond. -/
def Relists (start : Bookmark) (replies : List Reply) : Prop :=
  ∃ earlier reply later, replies = earlier ++ reply :: later ∧
    ∃ listing next, Conveys reply listing next ∧
      ∃ build ∈ listing.builds, build.status.isFinished = true ∧
        ∃ past, past <+: earlier ∧ build.id ≤ cursorAfter start past

theorem relists_mono {start : Bookmark} {past replies : List Reply} (hpast : past <+: replies)
    (hrelists : Relists start past) : Relists start replies := by
  obtain ⟨rest, rfl⟩ := hpast
  obtain ⟨earlier, again, later, rfl, hlisted⟩ := hrelists
  exact ⟨earlier, again, later ++ rest, by simp, hlisted⟩

/-- Whatever the server answers: as long as nothing is listed again, nothing is delivered twice. -/
theorem delivered_once_of_not_relists {start : Bookmark} {replies : List Reply}
    (hrelists : ¬ Relists start replies) :
    ((sentBy start replies).map Build.id).Nodup ∧
      ∀ sent ∈ sentBy start replies, start.position < sent.id := by
  induction replies using List.reverseRecOn with
  | nil => exact ⟨List.nodup_nil, fun _ hsent => by cases hsent⟩
  | append_singleton replies reply ih =>
      obtain ⟨hnodup, hbeyond⟩ :=
        ih fun hbefore => hrelists (relists_mono (List.prefix_append _ _) hbefore)
      rw [sentBy_concat]
      by_cases hmatters : ∃ listing next, Conveys reply listing next
      · obtain ⟨listing, next, hconveys⟩ := hmatters
        rw [absorb_of_conveys hconveys]
        have hfresh : ∀ sent ∈ ((intakeAfter start replies).take listing).2,
            ∀ past, past <+: replies → cursorAfter start past < sent.id := by
          intro sent hsent past hpast
          obtain ⟨hlisted, hfinished, _⟩ := of_mem_take hsent
          by_contra hpassed
          exact hrelists ⟨replies, reply, [], rfl, listing, next, hconveys, sent, hlisted, hfinished,
            past, hpast, Nat.not_lt.mp hpassed⟩
        refine ⟨?_, ?_⟩
        · rw [List.map_append]
          refine List.Nodup.append hnodup (nodup_take _ _) ?_
          intro id hold hnew
          obtain ⟨before, hbefore, hsame⟩ := List.mem_map.mp hold
          obtain ⟨sent, hsent, rfl⟩ := List.mem_map.mp hnew
          rcases kept_or_passed (.inr ⟨before, hbefore, hsame⟩) with hkept | ⟨past, hpast, hpassed⟩
          · exact (of_mem_take hsent).2.2 hkept
          · exact Nat.not_le.mpr (hfresh sent hsent past hpast) hpassed
        · intro sent hmem
          rcases List.mem_append.mp hmem with hbefore | hnow
          · exact hbeyond sent hbefore
          · exact hfresh sent hnow [] (List.nil_prefix)
      · rw [absorb_of_not_conveys hmatters, List.append_nil]
        exact ⟨hnodup, hbeyond⟩

theorem exists_sent_of_relisted {intake : Intake} {between later : List Reply} {reply : Reply}
    {listing : Listing} {next : Nat} {build : Build}
    (hremembered : ∀ known ∈ intake.delivered, intake.cursor < known)
    (hpassed : build.id ≤ intake.cursor) (hconveys : Conveys reply listing next)
    (hlisted : build ∈ listing.builds) (hfinished : build.status.isFinished = true) :
    ∃ sent ∈ (absorbAll intake (between ++ reply :: later)).2, sent.id = build.id := by
  rw [absorbAll_append, absorbAll_cons]
  by_cases hknown : build.id ∈ (absorbAll intake between).1.delivered
  · rcases remembered_of_absorbAll hknown with hbefore | ⟨sent, hsent, hid⟩
    · exact absurd hpassed (Nat.not_le.mpr (hremembered _ hbefore))
    · exact ⟨sent, List.mem_append_left _ hsent, hid⟩
  · rw [absorb_of_conveys hconveys]
    obtain ⟨sent, hsent, hid⟩ := exists_mem_take hconveys.leads hlisted hfinished hknown
    exact ⟨sent, List.mem_append_right _ (List.mem_append_left _ hsent), hid⟩

/-- What is listed again is delivered again, unless the feed began beyond it. -/
theorem not_nodup_of_relists {limit : Nat} {start : Bookmark} {builds : List Build}
    {replies : List Reply} (hrun : Polled (paging limit) start builds replies)
    (hrelists : Relists start replies)
    (hbeyond : ∀ sent ∈ sentBy start replies, start.position < sent.id) :
    ¬ ((sentBy start replies).map Build.id).Nodup := by
  obtain ⟨earlier, reply, later, hsplit, listing, next, hconveys, build, hlisted, hfinished, past,
    ⟨between, rfl⟩, hpassed⟩ := hrelists
  have hreply : reply ∈ replies := by
    rw [hsplit]
    simp
  obtain ⟨present, hpresent, hid⟩ := exists_build_of_listed hrun hreply hconveys hlisted
  rw [List.append_assoc] at hsplit
  have hsent : sentBy start replies = sentBy start past ++
      (absorbAll (intakeAfter start past) (between ++ reply :: later)).2 := by
    rw [sentBy, hsplit, absorbAll_append]
    rfl
  have hkept : ∀ known ∈ (intakeAfter start past).delivered,
      (intakeAfter start past).cursor < known :=
    fun _ hknown => cursorAfter_lt_of_remembered hknown
  obtain ⟨again, hagain, hagainId⟩ :
      ∃ sent ∈ (absorbAll (intakeAfter start past) (between ++ reply :: later)).2,
        sent.id = build.id :=
    exists_sent_of_relisted hkept hpassed hconveys hlisted hfinished
  have hnew : start.position < build.id := by
    rw [← hagainId]
    exact hbeyond again (hsent ▸ List.mem_append_right _ hagain)
  rw [← hid] at hnew hpassed
  obtain ⟨first, hfirst, hfirstId⟩ :=
    exists_sent_of_passed (covering_of_paging hrun) ⟨_, hsplit.symm⟩ hpresent hnew hpassed
  rw [hsent, List.map_append]
  intro hnodup
  refine List.disjoint_of_nodup_append hnodup (List.mem_map_of_mem hfirst) ?_
  rw [hfirstId, hid, ← hagainId]
  exact List.mem_map_of_mem hagain

/-! ### How it comes that a build is listed again -/

/-- A listing holds several running builds, and more of them than there are numbers between the cursor
that was asked from and one of them. -/
def Crowds (start : Bookmark) (replies : List Reply) : Prop :=
  ∃ earlier reply later, replies = earlier ++ reply :: later ∧
    ∃ listing next, Conveys reply listing next ∧
      2 ≤ listing.builds.countP (·.status.isRunning) ∧
        ∃ build ∈ listing.builds, build.status.isRunning = true ∧
          build.id < cursorAfter start earlier + listing.builds.countP (·.status.isRunning)

theorem crowds_mono {start : Bookmark} {past replies : List Reply} (hpast : past <+: replies)
    (hcrowds : Crowds start past) : Crowds start replies := by
  obtain ⟨rest, rfl⟩ := hpast
  obtain ⟨earlier, reply, later, rfl, hlisted⟩ := hcrowds
  exact ⟨earlier, reply, later ++ rest, by simp, hlisted⟩

/-- A page without a crowd does not move the cursor back. -/
theorem cursorAfter_le_of_answer {first limit : Nat} {builds : List Build} {replies : List Reply}
    {reply : Reply} (hrun : Polled (paging limit) ⟨first, limit⟩ builds replies)
    (hanswer : (paging limit).answers builds (cursorAfter ⟨first, limit⟩ replies) reply)
    (hcrowds : ¬ Crowds ⟨first, limit⟩ (replies ++ [reply])) :
    cursorAfter ⟨first, limit⟩ replies ≤ cursorAfter ⟨first, limit⟩ (replies ++ [reply]) := by
  rw [cursorAfter, cursorAfter, intakeAfter_concat]
  by_cases hmatters : ∃ listing next, Conveys reply listing next
  · obtain ⟨listing, next, hconveys⟩ := hmatters
    rw [absorb_of_conveys hconveys]
    obtain ⟨hperm, hnext⟩ := hanswer listing next hconveys
    have hroom : ∀ build ∈ listing.builds, build.status.isRunning = true →
        cursorAfter ⟨first, limit⟩ replies + listing.builds.countP (·.status.isRunning) ≤
          build.id := by
      intro build hbuild hrunning
      have hnew := (of_mem_pageAfter (hperm.mem_iff.mp hbuild)).2
      by_contra hcrowd
      refine hcrowds ⟨replies, reply, [], rfl, listing, next, hconveys, ?_, build, hbuild, hrunning,
        Nat.not_le.mp hcrowd⟩
      omega
    -- The position that the page leads to is moved back once for each build that runs.
    refine le_cursor_take hconveys.leads ?_ hroom
    have hcount : listing.builds.countP (·.status.isRunning) ≤ limit :=
      List.countP_le_length.trans (hperm.length_eq ▸ length_pageAfter_le _ _ _)
    have hreach : cursorAfter ⟨first, limit⟩ replies +
        listing.builds.countP (·.status.isRunning) ≤ next := by
      rcases Nat.eq_zero_or_pos (listing.builds.countP (·.status.isRunning)) with hnone | hsome
      · obtain ⟨last, hlast, hid⟩ := Option.map_eq_some_iff.mp hnext
        rw [hnone, ← hid]
        exact Nat.le_of_lt (of_mem_pageAfter (List.mem_of_getLast? hlast)).2
      · obtain ⟨build, hbuild, hrunning⟩ := List.countP_pos_iff.mp hsome
        exact (hroom build hbuild hrunning).trans
          (le_next_of_mem_pageAfter hrun.ids_pairwise hnext (hperm.mem_iff.mp hbuild))
    rw [Bookmark.moveTowards, stride_intakeAfter]
    split
    · exact Nat.add_le_add_left hcount _
    · exact hreach
  · rw [absorb_of_not_conveys hmatters]

theorem cursorAfter_mono_of_not_crowds {first limit : Nat} {builds : List Build}
    {past replies : List Reply} (hrun : Polled (paging limit) ⟨first, limit⟩ builds replies)
    (hpast : past <+: replies) (hcrowds : ¬ Crowds ⟨first, limit⟩ replies) :
    cursorAfter ⟨first, limit⟩ past ≤ cursorAfter ⟨first, limit⟩ replies := by
  induction hrun with
  | begun _ => rw [List.prefix_nil.mp hpast]
  | created _ _ _ ih => exact ih hpast hcrowds
  | changed _ _ _ ih => exact ih hpast hcrowds
  | answered hbefore hanswer ih =>
      rcases List.prefix_concat_iff.mp hpast with rfl | hearlier
      · exact le_refl _
      · have hfew := fun hcrowd => hcrowds (crowds_mono (List.prefix_append _ _) hcrowd)
        exact (ih hearlier hfew).trans (cursorAfter_le_of_answer hbefore hanswer hcrowds)

theorem crowds_of_relists {first limit : Nat} {builds : List Build} {replies : List Reply}
    (hrun : Polled (paging limit) ⟨first, limit⟩ builds replies)
    (hrelists : Relists ⟨first, limit⟩ replies) : Crowds ⟨first, limit⟩ replies := by
  obtain ⟨earlier, reply, later, hsplit, listing, next, hconveys, build, hlisted, _, past, hpast,
    hpassed⟩ := hrelists
  by_contra hcrowds
  obtain ⟨present, hearlier, hanswer⟩ := hrun.exists_answers hsplit
  have hprefix : earlier <+: replies := ⟨reply :: later, hsplit.symm⟩
  have hmono := cursorAfter_mono_of_not_crowds hearlier hpast
    fun hcrowd => hcrowds (crowds_mono hprefix hcrowd)
  have hpage := (hanswer listing next hconveys).1.mem_iff.mp hlisted
  have hnew := (of_mem_pageAfter hpage).2
  omega

/-- Against a server that lists page by page, the feed delivers each build at most once and none that
it began beyond, exactly if no finished build is listed again where the cursor has already been. That
takes a listing with several running builds, more than there is room for between the cursor and one of
them. -/
theorem delivered_once_iff_not_relists {first limit : Nat} {builds : List Build}
    {replies : List Reply} (hrun : Polled (paging limit) ⟨first, limit⟩ builds replies) :
    ((((sentBy ⟨first, limit⟩ replies).map Build.id).Nodup ∧
        ∀ sent ∈ sentBy ⟨first, limit⟩ replies, first < sent.id) ↔
      ¬ Relists ⟨first, limit⟩ replies) ∧
    (Relists ⟨first, limit⟩ replies → Crowds ⟨first, limit⟩ replies) := by
  refine ⟨⟨?_, delivered_once_of_not_relists⟩, crowds_of_relists hrun⟩
  rintro ⟨hnodup, hbeyond⟩ hrelists
  exact not_nodup_of_relists hrun hrelists hbeyond hnodup

/-- Two builds that run at once move the cursor back behind one that has been delivered. -/
def crowdedReplies : List Reply :=
  [.ok ⟨[unitBuild 101 .succeeded], some 101⟩,
    .ok ⟨[unitBuild 102 .started, unitBuild 103 .started], some 103⟩,
    .ok ⟨[unitBuild 101 .succeeded, unitBuild 102 .succeeded, unitBuild 103 .succeeded], some 103⟩]

def crowdedBuilds : List Build :=
  [unitBuild 101 .succeeded] ++ [unitBuild 102 .succeeded] ++ [unitBuild 103 .succeeded]

theorem polled_crowdedReplies : Polled (paging 100) ⟨100, 100⟩ crowdedBuilds crowdedReplies := by
  have hbegun : Polled (paging 100) ⟨100, 100⟩ [unitBuild 101 .succeeded] [] := .begun (by decide)
  have hfirst : Polled (paging 100) ⟨100, 100⟩ [unitBuild 101 .succeeded]
      (crowdedReplies.take 1) :=
    hbegun.answered (answers_page (by decide) (by decide))
  have hcreated : Polled (paging 100) ⟨100, 100⟩
      ([unitBuild 101 .succeeded] ++ [unitBuild 102 .started] ++ [unitBuild 103 .started])
      (crowdedReplies.take 1) :=
    (hfirst.created (by decide) trivial).created (by decide) trivial
  have hcursor : cursorAfter ⟨100, 100⟩ (crowdedReplies.take 1) = 101 := by cbv
  have hrunning : Polled (paging 100) ⟨100, 100⟩
      ([unitBuild 101 .succeeded] ++ unitBuild 102 .started :: [unitBuild 103 .started])
      (crowdedReplies.take 2) := by
    refine hcreated.answered ?_
    rw [hcursor]
    exact answers_page (by decide) (by decide)
  have hended : Polled (paging 100) ⟨100, 100⟩
      ([unitBuild 101 .succeeded, unitBuild 102 .succeeded] ++ unitBuild 103 .started :: [])
      (crowdedReplies.take 2) :=
    hrunning.changed rfl (by decide)
  have hall : Polled (paging 100) ⟨100, 100⟩
      ([unitBuild 101 .succeeded, unitBuild 102 .succeeded] ++ unitBuild 103 .succeeded :: [])
      (crowdedReplies.take 2) :=
    hended.changed rfl (by decide)
  have hback : cursorAfter ⟨100, 100⟩ (crowdedReplies.take 2) = 100 := by cbv
  refine hall.answered ?_
  rw [hback]
  exact answers_page (by decide) (by decide)

/-- Build 101 is delivered by the first listing and by the third. -/
theorem build_delivered_twice :
    Polled (paging 100) ⟨100, 100⟩ crowdedBuilds crowdedReplies ∧
      (sentBy ⟨100, 100⟩ crowdedReplies).map Build.id = [101, 101, 102, 103] ∧
      ¬ ((sentBy ⟨100, 100⟩ crowdedReplies).map Build.id).Nodup := by
  have hsent : (sentBy ⟨100, 100⟩ crowdedReplies).map Build.id = [101, 101, 102, 103] := by cbv
  refine ⟨polled_crowdedReplies, hsent, ?_⟩
  rw [hsent]
  decide

theorem crowdedReplies_relists :
    Polled (paging 100) ⟨100, 100⟩ crowdedBuilds crowdedReplies ∧
      Relists ⟨100, 100⟩ crowdedReplies ∧ Crowds ⟨100, 100⟩ crowdedReplies := by
  obtain ⟨hiff, hcrowd⟩ := delivered_once_iff_not_relists polled_crowdedReplies
  have hrelists : Relists ⟨100, 100⟩ crowdedReplies := by
    by_contra hnot
    have hnodup := (hiff.mpr hnot).1
    have hsent : (sentBy ⟨100, 100⟩ crowdedReplies).map Build.id = [101, 101, 102, 103] := by cbv
    rw [hsent] at hnodup
    exact absurd hnodup (by decide)
  exact ⟨polled_crowdedReplies, hrelists, hcrowd hrelists⟩

end BuildHerald.Proofs.RepeatedDelivery
