import BuildHerald.Proofs.JobStatuses
import BuildHerald.Proofs.RepeatedDelivery

/-!
In which order the feed delivers builds for the first time.

Within one answer numbers ascend. From one answer to the next a build falls behind exactly those later
ones that an answer delivered while it listed the build as still running.
-/

namespace BuildHerald.Proofs.DeliveryOrder

open BuildHerald.Feed
open BuildHerald.Proofs.IntakeSteps
open BuildHerald.Proofs.FeedHistory
open BuildHerald.Proofs.FeedCoverage
open BuildHerald.Proofs.RepeatedDelivery
open BuildHerald.Proofs.JobStatuses

/-! ### First deliveries -/

/-- Leaves out each build whose number has come before. -/
def firstOfEach : List Build → List Build
  | [] => []
  | build :: rest => build :: (firstOfEach rest).filter (·.id ≠ build.id)

/-- The builds beyond the place where the feed began, as they are delivered for the first time. -/
def debuts (start : Bookmark) (replies : List Reply) : List Build :=
  firstOfEach ((sentBy start replies).filter (start.position < ·.id))

/-- The first deliveries of the builds of a job. -/
def debutsOf (job : Job) (start : Bookmark) (replies : List Reply) : List Build :=
  (debuts start replies).filter (·.job? = some job)

theorem firstOfEach_append (builds others : List Build) :
    firstOfEach (builds ++ others) = firstOfEach builds ++
      (firstOfEach others).filter fun other => ∀ build ∈ builds, other.id ≠ build.id := by
  induction builds with
  | nil => simp [firstOfEach]
  | cons first rest ih =>
      rw [List.cons_append, firstOfEach, firstOfEach, ih, List.filter_append, List.filter_filter,
        List.cons_append]
      simp only [List.forall_mem_cons, Bool.decide_and]

theorem firstOfEach_eq_of_nodup {builds : List Build} (hnodup : (builds.map Build.id).Nodup) :
    firstOfEach builds = builds := by
  induction builds with
  | nil => rfl
  | cons first rest ih =>
      rw [List.map_cons, List.nodup_cons] at hnodup
      rw [firstOfEach, ih hnodup.2, List.filter_eq_self.mpr]
      intro build hbuild
      simp only [decide_eq_true_eq]
      exact fun hid => hnodup.1 (hid ▸ List.mem_map_of_mem hbuild)

theorem mem_of_mem_firstOfEach {builds : List Build} {build : Build}
    (hmem : build ∈ firstOfEach builds) : build ∈ builds := by
  induction builds with
  | nil => exact hmem
  | cons first rest ih =>
      rw [firstOfEach] at hmem
      rcases List.mem_cons.mp hmem with rfl | hrest
      · exact List.mem_cons_self
      · exact List.mem_cons_of_mem _ (ih (List.mem_filter.mp hrest).1)

theorem of_mem_debuts {start : Bookmark} {replies : List Reply} {build : Build}
    (hmem : build ∈ debuts start replies) :
    build ∈ sentBy start replies ∧ start.position < build.id := by
  simpa using mem_of_mem_firstOfEach hmem

/-- An answer adds builds that it delivers and that had not been delivered. -/
theorem exists_debuts_concat (start : Bookmark) (replies : List Reply) (reply : Reply) :
    ∃ fresh, debuts start (replies ++ [reply]) = debuts start replies ++ fresh ∧
      fresh.Sublist (absorb (intakeAfter start replies) reply).2 ∧
        ∀ build ∈ fresh, ∀ sent ∈ sentBy start replies, sent.id ≠ build.id := by
  have hnodup : (((absorb (intakeAfter start replies) reply).2.filter
      (start.position < ·.id)).map Build.id).Nodup :=
    ((ascending_absorb _ _).imp Nat.ne_of_lt).sublist (List.filter_sublist.map _)
  have hsplit := firstOfEach_append ((sentBy start replies).filter (start.position < ·.id))
    ((absorb (intakeAfter start replies) reply).2.filter (start.position < ·.id))
  rw [firstOfEach_eq_of_nodup hnodup, ← List.filter_append, ← sentBy_concat] at hsplit
  refine ⟨_, hsplit, List.filter_sublist.trans List.filter_sublist, ?_⟩
  intro build hbuild sent hsent hid
  obtain ⟨hnow, hnew⟩ := List.mem_filter.mp hbuild
  have hbeyond : start.position < build.id := by simpa using (List.mem_filter.mp hnow).2
  have hfiltered : sent ∈ (sentBy start replies).filter (start.position < ·.id) :=
    List.mem_filter.mpr ⟨hsent, decide_eq_true (hid ▸ hbeyond)⟩
  exact of_decide_eq_true hnew sent hfiltered hid.symm

/-! ### What comes first -/

/-- An answer delivers the first of two builds, when the second one has not been delivered, and does
not deliver the second one with a lower number. -/
def Precedes (start : Bookmark) (replies : List Reply) (first second : Build) : Prop :=
  ∃ earlier reply later, replies = earlier ++ reply :: later ∧
    first ∈ (absorb (intakeAfter start earlier) reply).2 ∧
    (∀ sent ∈ sentBy start earlier, sent.id ≠ second.id) ∧
    (first.id < second.id ∨
      ∀ sent ∈ (absorb (intakeAfter start earlier) reply).2, sent.id ≠ second.id)

theorem precedes_mono {start : Bookmark} {past replies : List Reply} {first second : Build}
    (hpast : past <+: replies) (hprecedes : Precedes start past first second) :
    Precedes start replies first second := by
  obtain ⟨rest, rfl⟩ := hpast
  obtain ⟨earlier, reply, later, rfl, hfirst⟩ := hprecedes
  exact ⟨earlier, reply, later ++ rest, by simp, hfirst⟩

theorem precedes_of_absorb {start : Bookmark} {replies : List Reply} {reply : Reply}
    {first second : Build} (hfirst : first ∈ (absorb (intakeAfter start replies) reply).2)
    (hunsent : ∀ sent ∈ sentBy start replies, sent.id ≠ second.id) (hlt : first.id < second.id) :
    Precedes start (replies ++ [reply]) first second :=
  ⟨replies, reply, [], rfl, hfirst, hunsent, .inl hlt⟩

theorem precedes_of_sent {start : Bookmark} {replies : List Reply} {first second : Build}
    (hfirst : first ∈ sentBy start replies)
    (hunsent : ∀ sent ∈ sentBy start replies, sent.id ≠ second.id) :
    Precedes start replies first second := by
  obtain ⟨earlier, reply, later, rfl, hmem⟩ := exists_answer_of_sent hfirst
  have hpast : earlier ++ [reply] <+: earlier ++ reply :: later := ⟨later, by simp⟩
  have hnow : ∀ sent ∈ sentBy start (earlier ++ [reply]), sent.id ≠ second.id :=
    fun sent hsent => hunsent sent ((sentBy_mono hpast).subset hsent)
  rw [sentBy_concat] at hnow
  exact ⟨earlier, reply, later, rfl, hmem,
    fun sent hsent => hnow sent (List.mem_append_left _ hsent),
    .inr fun sent hsent => hnow sent (List.mem_append_right _ hsent)⟩

theorem pairwise_precedes (start : Bookmark) (replies : List Reply) :
    (debuts start replies).Pairwise (Precedes start replies) := by
  induction replies using List.reverseRecOn with
  | nil => exact List.Pairwise.nil
  | append_singleton replies reply ih =>
      obtain ⟨fresh, hdebuts, hsub, hunsent⟩ := exists_debuts_concat start replies reply
      rw [hdebuts, List.pairwise_append]
      refine ⟨ih.imp (precedes_mono (List.prefix_append _ _)), ?_, ?_⟩
      · have hascending := (List.pairwise_map.mp (ascending_absorb _ reply)).sublist hsub
        refine hascending.imp_of_mem ?_
        intro first second hfirst hsecond hlt
        exact precedes_of_absorb (hsub.subset hfirst) (hunsent second hsecond) hlt
      · intro first hfirst second hsecond
        exact precedes_mono (List.prefix_append _ _)
          (precedes_of_sent (of_mem_debuts hfirst).1 (hunsent second hsecond))

/-! ### Builds that are overtaken -/

/-- An answer delivers one build and lists another one, of a lower number, as still running. -/
def Overtakes (start : Bookmark) (replies : List Reply) (early late : Build) : Prop :=
  late.id < early.id ∧ ∃ earlier reply later, replies = earlier ++ reply :: later ∧
    early ∈ (absorb (intakeAfter start earlier) reply).2 ∧
    ∃ listing next, Conveys reply listing next ∧
      ∃ listed ∈ listing.builds, listed.id = late.id ∧ listed.status.isRunning = true

variable {limit : Nat} {start : Bookmark} {builds : List Build} {replies : List Reply}

/-- A build that is listed as running has not been delivered by then. -/
theorem unsent_of_running {earlier later : List Reply} {reply : Reply} {listing : Listing}
    {next : Nat} {listed : Build} (hrun : Polled (paging limit) start builds replies)
    (hsplit : replies = earlier ++ reply :: later) (hconveys : Conveys reply listing next)
    (hlisted : listed ∈ listing.builds) (hrunning : listed.status.isRunning = true) :
    ∀ sent ∈ sentBy start (earlier ++ [reply]), sent.id ≠ listed.id := by
  intro sent hsent hid
  obtain ⟨present, hearlier, hanswer⟩ := hrun.exists_answers hsplit
  have hpresent : listed ∈ present :=
    (of_mem_pageAfter ((hanswer listing next hconveys).1.mem_iff.mp hlisted)).1
  have hanswered := hearlier.answered hanswer
  obtain ⟨build, hbuild, hsame, hstatus⟩ :=
    exists_build_of_sent (candid_of_paging hanswered) hsent
  have hequal := hearlier.eq_of_id_eq hbuild hpresent (hsame.trans hid)
  have hfinished := finished_of_mem_absorbAll hsent
  rw [← hstatus, hequal, ← isRunning_eq_false_iff, hrunning] at hfinished
  cases hfinished

theorem mem_present_of_lt {ids present : List Nat} {low high : Nat}
    (hids : ids.Pairwise (· < ·)) (hstarts : present <+: ids) (hhigh : high ∈ present)
    (hlow : low ∈ ids) (hlt : low < high) : low ∈ present := by
  obtain ⟨rest, rfl⟩ := hstarts
  rcases List.mem_append.mp hlow with hpresent | hrest
  · exact hpresent
  · have hafter := (List.pairwise_append.mp hids).2.2 high hhigh low hrest
    exact absurd hlt (Nat.not_lt.mpr (Nat.le_of_lt hafter))

/-- When a build of a higher number is delivered first, the other one was there, was not behind the
cursor, and was not finished. -/
theorem listed_running_of_unsent {earlier later : List Reply} {reply : Reply} {early late : Build}
    (hrun : Polled (paging limit) start builds replies)
    (hsplit : replies = earlier ++ reply :: later)
    (hearly : early ∈ (absorb (intakeAfter start earlier) reply).2)
    (hlate : ∃ build ∈ builds, build.id = late.id) (hbeyond : start.position < late.id)
    (hlt : late.id < early.id)
    (hunsent : ∀ sent ∈ sentBy start (earlier ++ [reply]), sent.id ≠ late.id) :
    Overtakes start replies early late := by
  refine ⟨hlt, earlier, reply, later, hsplit, hearly, ?_⟩
  obtain ⟨present, hearlier, hanswer, hstarts⟩ := hrun.exists_present hsplit
  obtain ⟨listing, next, hconveys, hearlyListed⟩ := exists_conveys_of_mem_absorb hearly
  obtain ⟨hperm, hnext⟩ := hanswer listing next hconveys
  have hearlyPage := hperm.mem_iff.mp hearlyListed
  -- Numbers grow with creation, so that the build of the lower number was there already.
  obtain ⟨listed, hpresent, hid⟩ : ∃ listed ∈ present, listed.id = late.id := by
    refine List.mem_map.mp (mem_present_of_lt hrun.ids_pairwise hstarts ?_ ?_ hlt)
    · exact List.mem_map_of_mem (of_mem_pageAfter hearlyPage).1
    · exact List.mem_map.mpr hlate
  have hnew : cursorAfter start earlier < listed.id := by
    by_contra hpassed
    obtain ⟨sent, hsent, hsame⟩ := exists_sent_of_passed (covering_of_paging hearlier)
      (List.prefix_refl _) hpresent (hid ▸ hbeyond) (Nat.not_lt.mp hpassed)
    exact hunsent sent ((sentBy_mono (List.prefix_append _ _)).subset hsent) (hsame.trans hid)
  have hle : listed.id ≤ next := by
    have hbefore := le_next_of_mem_pageAfter hearlier.ids_pairwise hnext hearlyPage
    omega
  have hlisted : listed ∈ listing.builds :=
    hperm.mem_iff.mpr (mem_pageAfter_of_le hearlier.ids_pairwise hnext hpresent hnew hle)
  refine ⟨listing, next, hconveys, listed, hlisted, hid, ?_⟩
  by_contra hstopped
  have hfinished : listed.status.isFinished = true := by
    simpa [Status.isFinished] using hstopped
  obtain ⟨sent, hsent, hsame⟩ := exists_sent_of_listed hconveys hlisted hfinished
  exact hunsent sent hsent (hsame.trans hid)

theorem overtakes_of_precedes {first second : Build}
    (hrun : Polled (paging limit) start builds replies) (hsecond : second ∈ debuts start replies)
    (hprecedes : Precedes start replies first second) :
    first.id < second.id ∨ Overtakes start replies first second := by
  obtain ⟨hsent, hbeyond⟩ := of_mem_debuts hsecond
  obtain ⟨build, hbuild, hid, _⟩ := exists_build_of_sent (candid_of_paging hrun) hsent
  obtain ⟨earlier, reply, later, hsplit, hfirst, hbefore, hlt | hnow⟩ := hprecedes
  · exact .inl hlt
  · rcases Nat.lt_or_ge first.id second.id with hlt | hge
    · exact .inl hlt
    · have hlt : second.id < first.id := Nat.lt_of_le_of_ne hge (hnow first hfirst).symm
      refine .inr (listed_running_of_unsent hrun hsplit hfirst ⟨build, hbuild, hid⟩ hbeyond hlt ?_)
      rw [sentBy_concat]
      intro sent hmem
      rcases List.mem_append.mp hmem with hearlier | hanswer
      · exact hbefore sent hearlier
      · exact hnow sent hanswer

theorem not_overtakes_of_precedes {first second : Build}
    (hrun : Polled (paging limit) start builds replies)
    (hprecedes : Precedes start replies first second) :
    ¬ Overtakes start replies second first := by
  rintro ⟨_, past, answer, rest, hcut, hsecond, listing, next, hconveys, listed, hlisted, hid,
    hrunning⟩
  obtain ⟨earlier, reply, later, hsplit, hfirst, hunsent, _⟩ := hprecedes
  have hwithheld := unsent_of_running hrun hcut hconveys hlisted hrunning
  have hsent : first ∈ sentBy start (earlier ++ [reply]) := by
    rw [sentBy_concat]
    exact List.mem_append_right _ hfirst
  have hsent' : second ∈ sentBy start (past ++ [answer]) := by
    rw [sentBy_concat]
    exact List.mem_append_right _ hsecond
  -- The answer that lists the first build as running comes before the one that delivers it.
  have hnotBefore : ¬ earlier ++ [reply] <+: past ++ [answer] :=
    fun hstarts => hwithheld first ((sentBy_mono hstarts).subset hsent) hid.symm
  have hreply : earlier ++ [reply] <+: replies := ⟨later, by rw [hsplit]; simp⟩
  have hanswer : past ++ [answer] <+: replies := ⟨rest, by rw [hcut]; simp⟩
  rcases List.prefix_or_prefix_of_prefix hreply hanswer with hstarts | hstarts
  · exact hnotBefore hstarts
  · rcases List.prefix_concat_iff.mp hstarts with hsame | hearlier
    · exact hnotBefore (hsame ▸ List.prefix_refl _)
    · exact hunsent second ((sentBy_mono hearlier).subset hsent') rfl

theorem debuts_eq_sentBy (hrelists : ¬ Relists start replies) :
    debuts start replies = sentBy start replies := by
  obtain ⟨hnodup, hbeyond⟩ := delivered_once_of_not_relists hrelists
  rw [debuts, List.filter_eq_self.mpr fun sent hsent => decide_eq_true (hbeyond sent hsent),
    firstOfEach_eq_of_nodup hnodup]

/-- Of any two builds of a job, the one of the lower number is delivered first, unless the answer that
delivers the other one lists it as still running. If no build of the job is overtaken in this way, the
numbers of its builds ascend over the whole run. First deliveries are all there are, as long as nothing
is listed again. -/
theorem debuts_ordered (hrun : Polled (paging limit) start builds replies) (job : Job) :
    (debutsOf job start replies).Pairwise (fun first second =>
        ¬ Overtakes start replies second first ∧
          (first.id < second.id ∨ Overtakes start replies first second)) ∧
      ((∀ early ∈ debutsOf job start replies, ∀ late ∈ debutsOf job start replies,
          ¬ Overtakes start replies early late) →
        ((debutsOf job start replies).map Build.id).Pairwise (· < ·)) ∧
      (¬ Relists start replies →
        debutsOf job start replies = (sentBy start replies).filter (·.job? = some job)) := by
  have hordered : (debutsOf job start replies).Pairwise (fun first second =>
      ¬ Overtakes start replies second first ∧
        (first.id < second.id ∨ Overtakes start replies first second)) := by
    refine List.Pairwise.filter _ ((pairwise_precedes start replies).imp_of_mem ?_)
    intro first second _ hsecond hprecedes
    exact ⟨not_overtakes_of_precedes hrun hprecedes, overtakes_of_precedes hrun hsecond hprecedes⟩
  refine ⟨hordered, fun hnone => List.pairwise_map.mpr (hordered.imp_of_mem ?_), ?_⟩
  · intro first second hfirst hsecond hpair
    exact hpair.2.resolve_right (hnone first hfirst second hsecond)
  · intro hrelists
    rw [debutsOf, debuts_eq_sentBy hrelists]

/-- A build that runs is listed with a later one of its job that has succeeded, and fails after that. -/
def overtakingReplies : List Reply :=
  [.ok ⟨[unitBuild 101 .started, unitBuild 102 .succeeded], some 102⟩,
    .ok ⟨[unitBuild 101 .failed, unitBuild 102 .succeeded], some 102⟩]

def unitJob : Job := ⟨"main", "pip", "unit"⟩

theorem polled_overtakingReplies :
    Polled (paging 100) ⟨100, 100⟩ [unitBuild 101 .failed, unitBuild 102 .succeeded]
      overtakingReplies := by
  have hbegun : Polled (paging 100) ⟨100, 100⟩
      ([] ++ unitBuild 101 .started :: [unitBuild 102 .succeeded]) [] := .begun (by decide)
  have hlisted : Polled (paging 100) ⟨100, 100⟩
      ([] ++ unitBuild 101 .started :: [unitBuild 102 .succeeded]) (overtakingReplies.take 1) :=
    hbegun.answered (answers_page (by decide) (by decide))
  have hfailed : Polled (paging 100) ⟨100, 100⟩
      ([] ++ unitBuild 101 .failed :: [unitBuild 102 .succeeded]) (overtakingReplies.take 1) :=
    hlisted.changed rfl (by decide)
  have hcursor : cursorAfter ⟨100, 100⟩ (overtakingReplies.take 1) = 100 := by cbv
  refine hfailed.answered ?_
  rw [hcursor]
  exact answers_page (by decide) (by decide)

theorem sentBy_overtakingReplies :
    sentBy ⟨100, 100⟩ overtakingReplies = [unitBuild 102 .succeeded, unitBuild 101 .failed] := by
  cbv

/-- The builds of one job are not delivered in ascending order, and what is remembered of the job last
is the failure of the older build. -/
theorem older_build_delivered_last :
    Polled (paging 100) ⟨100, 100⟩ [unitBuild 101 .failed, unitBuild 102 .succeeded]
        overtakingReplies ∧
      ¬ (((sentBy ⟨100, 100⟩ overtakingReplies).filter (·.job? = some unitJob)).map
        Build.id).Pairwise (· < ·) ∧
      ((streaksOf (sentBy ⟨100, 100⟩ overtakingReplies)).get unitJob).last = some .failed := by
  rw [sentBy_overtakingReplies]
  exact ⟨polled_overtakingReplies, by decide, by decide⟩

theorem older_build_overtaken :
    Polled (paging 100) ⟨100, 100⟩ [unitBuild 101 .failed, unitBuild 102 .succeeded]
        overtakingReplies ∧
      debutsOf unitJob ⟨100, 100⟩ overtakingReplies =
        [unitBuild 102 .succeeded, unitBuild 101 .failed] ∧
      Overtakes ⟨100, 100⟩ overtakingReplies (unitBuild 102 .succeeded) (unitBuild 101 .failed) := by
  have hdebuts : debutsOf unitJob ⟨100, 100⟩ overtakingReplies =
      [unitBuild 102 .succeeded, unitBuild 101 .failed] := by
    rw [debutsOf, debuts, sentBy_overtakingReplies]
    decide
  have hordered := (debuts_ordered polled_overtakingReplies unitJob).1
  rw [hdebuts] at hordered
  have hpair := (List.pairwise_cons.mp hordered).1 _ (List.mem_singleton_self _)
  exact ⟨polled_overtakingReplies, hdebuts, hpair.2.resolve_left (by decide)⟩

end BuildHerald.Proofs.DeliveryOrder
