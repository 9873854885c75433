import BuildHerald.Feed.Intake
import Mathlib.Data.List.Nodup
import Mathlib.Order.Nat

namespace BuildHerald.Proofs.IntakeSteps

open BuildHerald.Feed

theorem isRunning_eq_false_iff (status : Status) :
    status.isRunning = false ↔ status.isFinished = true := by
  simp [Status.isFinished]

/-! ### One listed build -/

theorem see_of_running {intake : Intake} {build : Build} (hrunning : build.status.isRunning = true) :
    intake.see build = ({ intake with bookmark := intake.bookmark.reopen build.id }, []) := by
  simp [Intake.see, hrunning]

theorem see_of_known {intake : Intake} {build : Build} (hfinished : build.status.isFinished = true)
    (hknown : build.id ∈ intake.delivered) : intake.see build = (intake, []) := by
  have hstopped := (isRunning_eq_false_iff _).mpr hfinished
  simp [Intake.see, hstopped, hknown]

theorem see_of_new {intake : Intake} {build : Build} (hfinished : build.status.isFinished = true)
    (hnew : build.id ∉ intake.delivered) :
    intake.see build = ({ intake with delivered := build.id :: intake.delivered }, [build]) := by
  have hstopped := (isRunning_eq_false_iff _).mpr hfinished
  simp [Intake.see, hstopped, hnew]

theorem see_cases (intake : Intake) (build : Build) :
    (build.status.isRunning = true ∧
        intake.see build = ({ intake with bookmark := intake.bookmark.reopen build.id }, [])) ∨
      (build.status.isFinished = true ∧ build.id ∈ intake.delivered ∧
        intake.see build = (intake, [])) ∨
      (build.status.isFinished = true ∧ build.id ∉ intake.delivered ∧
        intake.see build = ({ intake with delivered := build.id :: intake.delivered }, [build])) := by
  by_cases hrunning : build.status.isRunning = true
  · exact .inl ⟨hrunning, see_of_running hrunning⟩
  · have hfinished : build.status.isFinished = true := by
      simpa [Status.isFinished] using hrunning
    by_cases hknown : build.id ∈ intake.delivered
    · exact .inr (.inl ⟨hfinished, hknown, see_of_known hfinished hknown⟩)
    · exact .inr (.inr ⟨hfinished, hknown, see_of_new hfinished hknown⟩)

theorem cursor_see_le (intake : Intake) (build : Build) :
    (intake.see build).1.cursor ≤ intake.cursor := by
  rcases see_cases intake build with ⟨_, hsee⟩ | ⟨_, _, hsee⟩ | ⟨_, _, hsee⟩
  · rw [hsee]
    simp only [Intake.cursor, Bookmark.reopen]
    omega
  · exact le_of_eq (by rw [hsee])
  · exact le_of_eq (by rw [hsee]; rfl)

theorem mem_delivered_see_iff (intake : Intake) (build : Build) (id : Nat) :
    id ∈ (intake.see build).1.delivered ↔
      id ∈ intake.delivered ∨ build.status.isFinished = true ∧ build.id = id := by
  rcases see_cases intake build with
    ⟨hrunning, hsee⟩ | ⟨hfinished, hknown, hsee⟩ | ⟨hfinished, _, hsee⟩
  · rw [hsee]
    simp [Status.isFinished, hrunning]
  · rw [hsee]
    constructor
    · exact Or.inl
    · rintro (hmem | ⟨_, rfl⟩)
      · exact hmem
      · exact hknown
  · rw [hsee]
    simp [hfinished, or_comm, eq_comm]

theorem mem_see_iff (intake : Intake) (listed build : Build) :
    build ∈ (intake.see listed).2 ↔
      build = listed ∧ listed.status.isFinished = true ∧ listed.id ∉ intake.delivered := by
  rcases see_cases intake listed with
    ⟨hrunning, hsee⟩ | ⟨_, hknown, hsee⟩ | ⟨hfinished, hnew, hsee⟩
  · rw [hsee]
    simp [Status.isFinished, hrunning]
  · rw [hsee]
    simp [hknown]
  · rw [hsee]
    simp [hfinished, hnew]

/-! ### Listed builds, one after the other -/

theorem seeAll_cons (intake : Intake) (build : Build) (rest : List Build) :
    intake.seeAll (build :: rest) =
      (((intake.see build).1.seeAll rest).1,
        (intake.see build).2 ++ ((intake.see build).1.seeAll rest).2) :=
  rfl

theorem cursor_seeAll_le (intake : Intake) (builds : List Build) :
    (intake.seeAll builds).1.cursor ≤ intake.cursor := by
  induction builds generalizing intake with
  | nil => exact le_refl _
  | cons build rest ih =>
      rw [seeAll_cons]
      exact (ih _).trans (cursor_see_le intake build)

/-- The bookmark ends up before every build that still runs, unless that is the one numbered zero. -/
theorem cursor_seeAll_le_of_running {builds : List Build} {build : Build} (intake : Intake)
    (hmem : build ∈ builds) (hrunning : build.status.isRunning = true) :
    (intake.seeAll builds).1.cursor ≤ build.id - 1 := by
  induction builds generalizing intake with
  | nil => cases hmem
  | cons first rest ih =>
      rw [seeAll_cons]
      rcases List.mem_cons.mp hmem with rfl | hrest
      · refine (cursor_seeAll_le _ rest).trans ?_
        rw [see_of_running hrunning]
        simp only [Intake.cursor, Bookmark.reopen]
        omega
      · exact ih _ hrest

/-- Each running build moves the bookmark back by one more than its number asks for. -/
theorem le_cursor_seeAll {intake : Intake} {builds : List Build} {position : Nat}
    (hcursor : position + builds.countP (·.status.isRunning) ≤ intake.cursor)
    (hrunning : ∀ build ∈ builds, build.status.isRunning = true →
      position + builds.countP (·.status.isRunning) ≤ build.id) :
    position ≤ (intake.seeAll builds).1.cursor := by
  induction builds generalizing intake with
  | nil => exact hcursor
  | cons first rest ih =>
      rw [seeAll_cons]
      rw [List.countP_cons] at hcursor hrunning
      apply ih
      · rcases see_cases intake first with ⟨hfirst, hsee⟩ | ⟨_, _, hsee⟩ | ⟨_, _, hsee⟩
        · have hlow := hrunning first List.mem_cons_self hfirst
          rw [if_pos hfirst] at hcursor hlow
          rw [hsee]
          simp only [Intake.cursor, Bookmark.reopen] at hcursor ⊢
          omega
        · rw [hsee]
          exact (Nat.add_le_add_left (Nat.le_add_right _ _) _).trans hcursor
        · rw [hsee]
          exact (Nat.add_le_add_left (Nat.le_add_right _ _) _).trans hcursor
      · intro build hbuild hrun
        have hlow := hrunning build (List.mem_cons_of_mem _ hbuild) hrun
        exact (Nat.add_le_add_left (Nat.le_add_right _ _) _).trans hlow

theorem stride_see (intake : Intake) (build : Build) :
    (intake.see build).1.bookmark.stride = intake.bookmark.stride := by
  rcases see_cases intake build with ⟨_, hsee⟩ | ⟨_, _, hsee⟩ | ⟨_, _, hsee⟩
  · rw [hsee]
    rfl
  · rw [hsee]
  · rw [hsee]

theorem stride_seeAll (intake : Intake) (builds : List Build) :
    (intake.seeAll builds).1.bookmark.stride = intake.bookmark.stride := by
  induction builds generalizing intake with
  | nil => rfl
  | cons first rest ih =>
      rw [seeAll_cons]
      exact (ih _).trans (stride_see intake first)

theorem mem_delivered_seeAll_iff (intake : Intake) (builds : List Build) (id : Nat) :
    id ∈ (intake.seeAll builds).1.delivered ↔
      id ∈ intake.delivered ∨
        ∃ build ∈ builds, build.status.isFinished = true ∧ build.id = id := by
  induction builds generalizing intake with
  | nil => simp [Intake.seeAll]
  | cons first rest ih =>
      rw [seeAll_cons, ih, mem_delivered_see_iff]
      simp only [List.mem_cons, exists_eq_or_imp]
      tauto

theorem of_mem_seeAll {builds : List Build} {build : Build} {intake : Intake}
    (hmem : build ∈ (intake.seeAll builds).2) :
    build ∈ builds ∧ build.status.isFinished = true ∧ build.id ∉ intake.delivered := by
  induction builds generalizing intake with
  | nil => cases hmem
  | cons first rest ih =>
      rw [seeAll_cons] at hmem
      rcases List.mem_append.mp hmem with hfirst | hrest
      · obtain ⟨rfl, hfinished, hnew⟩ := (mem_see_iff _ _ _).mp hfirst
        exact ⟨List.mem_cons_self, hfinished, hnew⟩
      · obtain ⟨hlisted, hfinished, hnew⟩ := ih hrest
        rw [mem_delivered_see_iff] at hnew
        exact ⟨List.mem_cons_of_mem _ hlisted, hfinished, fun hknown => hnew (.inl hknown)⟩

/-- A finished build is delivered, or another one of the same number before it. -/
theorem exists_mem_seeAll {builds : List Build} {build : Build} (intake : Intake)
    (hmem : build ∈ builds) (hfinished : build.status.isFinished = true)
    (hnew : build.id ∉ intake.delivered) :
    ∃ sent ∈ (intake.seeAll builds).2, sent.id = build.id := by
  induction builds generalizing intake with
  | nil => cases hmem
  | cons first rest ih =>
      rw [seeAll_cons]
      by_cases hsame : first.status.isFinished = true ∧ first.id = build.id
      · refine ⟨first, List.mem_append_left _ ?_, hsame.2⟩
        exact (mem_see_iff _ _ _).mpr ⟨rfl, hsame.1, hsame.2 ▸ hnew⟩
      · rcases List.mem_cons.mp hmem with rfl | hrest
        · exact absurd ⟨hfinished, rfl⟩ hsame
        · have hstill : build.id ∉ (intake.see first).1.delivered := by
            rw [mem_delivered_see_iff]
            rintro (hknown | hfirst)
            · exact hnew hknown
            · exact hsame hfirst
          obtain ⟨sent, hsent, hid⟩ := ih _ hrest hstill
          exact ⟨sent, List.mem_append_right _ hsent, hid⟩

theorem nodup_seeAll (intake : Intake) (builds : List Build) :
    ((intake.seeAll builds).2.map Build.id).Nodup := by
  induction builds generalizing intake with
  | nil => exact List.nodup_nil
  | cons first rest ih =>
      rw [seeAll_cons, List.map_append]
      refine List.Nodup.append ?_ (ih _) ?_
      · rcases see_cases intake first with ⟨_, hsee⟩ | ⟨_, _, hsee⟩ | ⟨_, _, hsee⟩ <;>
          simp [hsee]
      · intro id hfirst hrest
        obtain ⟨sent, hsent, rfl⟩ := List.mem_map.mp hfirst
        obtain ⟨later, hlater, hid⟩ := List.mem_map.mp hrest
        obtain ⟨rfl, hfinished, _⟩ := (mem_see_iff _ _ _).mp hsent
        refine (of_mem_seeAll hlater).2.2 ?_
        rw [mem_delivered_see_iff]
        exact .inr ⟨hfinished, hid.symm⟩

theorem seeAll_sublist (intake : Intake) (builds : List Build) :
    (intake.seeAll builds).2.Sublist builds := by
  induction builds generalizing intake with
  | nil => exact List.Sublist.slnil
  | cons first rest ih =>
      rw [seeAll_cons]
      rcases see_cases intake first with ⟨_, hsee⟩ | ⟨_, _, hsee⟩ | ⟨_, _, hsee⟩
      · rw [hsee]
        exact (ih _).cons first
      · rw [hsee]
        exact (ih _).cons first
      · rw [hsee]
        exact (ih _).cons_cons first

/-! ### A listing -/

/-- The listing has a cursor, and builds. -/
structure Leads (listing : Listing) (next : Nat) : Prop where
  next_eq : listing.next = some next
  builds_ne : listing.builds ≠ []

theorem take_of_not_leads {intake : Intake} {listing : Listing}
    (hleads : ¬ ∃ next, Leads listing next) : intake.take listing = (intake, []) := by
  unfold Intake.take
  split
  · rfl
  · rename_i next hnext
    have hempty : listing.builds = [] := by
      by_contra hne
      exact hleads ⟨next, hnext, hne⟩
    simp [hempty]

theorem take_of_leads {intake : Intake} {listing : Listing} {next : Nat}
    (hleads : Leads listing next) :
    intake.take listing =
      ((({ intake with bookmark := intake.bookmark.moveTowards next } : Intake).seeAll
          (listing.builds.mergeSort fun a b => a.id ≤ b.id)).1.prune,
        (({ intake with bookmark := intake.bookmark.moveTowards next } : Intake).seeAll
          (listing.builds.mergeSort fun a b => a.id ≤ b.id)).2) := by
  simp [Intake.take, hleads.next_eq, hleads.builds_ne]

theorem cursor_take_le {intake : Intake} {listing : Listing} {next : Nat}
    (hleads : Leads listing next) : (intake.take listing).1.cursor ≤ next := by
  rw [take_of_leads hleads]
  exact (cursor_seeAll_le _ _).trans (Bookmark.position_moveTowards_le _ _)

theorem stride_take (intake : Intake) (listing : Listing) :
    (intake.take listing).1.bookmark.stride = intake.bookmark.stride := by
  by_cases hleads : ∃ next, Leads listing next
  · obtain ⟨next, hleads⟩ := hleads
    rw [take_of_leads hleads]
    refine (stride_seeAll _ _).trans ?_
    simp only [Bookmark.moveTowards]
    split <;> rfl
  · rw [take_of_not_leads hleads]

theorem le_cursor_take {intake : Intake} {listing : Listing} {next position : Nat}
    (hleads : Leads listing next)
    (hmoved : position + listing.builds.countP (·.status.isRunning) ≤
      (intake.bookmark.moveTowards next).position)
    (hrunning : ∀ build ∈ listing.builds, build.status.isRunning = true →
      position + listing.builds.countP (·.status.isRunning) ≤ build.id) :
    position ≤ (intake.take listing).1.cursor := by
  rw [take_of_leads hleads]
  have hcount := (List.mergeSort_perm listing.builds fun a b => a.id ≤ b.id).countP_eq
    (·.status.isRunning)
  refine le_cursor_seeAll ?_ ?_
  · rw [hcount]
    exact hmoved
  · intro build hbuild
    rw [hcount]
    exact hrunning build (List.mem_mergeSort.mp hbuild)

theorem cursor_take_le_of_running {intake : Intake} {listing : Listing} {next : Nat} {build : Build}
    (hleads : Leads listing next) (hmem : build ∈ listing.builds)
    (hrunning : build.status.isRunning = true) :
    (intake.take listing).1.cursor ≤ build.id - 1 := by
  rw [take_of_leads hleads]
  exact cursor_seeAll_le_of_running _ (List.mem_mergeSort.mpr hmem) hrunning

theorem mem_delivered_take_iff {intake : Intake} {listing : Listing} {next : Nat}
    (hleads : Leads listing next) (id : Nat) :
    id ∈ (intake.take listing).1.delivered ↔
      (id ∈ intake.delivered ∨
          ∃ build ∈ listing.builds, build.status.isFinished = true ∧ build.id = id) ∧
        (intake.take listing).1.cursor < id := by
  rw [take_of_leads hleads]
  simp only [Intake.prune, List.mem_filter, mem_delivered_seeAll_iff, List.mem_mergeSort,
    decide_eq_true_eq]
  rfl

theorem of_mem_take {intake : Intake} {listing : Listing} {build : Build}
    (hmem : build ∈ (intake.take listing).2) :
    build ∈ listing.builds ∧ build.status.isFinished = true ∧ build.id ∉ intake.delivered := by
  by_cases hleads : ∃ next, Leads listing next
  · obtain ⟨next, hleads⟩ := hleads
    rw [take_of_leads hleads] at hmem
    simpa only [List.mem_mergeSort] using of_mem_seeAll hmem
  · rw [take_of_not_leads hleads] at hmem
    cases hmem

theorem exists_mem_take {intake : Intake} {listing : Listing} {next : Nat} {build : Build}
    (hleads : Leads listing next) (hmem : build ∈ listing.builds)
    (hfinished : build.status.isFinished = true) (hnew : build.id ∉ intake.delivered) :
    ∃ sent ∈ (intake.take listing).2, sent.id = build.id := by
  rw [take_of_leads hleads]
  exact exists_mem_seeAll _ (List.mem_mergeSort.mpr hmem) hfinished hnew

theorem nodup_take (intake : Intake) (listing : Listing) :
    ((intake.take listing).2.map Build.id).Nodup := by
  by_cases hleads : ∃ next, Leads listing next
  · obtain ⟨next, hleads⟩ := hleads
    rw [take_of_leads hleads]
    exact nodup_seeAll _ _
  · rw [take_of_not_leads hleads]
    exact List.nodup_nil

theorem id_le_trans (first second third : Build) :
    decide (first.id ≤ second.id) = true → decide (second.id ≤ third.id) = true →
      decide (first.id ≤ third.id) = true := by
  simpa using Nat.le_trans

theorem id_le_total (first second : Build) :
    (decide (first.id ≤ second.id) || decide (second.id ≤ first.id)) = true := by
  simpa using Nat.le_total first.id second.id

theorem pairwise_mergeSort_id (builds : List Build) :
    (builds.mergeSort fun a b => a.id ≤ b.id).Pairwise fun a b => a.id ≤ b.id :=
  (List.pairwise_mergeSort id_le_trans id_le_total builds).imp of_decide_eq_true

theorem ascending_take (intake : Intake) (listing : Listing) :
    ((intake.take listing).2.map Build.id).Pairwise (· < ·) := by
  have hnodup := List.pairwise_map.mp (nodup_take intake listing)
  by_cases hleads : ∃ next, Leads listing next
  · obtain ⟨next, hleads⟩ := hleads
    rw [take_of_leads hleads] at hnodup ⊢
    have hsorted := (pairwise_mergeSort_id listing.builds).sublist (seeAll_sublist
      ({ intake with bookmark := intake.bookmark.moveTowards next } : Intake) _)
    exact List.pairwise_map.mpr ((hsorted.and hnodup).imp fun h => Nat.lt_of_le_of_ne h.1 h.2)
  · rw [take_of_not_leads hleads]
    exact List.Pairwise.nil

/-- What is remembered lies beyond the bookmark. -/
theorem cursor_take_lt {intake : Intake} {listing : Listing} {id : Nat}
    (hbeyond : ∀ known ∈ intake.delivered, intake.cursor < known)
    (hmem : id ∈ (intake.take listing).1.delivered) : (intake.take listing).1.cursor < id := by
  by_cases hleads : ∃ next, Leads listing next
  · obtain ⟨next, hleads⟩ := hleads
    exact ((mem_delivered_take_iff hleads id).mp hmem).2
  · rw [take_of_not_leads hleads] at hmem ⊢
    exact hbeyond id hmem

end BuildHerald.Proofs.IntakeSteps
