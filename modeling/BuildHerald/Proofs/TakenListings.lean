import BuildHerald.Proofs.FeedCoverage

/-!
What one listing does to an intake, in terms of the listing alone: where the cursor goes, which builds
are delivered and what is remembered of them.
-/

namespace BuildHerald.Proofs.TakenListings

open BuildHerald.Feed
open BuildHerald.Proofs.IntakeSteps
open BuildHerald.Proofs.FeedCoverage

/-! ### Where the cursor goes -/

/-- The numbers of the builds that still run. -/
def runningIds (builds : List Build) : List Nat :=
  (builds.filter (·.status.isRunning)).map Build.id

/-- How far the server's cursor leads when nothing runs. -/
def reach (bookmark : Bookmark) (next : Nat) : Nat :=
  if bookmark.position + bookmark.stride < next then bookmark.position + bookmark.stride else next

/-- Where builds that run hold a position back: before the lowest of them, by as many as there are. -/
def heldBack (builds : List Build) (position : Nat) : Nat :=
  match (runningIds builds).min? with
  | none => position
  | some lowest => min lowest position - (runningIds builds).length

theorem mem_runningIds_iff (builds : List Build) (id : Nat) :
    id ∈ runningIds builds ↔ ∃ build ∈ builds, build.status.isRunning = true ∧ build.id = id := by
  simp [runningIds, and_assoc]

theorem runningIds_cons_of_running {build : Build} (rest : List Build)
    (hrunning : build.status.isRunning = true) :
    runningIds (build :: rest) = build.id :: runningIds rest := by
  simp [runningIds, hrunning]

theorem runningIds_cons_of_finished {build : Build} (rest : List Build)
    (hfinished : build.status.isFinished = true) :
    runningIds (build :: rest) = runningIds rest := by
  have hstopped := (isRunning_eq_false_iff _).mpr hfinished
  simp [runningIds, hstopped]

theorem position_moveTowards (bookmark : Bookmark) (next : Nat) :
    (bookmark.moveTowards next).position = reach bookmark next := by
  unfold Bookmark.moveTowards reach
  by_cases hfar : bookmark.position + bookmark.stride < next
  · rw [if_pos (by omega), if_pos hfar]
  · rw [if_neg (by omega), if_neg hfar]

theorem heldBack_of_perm {builds others : List Build} (hperm : others.Perm builds)
    (position : Nat) : heldBack others position = heldBack builds position := by
  have hids : (runningIds others).Perm (runningIds builds) := (hperm.filter _).map _
  have hlowest : (runningIds others).min? = (runningIds builds).min? := by
    ext lowest
    rw [List.min?_eq_some_iff, List.min?_eq_some_iff, hids.mem_iff]
    simp only [hids.mem_iff]
  rw [heldBack, heldBack, hlowest, hids.length_eq]

/-- In ascending order the first running build decides, and each one after it takes off one more. -/
theorem cursor_seeAll_of_sorted {builds : List Build} (intake : Intake)
    (hsorted : builds.Pairwise fun a b => a.id ≤ b.id) :
    (intake.seeAll builds).1.cursor = heldBack builds intake.cursor := by
  induction builds generalizing intake with
  | nil => rfl
  | cons first rest ih =>
      obtain ⟨hfirst, hrest⟩ := List.pairwise_cons.mp hsorted
      rw [seeAll_cons, ih _ hrest]
      rcases see_cases intake first with
        ⟨hrunning, hsee⟩ | ⟨hfinished, _, hsee⟩ | ⟨hfinished, _, hsee⟩
      · have hlow : ∀ id ∈ runningIds rest, first.id ≤ id := by
          intro id hid
          obtain ⟨build, hbuild, _, rfl⟩ := (mem_runningIds_iff rest id).mp hid
          exact hfirst build hbuild
        have hlowest : (runningIds (first :: rest)).min? = some first.id := by
          rw [runningIds_cons_of_running rest hrunning, List.min?_eq_some_iff]
          exact ⟨List.mem_cons_self, by simpa using hlow⟩
        rw [hsee]
        simp only [heldBack, hlowest, Intake.cursor, Bookmark.reopen]
        rw [runningIds_cons_of_running rest hrunning, List.length_cons]
        cases hothers : (runningIds rest).min? with
        | none =>
            rw [List.min?_eq_none_iff.mp hothers]
            rfl
        | some other =>
            have hother := hlow other (List.min?_eq_some_iff.mp hothers).1
            simp only
            omega
      · rw [hsee, heldBack, heldBack, runningIds_cons_of_finished rest hfinished]
      · rw [hsee, heldBack, heldBack, runningIds_cons_of_finished rest hfinished]
        rfl

theorem cursor_take_eq_heldBack {intake : Intake} {listing : Listing} {next : Nat}
    (hleads : Leads listing next) :
    (intake.take listing).1.cursor = heldBack listing.builds (reach intake.bookmark next) := by
  rw [take_of_leads hleads]
  refine (cursor_seeAll_of_sorted _ (pairwise_mergeSort_id _)).trans ?_
  rw [heldBack_of_perm (List.mergeSort_perm _ _), Intake.cursor, position_moveTowards]

/-- A listing moves the cursor to where the server's cursor leads, no more than one stride ahead, or
else back behind the lowest running build, by as many as run. The sum fits in a word if the server's
cursor does, the cursor stays within that one, and every running build will be listed again. -/
theorem cursor_after_listing {intake : Intake} {listing : Listing} {next : Nat}
    (hleads : Leads listing next) :
    (intake.take listing).1.cursor = heldBack listing.builds (reach intake.bookmark next) ∧
      (next < UInt64.size → intake.bookmark.stride < next - intake.cursor →
        (intake.bookmark.moveTowards next).position = intake.cursor + intake.bookmark.stride ∧
          intake.cursor + intake.bookmark.stride < UInt64.size) ∧
      (intake.take listing).1.cursor ≤ next ∧
      (∀ build ∈ listing.builds, build.status.isRunning = true → 1 ≤ build.id →
        (intake.take listing).1.cursor < build.id) ∧
      ∀ builds, builds.Perm listing.builds →
        (intake.take ⟨builds, some next⟩).1.cursor = (intake.take listing).1.cursor := by
  have hcursor : (intake.take listing).1.cursor = _ := cursor_take_eq_heldBack hleads
  refine ⟨hcursor, ?_, cursor_take_le hleads, ?_, ?_⟩
  · intro hword hfar
    rw [position_moveTowards, reach]
    unfold Intake.cursor at hfar ⊢
    rw [if_pos (by omega)]
    exact ⟨rfl, by omega⟩
  · intro build hbuild hrunning hpos
    have hbefore : (intake.take listing).1.cursor ≤ build.id - 1 :=
      cursor_take_le_of_running hleads hbuild hrunning
    omega
  · intro builds hperm
    have hsome : Leads ⟨builds, some next⟩ next :=
      ⟨rfl, fun hnone => hleads.builds_ne (List.nil_perm.mp (hnone ▸ hperm))⟩
    rw [hcursor, cursor_take_eq_heldBack hsome, heldBack_of_perm hperm]

/-- Three builds run, two of them under one number. -/
def threeRunning : Listing :=
  ⟨[unitBuild 104 .started, unitBuild 102 .succeeded, unitBuild 103 .pending, unitBuild 104 .pending],
    some 200⟩

theorem threeRunning_hold_back :
    Leads threeRunning 200 ∧ reach ⟨100, 5⟩ 200 = 105 ∧
      ((Intake.start ⟨100, 5⟩).take threeRunning).1.cursor = min 103 105 - 3 ∧
      ((Intake.start ⟨100, 5⟩).take threeRunning).1.cursor < 103 := by
  have hleads : Leads threeRunning 200 := ⟨rfl, by decide⟩
  obtain ⟨hcursor, _, _, hbelow, _⟩ := cursor_after_listing hleads
  have hpending : unitBuild 103 .pending ∈ threeRunning.builds := by decide
  exact ⟨hleads, rfl, hcursor.trans (by decide), hbelow _ hpending rfl (by decide)⟩

/-! ### What is delivered and remembered -/

/-- Sorting keeps the order among builds of one number. -/
theorem filter_mergeSort_id (builds : List Build) (id : Nat) :
    (builds.mergeSort fun a b => a.id ≤ b.id).filter (·.id == id) = builds.filter (·.id == id) := by
  have hsame : (builds.filter (·.id == id)).Pairwise fun a b => decide (a.id ≤ b.id) = true := by
    refine List.pairwise_of_forall_mem_list ?_
    intro first hfirst second hsecond
    have hfirstId : first.id = id := by simpa using (List.mem_filter.mp hfirst).2
    have hsecondId : second.id = id := by simpa using (List.mem_filter.mp hsecond).2
    rw [hfirstId, hsecondId]
    exact decide_eq_true (le_refl id)
  have hsub := (List.sublist_mergeSort id_le_trans id_le_total hsame List.filter_sublist).filter
    (·.id == id)
  rw [List.filter_filter] at hsub
  simp only [Bool.and_self] at hsub
  exact (hsub.eq_of_length ((List.mergeSort_perm _ _).filter _).length_eq.symm).symm

/-- The first finished build of a number, in the order given. -/
def firstFinished? (builds : List Build) (id : Nat) : Option Build :=
  (builds.filter (·.id == id)).find? (·.status.isFinished)

theorem firstFinished?_mergeSort (builds : List Build) (id : Nat) :
    firstFinished? (builds.mergeSort fun a b => a.id ≤ b.id) id = firstFinished? builds id := by
  rw [firstFinished?, filter_mergeSort_id, firstFinished?]

theorem firstFinished?_cons (first : Build) (rest : List Build) (id : Nat) :
    firstFinished? (first :: rest) id =
      if first.status.isFinished = true ∧ first.id = id then some first
      else firstFinished? rest id := by
  unfold firstFinished?
  by_cases hid : first.id = id
  · by_cases hfinished : first.status.isFinished = true
    · simp [hid, hfinished]
    · simp [hid, hfinished]
  · simp [hid]

theorem mem_seeAll_iff (intake : Intake) (builds : List Build) (build : Build) :
    build ∈ (intake.seeAll builds).2 ↔
      build.id ∉ intake.delivered ∧ firstFinished? builds build.id = some build := by
  induction builds generalizing intake with
  | nil => simp [Intake.seeAll, firstFinished?]
  | cons first rest ih =>
      rw [seeAll_cons, List.mem_append, mem_see_iff, ih, mem_delivered_see_iff, firstFinished?_cons]
      by_cases hfirst : first.status.isFinished = true ∧ first.id = build.id
      · rw [if_pos hfirst, Option.some.injEq]
        constructor
        · rintro (⟨rfl, _, hnew⟩ | ⟨hnew, _⟩)
          · exact ⟨hnew, rfl⟩
          · exact absurd (.inr hfirst) hnew
        · rintro ⟨hnew, rfl⟩
          exact .inl ⟨rfl, hfirst.1, hnew⟩
      · rw [if_neg hfirst]
        constructor
        · rintro (⟨rfl, hfinished, _⟩ | ⟨hnew, hfound⟩)
          · exact absurd ⟨hfinished, rfl⟩ hfirst
          · exact ⟨fun hknown => hnew (.inl hknown), hfound⟩
        · rintro ⟨hnew, hfound⟩
          refine .inr ⟨?_, hfound⟩
          rintro (hknown | hsame)
          · exact hnew hknown
          · exact hfirst hsame

theorem mem_take_iff {intake : Intake} {listing : Listing} {next : Nat}
    (hnext : listing.next = some next) (build : Build) :
    build ∈ (intake.take listing).2 ↔
      build.id ∉ intake.delivered ∧ firstFinished? listing.builds build.id = some build := by
  by_cases hempty : listing.builds = []
  · rw [take_of_not_leads fun ⟨_, hleads⟩ => hleads.builds_ne hempty, hempty]
    simp [firstFinished?]
  · rw [take_of_leads ⟨hnext, hempty⟩, mem_seeAll_iff, firstFinished?_mergeSort]

theorem mergeSort_eq_of_perm {builds others : List Build} (hperm : others.Perm builds)
    (hdistinct : (builds.map Build.id).Nodup) :
    (others.mergeSort fun a b => a.id ≤ b.id) = builds.mergeSort fun a b => a.id ≤ b.id := by
  refine List.Perm.eq_of_pairwise ?_ (pairwise_mergeSort_id others) (pairwise_mergeSort_id builds)
    ((List.mergeSort_perm _ _).trans (hperm.trans (List.mergeSort_perm _ _).symm))
  intro first second hfirst hsecond hle hge
  rw [List.mem_mergeSort] at hfirst hsecond
  exact List.inj_on_of_nodup_map hdistinct (hperm.mem_iff.mp hfirst) hsecond (le_antisymm hle hge)

theorem take_eq_of_perm {listing : Listing} {builds : List Build} (intake : Intake)
    (hperm : builds.Perm listing.builds) (hdistinct : (listing.builds.map Build.id).Nodup) :
    intake.take ⟨builds, listing.next⟩ = intake.take listing := by
  simp only [Intake.take, mergeSort_eq_of_perm hperm hdistinct, hperm.isEmpty_eq]

/-- A listing with a cursor delivers, in ascending order, the first finished build of each number that
is not remembered. Remembered are then the numbers of before and those of finished builds, as far as
the cursor has not got to them. The order of builds with distinct numbers does not matter. -/
theorem delivers_and_remembers (intake : Intake) (listing : Listing) :
    (∀ next, listing.next = some next →
      (∀ build, build ∈ (intake.take listing).2 ↔
        build.id ∉ intake.delivered ∧ firstFinished? listing.builds build.id = some build) ∧
      ((intake.take listing).2.map Build.id).Pairwise (· < ·) ∧
      (listing.builds ≠ [] ∨ (∀ known ∈ intake.delivered, intake.cursor < known) →
        ∀ id, id ∈ (intake.take listing).1.delivered ↔
          (id ∈ intake.delivered ∨
              ∃ build ∈ listing.builds, build.status.isFinished = true ∧ build.id = id) ∧
            (intake.take listing).1.cursor < id)) ∧
    (∀ builds, builds.Perm listing.builds → (listing.builds.map Build.id).Nodup →
      intake.take ⟨builds, listing.next⟩ = intake.take listing) ∧
    (listing.next = none ∨ listing.builds = [] → intake.take listing = (intake, [])) := by
  have hidle : listing.next = none ∨ listing.builds = [] → intake.take listing = (intake, []) := by
    intro hnothing
    apply take_of_not_leads
    rintro ⟨next, hleads⟩
    rcases hnothing with hnone | hempty
    · rw [hleads.next_eq] at hnone
      cases hnone
    · exact hleads.builds_ne hempty
  refine ⟨?_, fun builds hperm hdistinct => take_eq_of_perm intake hperm hdistinct, hidle⟩
  intro next hnext
  refine ⟨mem_take_iff hnext, ascending_take intake listing, ?_⟩
  intro hbeyond id
  by_cases hempty : listing.builds = []
  · have hknown := hbeyond.resolve_left (not_not_intro hempty)
    rw [hidle (.inr hempty), hempty]
    simpa using hknown id
  · exact mem_delivered_take_iff ⟨hnext, hempty⟩ id

/-- Two builds finished under one number, one finished that is remembered, and one that runs. -/
def mixedListing : Listing :=
  ⟨[unitBuild 104 .failed, unitBuild 103 .succeeded, unitBuild 102 .started,
    unitBuild 104 .succeeded, unitBuild 101 .aborted], some 104⟩

def knowing103 : Intake :=
  ⟨⟨100, 100⟩, [103]⟩

theorem mixedListing_taken :
    unitBuild 104 .failed ∈ (knowing103.take mixedListing).2 ∧
      unitBuild 104 .succeeded ∉ (knowing103.take mixedListing).2 ∧
      unitBuild 103 .succeeded ∉ (knowing103.take mixedListing).2 ∧
      103 ∈ (knowing103.take mixedListing).1.delivered ∧
      101 ∉ (knowing103.take mixedListing).1.delivered ∧
      knowing103.take ⟨[unitBuild 102 .started, unitBuild 101 .aborted], some 102⟩ =
        knowing103.take ⟨[unitBuild 101 .aborted, unitBuild 102 .started], some 102⟩ ∧
      knowing103.take ⟨mixedListing.builds, none⟩ = (knowing103, []) := by
  obtain ⟨hsent, _, hkept⟩ := (delivers_and_remembers knowing103 mixedListing).1 104 rfl
  have hswapped := (delivers_and_remembers knowing103
    ⟨[unitBuild 101 .aborted, unitBuild 102 .started], some 102⟩).2.1 _ (.swap _ _ []) (by decide)
  have hidle := (delivers_and_remembers knowing103 ⟨mixedListing.builds, none⟩).2.2 (.inl rfl)
  have hcursor : (knowing103.take mixedListing).1.cursor = 101 := by cbv
  have hknown := hkept (.inl (by decide))
  rw [hcursor] at hknown
  refine ⟨(hsent _).mpr (by decide), fun hmem => absurd ((hsent _).mp hmem) (by decide),
    fun hmem => absurd ((hsent _).mp hmem) (by decide), (hknown 103).mpr (by decide), ?_, hswapped,
    hidle⟩
  exact fun hmem => absurd ((hknown 101).mp hmem).2 (by decide)

end BuildHerald.Proofs.TakenListings
