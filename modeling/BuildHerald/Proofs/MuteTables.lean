import BuildHerald.Proofs.Announcements

/-!
What a table of mutes tells after any use of it.

A check takes an entry out that is over, so what is told depends on earlier checks as well as on the
mutes. If the clock never goes back between the checks of a job, nobody can tell the table from one that
keeps every entry.
-/

namespace BuildHerald.Proofs.MuteTables

open BuildHerald.Herald
open BuildHerald.Time
open BuildHerald.Proofs.JobStatuses
open BuildHerald.Proofs.Announcements

/-! ### Operations -/

/-- What can be done with a table of mutes. -/
inductive Operation
  | mute (job : Job) (expiry : Instant)
  | check (job : Job) (now : Instant)

namespace Operation

/-- The job that is muted or asked about. -/
def job : Operation → Job
  | mute job _ => job
  | check job _ => job

/-- The table afterwards. -/
def apply (mutes : Mutes) : Operation → Mutes
  | mute job expiry => mutes.put job expiry
  | check job now => (mutes.check job now).2

end Operation

/-- The table after these operations. -/
def tableAfter (operations : List Operation) : Mutes :=
  operations.foldl Operation.apply .empty

variable {operations : List Operation} {job : Job} {expiry : Instant}

theorem tableAfter_concat (operations : List Operation) (operation : Operation) :
    tableAfter (operations ++ [operation]) = operation.apply (tableAfter operations) :=
  List.foldl_concat ..

theorem get?_apply_of_ne {operation : Operation} (mutes : Mutes) (hother : operation.job ≠ job) :
    (operation.apply mutes).get? job = mutes.get? job := by
  cases operation with
  | mute => exact (get?_put _ _ _ _).trans (if_neg hother)
  | check => exact (get?_snd_check _ _ _ _).trans (if_neg hother)

/-! ### What stands -/

/-- The last mute of the job was until this instant, and no check of the job since then came when it was
over. -/
def Stands (operations : List Operation) (job : Job) (expiry : Instant) : Prop :=
  ∃ before later, operations = before ++ .mute job expiry :: later ∧
    (∀ other, .mute job other ∉ later) ∧ ∀ now, .check job now ∈ later → now.nanos < expiry.nanos

theorem not_stands_nil : ¬ Stands [] job expiry := by
  rintro ⟨before, later, hsplit, -⟩
  simp at hsplit

/-- One more operation leaves a mute standing if it is neither another one of the job nor a check of the
job that comes when the mute is over. -/
theorem stands_concat_iff (operation : Operation) :
    Stands (operations ++ [operation]) job expiry ↔
      operation = .mute job expiry ∨
        Stands operations job expiry ∧ (∀ other, operation ≠ .mute job other) ∧
          ∀ now, operation = .check job now → now.nanos < expiry.nanos := by
  constructor
  · rintro ⟨before, later, hsplit, hlast, hchecks⟩
    rcases List.eq_nil_or_concat later with rfl | ⟨middle, final, rfl⟩
    · exact .inl (List.singleton_inj.mp (List.append_inj' hsplit rfl).2)
    · rw [List.concat_eq_append] at hsplit hlast hchecks
      rw [← List.cons_append, ← List.append_assoc] at hsplit
      obtain ⟨hbefore, hfinal⟩ := List.append_inj' hsplit rfl
      obtain rfl := List.singleton_inj.mp hfinal
      have hmem : operation ∈ middle ++ [operation] := List.mem_concat_self
      refine .inr ⟨⟨before, middle, hbefore, ?_, ?_⟩, ?_, ?_⟩
      · exact fun other hother => hlast other (List.mem_append_left _ hother)
      · exact fun now hnow => hchecks now (List.mem_append_left _ hnow)
      · rintro other rfl
        exact hlast other hmem
      · rintro now rfl
        exact hchecks now hmem
  · rintro (rfl | ⟨⟨before, later, rfl, hlast, hchecks⟩, hkept, hcalm⟩)
    · exact ⟨operations, [], rfl, by simp, by simp⟩
    · refine ⟨before, later ++ [operation], by simp, ?_, ?_⟩
      · intro other hother
        obtain hother | hother := List.mem_append.mp hother
        · exact hlast other hother
        · exact hkept other (List.mem_singleton.mp hother).symm
      · intro now hnow
        obtain hnow | hnow := List.mem_append.mp hnow
        · exact hchecks now hnow
        · exact hcalm now (List.mem_singleton.mp hnow).symm

theorem get?_tableAfter_iff :
    (tableAfter operations).get? job = some expiry ↔ Stands operations job expiry := by
  induction operations using List.reverseRecOn with
  | nil => exact iff_of_false (Option.some_ne_none _).symm not_stands_nil
  | append_singleton operations operation ih =>
      rw [tableAfter_concat, stands_concat_iff, ← ih]
      by_cases hjob : operation.job = job
      · subst hjob
        cases operation with
        | mute job other => simp [Operation.apply, Operation.job]
        | check job now =>
            simp [Operation.apply, Operation.job, get?_snd_check, lasting, Option.filter_eq_some_iff]
      · rw [get?_apply_of_ne _ hjob]
        have hmute : ∀ other, operation ≠ .mute job other := by
          rintro other rfl
          exact hjob rfl
        have hcheck : ∀ now, operation ≠ .check job now := by
          rintro now rfl
          exact hjob rfl
        simp [hmute, hcheck]

theorem check_tableAfter_iff {now : Instant} :
    ((tableAfter operations).check job now).1 = true ↔
      ∃ expiry, Stands operations job expiry ∧ now.nanos < expiry.nanos := by
  rw [fst_check, Option.isSome_iff_exists]
  refine exists_congr fun expiry => ?_
  rw [lasting, Option.filter_eq_some_iff, get?_tableAfter_iff, decide_eq_true_eq]

/-! ### Other jobs -/

/-- What is done with the entry of a job. -/
def onJob (job : Job) (operations : List Operation) : List Operation :=
  operations.filter fun operation => decide (operation.job = job)

theorem onJob_concat (operations : List Operation) (operation : Operation) :
    onJob job (operations ++ [operation]) =
      if operation.job = job then onJob job operations ++ [operation] else onJob job operations := by
  rw [onJob, onJob, List.filter_append, List.filter_singleton]
  by_cases hjob : operation.job = job
  · simp [hjob]
  · simp [hjob]

theorem get?_apply_congr {mutes other : Mutes} (operation : Operation)
    (hentry : mutes.get? job = other.get? job) :
    (operation.apply mutes).get? job = (operation.apply other).get? job := by
  cases operation with
  | mute => simp only [Operation.apply, get?_put, hentry]
  | check => simp only [Operation.apply, get?_snd_check, hentry]

theorem get?_tableAfter_onJob (operations : List Operation) (job : Job) :
    (tableAfter (onJob job operations)).get? job = (tableAfter operations).get? job := by
  induction operations using List.reverseRecOn with
  | nil => rfl
  | append_singleton operations operation ih =>
      rw [onJob_concat, tableAfter_concat]
      split
      · rw [tableAfter_concat]
        exact get?_apply_congr operation ih
      · next hjob => rw [ih, get?_apply_of_ne _ hjob]

theorem fst_check_congr {mutes other : Mutes} (hentry : mutes.get? job = other.get? job)
    (now : Instant) : (mutes.check job now).1 = (other.check job now).1 := by
  rw [fst_check, fst_check, hentry]

/-! ### Checks that come in order -/

/-- What is told at the checks. -/
def answersFrom (mutes : Mutes) : List Operation → List Bool
  | [] => []
  | .mute job expiry :: rest => answersFrom (mutes.put job expiry) rest
  | .check job now :: rest => (mutes.check job now).1 :: answersFrom (mutes.check job now).2 rest

/-- What is told at the checks by a table that keeps every entry until the job is muted again. -/
def answersKeptFrom (mutes : Mutes) : List Operation → List Bool
  | [] => []
  | .mute job expiry :: rest => answersKeptFrom (mutes.put job expiry) rest
  | .check job now :: rest => (mutes.check job now).1 :: answersKeptFrom mutes rest

/-- If both are checks of one job, the second is no earlier. -/
def InOrder : Operation → Operation → Prop
  | .check job now, .check other later => job = other → now.nanos ≤ later.nanos
  | _, _ => True

instance : DecidableRel InOrder
  | .check job now, .check other later =>
      inferInstanceAs (Decidable (job = other → now.nanos ≤ later.nanos))
  | .mute .., _ => isTrue trivial
  | .check .., .mute .. => isTrue trivial

theorem lasting_lasting {now later : Instant} (horder : now.nanos ≤ later.nanos)
    (entry : Option Instant) : lasting later (lasting now entry) = lasting later entry := by
  cases entry with
  | none => rfl
  | some expiry =>
      by_cases hlasts : now.nanos < expiry.nanos
      · simp [lasting, Option.filter, hlasts]
      · have hover : ¬ later.nanos < expiry.nanos := by omega
        simp [lasting, Option.filter, hlasts, hover]

-- The invariant: at every instant at which a job may still be asked about, the same entry lasts.
theorem answersFrom_eq {lazy kept : Mutes} (horder : operations.Pairwise InOrder)
    (hagree : ∀ job now, Operation.check job now ∈ operations →
      lasting now (lazy.get? job) = lasting now (kept.get? job)) :
    answersFrom lazy operations = answersKeptFrom kept operations := by
  induction operations generalizing lazy kept with
  | nil => rfl
  | cons operation rest ih =>
      obtain ⟨hfirst, hrest⟩ := List.pairwise_cons.mp horder
      have hlater (job : Job) (now : Instant) (hmem : Operation.check job now ∈ rest) :
          lasting now (lazy.get? job) = lasting now (kept.get? job) :=
        hagree job now (List.mem_cons_of_mem _ hmem)
      cases operation with
      | mute muted expiry =>
          refine ih hrest fun job now hmem => ?_
          rw [get?_put, get?_put]
          split
          · rfl
          · exact hlater job now hmem
      | check asked now =>
          have hnow := hagree asked now List.mem_cons_self
          rw [answersFrom, answersKeptFrom, fst_check, fst_check, hnow]
          refine congrArg _ (ih hrest fun job later hmem => ?_)
          rw [get?_snd_check]
          split
          · next hsame =>
              subst hsame
              rw [lasting_lasting (hfirst _ hmem rfl)]
              exact hlater asked later hmem
          · exact hlater job later hmem

/-! ### What is told -/

/-- What a table of mutes tells of a job after these operations. -/
structure Tells (operations : List Operation) (job : Job) : Prop where
  expiry_iff : ∀ expiry,
    (tableAfter operations).get? job = some expiry ↔ Stands operations job expiry
  muted_iff : ∀ now, ((tableAfter operations).check job now).1 = true ↔
    ∃ expiry, Stands operations job expiry ∧ now.nanos < expiry.nanos
  other_jobs : ∀ others, onJob job others = onJob job operations →
    (tableAfter others).get? job = (tableAfter operations).get? job ∧
      ∀ now, ((tableAfter others).check job now).1 = ((tableAfter operations).check job now).1

/-- A table of mutes tells of each job exactly the mutes that stand. As long as the checks of each job
come in order, it tells the same as one that keeps every entry. -/
theorem tells_standing_mutes (operations : List Operation) :
    (∀ job, Tells operations job) ∧
      (operations.Pairwise InOrder →
        answersFrom .empty operations = answersKeptFrom .empty operations) := by
  refine ⟨fun job => ⟨fun _ => get?_tableAfter_iff, fun _ => check_tableAfter_iff, ?_⟩, ?_⟩
  · intro others hsame
    have hentry : (tableAfter others).get? job = (tableAfter operations).get? job := by
      rw [← get?_tableAfter_onJob others, hsame, get?_tableAfter_onJob]
    exact ⟨hentry, fst_check_congr hentry⟩
  · exact fun horder => answersFrom_eq horder fun _ _ _ => rfl

/-- Three checks, one of another job, that come in order. -/
def orderedChecks : List Operation :=
  [.mute ⟨"main", "pip", "unit"⟩ ⟨10⟩, .check ⟨"main", "pip", "unit"⟩ ⟨9⟩,
    .check ⟨"main", "pip", "lint"⟩ ⟨3⟩, .check ⟨"main", "pip", "unit"⟩ ⟨10⟩]

/-- The entry is taken out by the last check, as nobody can tell. -/
theorem orderedChecks_told :
    orderedChecks.Pairwise InOrder ∧
      answersFrom .empty orderedChecks = answersKeptFrom .empty orderedChecks ∧
      answersFrom .empty orderedChecks = [true, false, false] ∧
      (tableAfter orderedChecks).get? ⟨"main", "pip", "unit"⟩ = none := by
  have horder : orderedChecks.Pairwise InOrder := by decide
  exact ⟨horder, (tells_standing_mutes orderedChecks).2 horder, by decide, by decide⟩

/-- When the clock has gone back, a job counts as not muted that the other table still knows as muted. -/
example :
    let operations : List Operation := [.mute ⟨"main", "pip", "unit"⟩ ⟨10⟩,
      .check ⟨"main", "pip", "unit"⟩ ⟨12⟩, .check ⟨"main", "pip", "unit"⟩ ⟨9⟩]
    answersFrom .empty operations = [false, false] ∧
      answersKeptFrom .empty operations = [false, true] := by
  decide

end BuildHerald.Proofs.MuteTables
