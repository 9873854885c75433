import BuildHerald.Proofs.Recollection
import Mathlib.Data.List.Induction
import Mathlib.Order.Interval.Finset.Basic
import Mathlib.Data.Int.Interval

/-!
The bot remembers the newest of all messages that it was ever told of.

Ids grow with time, so the newest messages have the largest ids. The memory is cut back after each call
and keeps no trace of what it gives up. That loses nothing: an id that had to go has as many larger ones
above it as can be remembered, and later calls can only add to these.
-/

namespace BuildHerald.Proofs.NewestMessages

open BuildHerald.Telegram
open BuildHerald.Proofs.Recollection

/-- Messages that were about a job. -/
structure Reminder where
  ids : List Int
  job : Job

/-- What is remembered when all this has been told. -/
def memoryOf (past : List Reminder) : Recall :=
  past.foldl (fun memory reminder => memory.remember reminder.ids reminder.job) .empty

/-- All messages that were ever told of. -/
def told (past : List Reminder) : Finset Int :=
  (past.flatMap Reminder.ids).toFinset

/-- The job that a message was said to be about when it was told of for the last time. -/
def lastJob? (past : List Reminder) (id : Int) : Option Job :=
  (past.reverse.find? fun reminder => decide (id ∈ reminder.ids)).map Reminder.job

theorem memoryOf_concat (past : List Reminder) (reminder : Reminder) :
    memoryOf (past ++ [reminder]) = (memoryOf past).remember reminder.ids reminder.job := by
  unfold memoryOf
  rw [List.foldl_append, List.foldl_cons, List.foldl_nil]

theorem mem_told_iff {past : List Reminder} {id : Int} :
    id ∈ told past ↔ ∃ reminder ∈ past, id ∈ reminder.ids := by
  rw [told, List.mem_toFinset, List.mem_flatMap]

theorem mem_told_concat {past : List Reminder} {reminder : Reminder} {id : Int} :
    id ∈ told (past ++ [reminder]) ↔ id ∈ reminder.ids ∨ id ∈ told past := by
  simp only [mem_told_iff, List.mem_append, List.mem_singleton, or_and_right, exists_or,
    exists_eq_left]
  exact or_comm

theorem told_subset_append (past later : List Reminder) : told past ⊆ told (past ++ later) := by
  intro id hid
  obtain ⟨reminder, hmem, hid⟩ := mem_told_iff.mp hid
  exact mem_told_iff.mpr ⟨reminder, List.mem_append_left _ hmem, hid⟩

theorem lastJob?_concat (past : List Reminder) (reminder : Reminder) (id : Int) :
    lastJob? (past ++ [reminder]) id =
      if id ∈ reminder.ids then some reminder.job else lastJob? past id := by
  unfold lastJob?
  rw [List.reverse_append, List.reverse_singleton, List.singleton_append, List.find?_cons]
  by_cases hid : id ∈ reminder.ids
  · simp [hid]
  · simp [hid]

/-! ### One more call -/

theorem mem_held_recorded {memory : Recall} {ids : List Int} {job : Job} {id : Int} :
    id ∈ held (recorded memory ids job) ↔ id ∈ ids ∨ id ∈ held memory := by
  rw [mem_held_iff, mem_held_iff, get?_recorded]
  by_cases hid : id ∈ ids
  · simp [hid]
  · simp [hid]

theorem mem_held_remember {memory : Recall} {ids : List Int} {job : Job} {id : Int} :
    id ∈ held (memory.remember ids job) ↔
      (id ∈ ids ∨ id ∈ held memory) ∧ larger (recorded memory ids job) id < Recall.limit := by
  have hrecorded := @mem_held_recorded memory ids job id
  rw [← hrecorded, mem_held_iff, get?_remember]
  split
  · next hfew => simp [hfew, mem_held_iff]
  · next hmany => simp [hmany]

theorem size_remember_le (memory : Recall) (ids : List Int) (job : Job) :
    (memory.remember ids job).size ≤ Recall.limit := by
  rw [remember_eq, size_forget]
  omega

theorem larger_le_recorded (memory : Recall) (ids : List Int) (job : Job) (id : Int) :
    larger memory id ≤ larger (recorded memory ids job) id := by
  apply Finset.card_le_card
  intro other hother
  rw [Finset.mem_filter] at hother ⊢
  exact ⟨mem_held_recorded.mpr (.inr hother.1), hother.2⟩

/-- What holds of the memory between two calls. An id that was told of and is not held is one that had to
make room. -/
structure Keeps (past : List Reminder) (memory : Recall) : Prop where
  told : held memory ⊆ told past
  few : memory.size ≤ Recall.limit
  displaced : ∀ id ∈ NewestMessages.told past, id ∉ held memory → Recall.limit ≤ larger memory id
  job : ∀ id ∈ held memory, memory.get? id = lastJob? past id

theorem keeps_empty : Keeps [] .empty where
  told := Finset.empty_subset _
  few := Nat.zero_le _
  displaced _ hid := absurd hid (Finset.notMem_empty _)
  job _ hid := absurd hid (Finset.notMem_empty _)

theorem keeps_remember {past : List Reminder} {memory : Recall} (hkeeps : Keeps past memory)
    (reminder : Reminder) :
    Keeps (past ++ [reminder]) (memory.remember reminder.ids reminder.job) where
  told := by
    intro id hid
    obtain ⟨hid, -⟩ := mem_held_remember.mp hid
    exact mem_told_concat.mpr (hid.imp_right fun hheld => hkeeps.told hheld)
  few := size_remember_le memory reminder.ids reminder.job
  displaced := by
    intro id hid hlost
    refine (larger_remember ?_).ge
    rw [mem_told_concat] at hid
    by_cases hrecorded : id ∈ reminder.ids ∨ id ∈ held memory
    · -- It has been displaced only now.
      by_contra hfew
      exact hlost (mem_held_remember.mpr ⟨hrecorded, Nat.not_le.mp hfew⟩)
    · -- It was displaced before, and what is above it has not become less.
      rw [not_or] at hrecorded
      exact (hkeeps.displaced id (hid.resolve_left hrecorded.1) hrecorded.2).trans
        (larger_le_recorded ..)
  job := by
    intro id hid
    obtain ⟨hheld, hfew⟩ := mem_held_remember.mp hid
    rw [get?_remember, if_pos hfew, get?_recorded, lastJob?_concat]
    by_cases hnew : id ∈ reminder.ids
    · rw [if_pos hnew, if_pos hnew]
    · rw [if_neg hnew, if_neg hnew, hkeeps.job id (hheld.resolve_left hnew)]

theorem keeps_memoryOf (past : List Reminder) : Keeps past (memoryOf past) := by
  induction past using List.reverseRecOn with
  | nil => exact keeps_empty
  | append_singleton past reminder ih =>
      rw [memoryOf_concat]
      exact keeps_remember ih reminder

/-! ### All calls -/

section Kept

variable {past : List Reminder} {memory : Recall} (hkeeps : Keeps past memory)

include hkeeps

theorem lt_of_displaced {id kept : Int} (hid : id ∈ told past) (hlost : id ∉ held memory)
    (hkept : kept ∈ held memory) : id < kept := by
  have hall : (held memory).filter (fun other => id < other) = held memory := by
    apply Finset.eq_of_subset_of_card_le (Finset.filter_subset _ _)
    rw [card_held]
    exact hkeeps.few.trans (hkeeps.displaced id hid hlost)
  rw [← hall] at hkept
  exact (Finset.mem_filter.mp hkept).2

theorem size_of_displaced {id : Int} (hid : id ∈ told past) (hlost : id ∉ held memory) :
    memory.size = Recall.limit := by
  apply Nat.le_antisymm hkeeps.few
  rw [← card_held]
  exact (hkeeps.displaced id hid hlost).trans (Finset.card_le_card (Finset.filter_subset _ _))

theorem size_eq_min : memory.size = min Recall.limit (told past).card := by
  rcases hkeeps.told.eq_or_ssubset with hall | hsome
  · have hfew := hkeeps.few
    rw [← hall, card_held]
    omega
  · obtain ⟨id, hid, hlost⟩ := Finset.exists_of_ssubset hsome
    have hless := Finset.card_lt_card hsome
    have hfull := size_of_displaced hkeeps hid hlost
    rw [card_held] at hless
    omega

/-- Only the number of larger ids decides whether an id is held, and not when it was told of. -/
theorem mem_held_iff_few_larger {id : Int} (hid : id ∈ told past) :
    id ∈ held memory ↔ ((told past).filter fun other => id < other).card < Recall.limit := by
  constructor
  · intro hheld
    have hsubset : ((told past).filter fun other => id < other) ⊆ (held memory).erase id := by
      intro other hother
      obtain ⟨hother, hlt⟩ := Finset.mem_filter.mp hother
      refine Finset.mem_erase.mpr ⟨hlt.ne', ?_⟩
      by_contra hlost
      exact lt_asymm hlt (lt_of_displaced hkeeps hother hlost hheld)
    have hpos := Finset.card_pos.mpr ⟨id, hheld⟩
    have hle := Finset.card_le_card hsubset
    have hfew := hkeeps.few
    rw [Finset.card_erase_of_mem hheld] at hle
    rw [card_held] at hle hpos
    omega
  · intro hless
    by_contra hlost
    have hmany := hkeeps.displaced id hid hlost
    have hle : larger memory id ≤ ((told past).filter fun other => id < other).card :=
      Finset.card_le_card (Finset.filter_subset_filter _ hkeeps.told)
    omega

end Kept

theorem mem_held_memoryOf_iff {past : List Reminder} {id : Int} (hid : id ∈ told past) :
    id ∈ held (memoryOf past) ↔
      ((told past).filter fun other => id < other).card < Recall.limit :=
  mem_held_iff_few_larger (keeps_memoryOf past) hid

theorem get?_eq_none_iff {memory : Recall} {id : Int} :
    memory.get? id = none ↔ id ∉ held memory := by
  rw [mem_held_iff, Option.not_isSome_iff_eq_none]

/-- What has been displaced stays away, whatever is told of later. -/
theorem get?_memoryOf_append_eq_none {past : List Reminder} {id : Int} (hid : id ∈ told past)
    (hnone : (memoryOf past).get? id = none) (later : List Reminder) :
    (memoryOf (past ++ later)).get? id = none := by
  rw [get?_eq_none_iff, mem_held_memoryOf_iff hid] at hnone
  rw [get?_eq_none_iff, mem_held_memoryOf_iff (told_subset_append past later hid)]
  intro hless
  exact hnone (hless.trans_le'
    (Finset.card_le_card (Finset.filter_subset_filter _ (told_subset_append past later))))

/-- The thousand largest of the ids told of are held, or all of them if there are fewer, each with the job
that was told last. -/
structure HoldsNewest (past : List Reminder) (memory : Recall) : Prop where
  size : memory.size = min 1000 (told past).card
  jobs : ∀ id job, memory.get? id = some job → id ∈ told past ∧ lastJob? past id = some job
  newest : ∀ id ∈ told past, memory.get? id = none →
    ∀ kept job, memory.get? kept = some job → id < kept

theorem holdsNewest_of_keeps {past : List Reminder} {memory : Recall}
    (hkeeps : Keeps past memory) : HoldsNewest past memory where
  size := size_eq_min hkeeps
  jobs := by
    intro id job hjob
    have hheld : id ∈ held memory := by rw [mem_held_iff, hjob]; rfl
    exact ⟨hkeeps.told hheld, (hkeeps.job id hheld).symm.trans hjob⟩
  newest := by
    intro id hid hnone kept job hkept
    have hheld : kept ∈ held memory := by rw [mem_held_iff, hkept]; rfl
    exact lt_of_displaced hkeeps hid (get?_eq_none_iff.mp hnone) hheld

/-- After any calls the newest messages are remembered, never more than a thousand, and one that has been
displaced does not come back. -/
theorem newest_remembered (past : List Reminder) :
    HoldsNewest past (memoryOf past) ∧ (memoryOf past).size ≤ 1000 ∧
      ∀ id ∈ told past, (memoryOf past).get? id = none →
        ∀ later, (memoryOf (past ++ later)).get? id = none :=
  ⟨holdsNewest_of_keeps (keeps_memoryOf past), (keeps_memoryOf past).few,
    fun _ hid hnone later => get?_memoryOf_append_eq_none hid hnone later⟩

/-- One message more than can be remembered, the newest first. -/
def crowd : List Reminder :=
  [⟨(List.range 1001).reverse.map Int.ofNat, ⟨"main", "web", "unit"⟩⟩]

theorem mem_told_crowd {id : Int} : id ∈ told crowd ↔ 0 ≤ id ∧ id ≤ 1000 := by
  simp only [mem_told_iff, crowd, List.mem_singleton, exists_eq_left, List.mem_map, List.mem_reverse,
    List.mem_range]
  constructor
  · rintro ⟨n, hn, rfl⟩
    exact ⟨Int.natCast_nonneg n, Int.ofNat_le.mpr (Nat.le_of_lt_succ hn)⟩
  · rintro ⟨hpos, hle⟩
    exact ⟨id.toNat, by omega, Int.toNat_of_nonneg hpos⟩

theorem get?_crowd_zero : (memoryOf crowd).get? 0 = none := by
  rw [get?_eq_none_iff, mem_held_memoryOf_iff (mem_told_crowd.mpr (by omega)), Nat.not_lt]
  have hsubset : Finset.Ioc (0 : Int) 1000 ⊆ (told crowd).filter fun other => 0 < other := by
    intro id hid
    obtain ⟨hpos, hle⟩ := Finset.mem_Ioc.mp hid
    exact Finset.mem_filter.mpr ⟨mem_told_crowd.mpr ⟨hpos.le, hle⟩, hpos⟩
  calc Recall.limit = (Finset.Ioc (0 : Int) 1000).card := by rw [Int.card_Ioc]; rfl
    _ ≤ _ := Finset.card_le_card hsubset

/-- The oldest message of a crowd makes room, and does not come back when it is told of once more. -/
theorem oldest_of_crowd_displaced :
    0 ∈ told crowd ∧ (memoryOf crowd).get? 0 = none ∧
      (memoryOf (crowd ++ [⟨[0], ⟨"main", "web", "lint"⟩⟩])).get? 0 = none :=
  have hzero : 0 ∈ told crowd := mem_told_crowd.mpr (by omega)
  ⟨hzero, get?_crowd_zero, (newest_remembered crowd).2.2 0 hzero get?_crowd_zero _⟩

end BuildHerald.Proofs.NewestMessages
