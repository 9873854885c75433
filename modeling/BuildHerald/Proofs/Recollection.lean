import BuildHerald.Proofs.JobStatuses
import BuildHerald.Telegram.Recall
import Mathlib.Data.Finset.Card
import Mathlib.Data.Finset.Lattice.Basic

/-!
Which messages the bot remembers after it has been told of more of them.

An id stays as long as few enough larger ones are held. So to forget some ids is to keep those that
have enough smaller ones below them.
-/

namespace BuildHerald.Proofs.Recollection

open BuildHerald.Telegram
open BuildHerald.Proofs.JobStatuses

/-! ### The ids that are held -/

def held (memory : Recall) : Finset Int :=
  (memory.entries.map Prod.fst).toFinset

/-- How many ids below a given one are held. -/
def smaller (memory : Recall) (id : Int) : Nat :=
  ((held memory).filter fun other => other < id).card

/-- How many ids above a given one are held. -/
def larger (memory : Recall) (id : Int) : Nat :=
  ((held memory).filter fun other => id < other).card

theorem mem_held_iff {memory : Recall} {id : Int} :
    id ∈ held memory ↔ (memory.get? id).isSome = true := by
  rw [get?_isSome_iff, held, List.mem_toFinset]

theorem get?_of_not_mem {memory : Recall} {id : Int} (hid : id ∉ held memory) :
    memory.get? id = none := by
  rw [mem_held_iff] at hid
  exact Option.not_isSome_iff_eq_none.mp hid

theorem card_held (memory : Recall) : (held memory).card = memory.size := by
  rw [held, List.toFinset_card_of_nodup memory.nodup, List.length_map, Table.size]

theorem held_erase (memory : Recall) (id : Int) :
    held (memory.erase id) = (held memory).erase id := by
  ext other
  rw [Finset.mem_erase, mem_held_iff, mem_held_iff, get?_erase]
  split
  · next hid => simp [hid]
  · next hid => simp [Ne.symm hid]

theorem smallest?_eq_some_iff {memory : Recall} {id : Int} :
    memory.smallest? = some id ↔ id ∈ held memory ∧ ∀ other ∈ held memory, id ≤ other := by
  simp only [Recall.smallest?, held, List.min?_eq_some_iff, List.mem_toFinset]

theorem held_eq_empty {memory : Recall} (hsmallest : memory.smallest? = none) :
    held memory = ∅ := by
  rw [Recall.smallest?, List.min?_eq_none_iff] at hsmallest
  rw [held, hsmallest]
  rfl

theorem larger_anti {memory : Recall} {id other : Int} (hle : id ≤ other) :
    larger memory other ≤ larger memory id := by
  apply Finset.card_le_card
  intro known hknown
  rw [Finset.mem_filter] at hknown ⊢
  exact ⟨hknown.1, by omega⟩

theorem size_eq {memory : Recall} {id : Int} (hid : id ∈ held memory) :
    memory.size = smaller memory id + 1 + larger memory id := by
  have hsplit : held memory = insert id (((held memory).filter fun other => other < id) ∪
      (held memory).filter fun other => id < other) := by
    ext other
    simp only [Finset.mem_insert, Finset.mem_union, Finset.mem_filter]
    constructor
    · intro hother
      obtain hlt | rfl | hgt := lt_trichotomy other id
      · exact .inr (.inl ⟨hother, hlt⟩)
      · exact .inl rfl
      · exact .inr (.inr ⟨hother, hgt⟩)
    · rintro (rfl | ⟨hother, -⟩ | ⟨hother, -⟩)
      · exact hid
      · exact hother
      · exact hother
  have hdisjoint : Disjoint ((held memory).filter fun other => other < id)
      ((held memory).filter fun other => id < other) := by
    rw [Finset.disjoint_filter]
    intro other _ hlt
    omega
  rw [← card_held, hsplit, Finset.card_insert_of_notMem (by simp),
    Finset.card_union_of_disjoint hdisjoint]
  unfold smaller larger
  omega

/-! ### Forgetting -/

theorem smaller_erase {memory : Recall} {least id : Int} (hleast : least ∈ held memory)
    (hlt : least < id) : smaller (memory.erase least) id + 1 = smaller memory id := by
  have hmem : least ∈ (held memory).filter fun other => other < id :=
    Finset.mem_filter.mpr ⟨hleast, hlt⟩
  unfold smaller
  rw [held_erase, Finset.filter_erase, Finset.card_erase_add_one hmem]

/-- As many ids are forgotten as are asked for, the smallest first. -/
theorem get?_forget (count : Nat) (memory : Recall) (id : Int) :
    (memory.forget count).get? id =
      if count ≤ smaller memory id then memory.get? id else none := by
  induction count generalizing memory with
  | zero => rw [if_pos (Nat.zero_le _), Recall.forget]
  | succ count ih =>
      unfold Recall.forget
      cases hsmallest : memory.smallest? with
      | none =>
          have hnone : memory.get? id = none :=
            get?_of_not_mem (by rw [held_eq_empty hsmallest]; exact Finset.notMem_empty id)
          rw [hnone, ite_self]
      | some least =>
          obtain ⟨hleast, hall⟩ := smallest?_eq_some_iff.mp hsmallest
          change (Recall.forget count (memory.erase least)).get? id = _
          rw [ih]
          obtain hlt | hle := Int.lt_or_le least id
          · have hne : id ≠ least := by omega
            rw [Table.get?_erase_of_ne memory hne, ← smaller_erase hleast hlt]
            simp only [Nat.add_le_add_iff_right]
          · have hgone : (memory.erase least).get? id = none := by
              apply get?_of_not_mem
              rw [held_erase, Finset.mem_erase]
              rintro ⟨hne, hmem⟩
              have hge := hall id hmem
              omega
            have hnone : smaller memory id = 0 := by
              rw [smaller, Finset.card_eq_zero, Finset.filter_eq_empty_iff]
              intro other hother
              have hge := hall other hother
              omega
            rw [hgone, ite_self, if_neg (by omega)]

theorem size_forget (count : Nat) (memory : Recall) :
    (memory.forget count).size = memory.size - count := by
  induction count generalizing memory with
  | zero => rfl
  | succ count ih =>
      unfold Recall.forget
      cases hsmallest : memory.smallest? with
      | none =>
          change memory.size = _
          rw [← card_held, held_eq_empty hsmallest, Finset.card_empty, Nat.zero_sub]
      | some least =>
          have hleast := (smallest?_eq_some_iff.mp hsmallest).1
          change (Recall.forget count (memory.erase least)).size = _
          rw [ih, ← card_held, ← card_held, held_erase, Finset.card_erase_of_mem hleast]
          omega

/-! ### Remembering -/

/-- The memory with new ids, before any are forgotten. -/
def recorded (memory : Recall) (ids : List Int) (job : Job) : Recall :=
  ids.foldl (fun held id => held.put id job) memory

theorem remember_eq (memory : Recall) (ids : List Int) (job : Job) :
    memory.remember ids job =
      (recorded memory ids job).forget ((recorded memory ids job).size - Recall.limit) :=
  rfl

theorem get?_recorded (memory : Recall) (ids : List Int) (job : Job) (id : Int) :
    (recorded memory ids job).get? id = if id ∈ ids then some job else memory.get? id := by
  unfold recorded
  induction ids generalizing memory with
  | nil => simp
  | cons first rest ih =>
      rw [List.foldl_cons, ih, get?_put]
      by_cases hrest : id ∈ rest
      · simp [hrest]
      · simp [hrest, eq_comm]

/-- An id is remembered as long as there are few enough larger ones. -/
theorem get?_remember (memory : Recall) (ids : List Int) (job : Job) (id : Int) :
    (memory.remember ids job).get? id =
      if larger (recorded memory ids job) id < Recall.limit then
        (recorded memory ids job).get? id
      else none := by
  rw [remember_eq, get?_forget]
  by_cases hid : id ∈ held (recorded memory ids job)
  · have hsize := size_eq hid
    have hiff : (recorded memory ids job).size - Recall.limit ≤
        smaller (recorded memory ids job) id ↔
          larger (recorded memory ids job) id < Recall.limit := by
      omega
    simp only [hiff]
  · rw [get?_of_not_mem hid, ite_self, ite_self]

/-- What has been displaced lies below all that is still remembered. -/
theorem larger_remember {memory : Recall} {ids : List Int} {job : Job} {id : Int}
    (hmany : Recall.limit ≤ larger (recorded memory ids job) id) :
    larger (memory.remember ids job) id = Recall.limit := by
  have hfull : Recall.limit ≤ (recorded memory ids job).size :=
    (card_held (recorded memory ids job)).symm ▸
      hmany.trans (Finset.card_le_card (Finset.filter_subset _ _))
  -- All ids up to `id` are forgotten, so those that stay are the limit's number above it.
  have hall : ∀ other ∈ held (memory.remember ids job), id < other := by
    intro other hother
    rw [mem_held_iff, remember_eq, get?_forget] at hother
    split at hother
    · next hcount =>
        by_contra hle
        have hsize := size_eq (mem_held_iff.mpr hother)
        have hanti : larger (recorded memory ids job) id ≤
            larger (recorded memory ids job) other := larger_anti (Int.not_lt.mp hle)
        omega
    · cases hother
  rw [larger, Finset.filter_true_of_mem hall, card_held, remember_eq, size_forget]
  omega

end BuildHerald.Proofs.Recollection
