namespace BuildHerald

/-- A finite map. The keys of its entries are distinct. -/
structure Table (κ ν : Type) [DecidableEq κ] where
  entries : List (κ × ν)
  nodup : (entries.map Prod.fst).Nodup

namespace Table

variable {κ ν : Type} [DecidableEq κ]

def empty : Table κ ν :=
  ⟨[], by simp⟩

/-- The value under a key. -/
def get? (table : Table κ ν) (key : κ) : Option ν :=
  (table.entries.find? fun entry => decide (entry.1 = key)).map Prod.snd

/-- Takes a key out. -/
def erase (table : Table κ ν) (key : κ) : Table κ ν where
  entries := table.entries.filter fun entry => decide (entry.1 ≠ key)
  nodup := List.Nodup.sublist (List.filter_sublist.map Prod.fst) table.nodup

/-- Puts a value under a key, in place of the one that was there. -/
def put (table : Table κ ν) (key : κ) (value : ν) : Table κ ν where
  entries := (key, value) :: (table.erase key).entries
  nodup := by
    rw [List.map_cons, List.nodup_cons]
    refine ⟨?_, (table.erase key).nodup⟩
    intro hmem
    obtain ⟨entry, hentry, hkey⟩ := List.mem_map.mp hmem
    have hne := (List.mem_filter.mp hentry).2
    simp only [decide_eq_true_eq] at hne
    exact hne hkey

/-- How many keys have a value. -/
def size (table : Table κ ν) : Nat :=
  table.entries.length

@[simp] theorem get?_empty (key : κ) : (empty : Table κ ν).get? key = none := rfl

@[simp] theorem get?_put_self (table : Table κ ν) (key : κ) (value : ν) :
    (table.put key value).get? key = some value := by
  simp [get?, put]

@[simp] theorem get?_erase_self (table : Table κ ν) (key : κ) :
    (table.erase key).get? key = none := by
  simp [get?, erase]

theorem get?_erase_of_ne (table : Table κ ν) {key other : κ} (h : other ≠ key) :
    (table.erase key).get? other = table.get? other := by
  have hsame : ∀ entry : κ × ν,
      (decide (entry.1 ≠ key) && decide (entry.1 = other)) = decide (entry.1 = other) := by
    intro entry
    by_cases hentry : entry.1 = other
    · simp [hentry, h]
    · simp [hentry]
  unfold get? erase
  simp only [List.find?_filter]
  congr 2
  funext entry
  simpa using hsame entry

theorem get?_put_of_ne (table : Table κ ν) {key other : κ} (value : ν) (h : other ≠ key) :
    (table.put key value).get? other = table.get? other := by
  rw [← get?_erase_of_ne table h]
  unfold get? put
  simp [Ne.symm h]

end Table

end BuildHerald
