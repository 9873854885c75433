import BuildHerald.Rehearsal.Timeline

/-!
Changes that happen by themselves, one after the other.
-/

namespace BuildHerald.Proofs.Timelines

open BuildHerald.Rehearsal

variable {σ : Type}

theorem earlier_eq_or (first second : Wake σ) :
    first.earlier second = first ∨ first.earlier second = second := by
  unfold Wake.earlier
  split
  · exact .inr rfl
  · exact .inl rfl
  · split
    · exact .inr rfl
    · exact .inl rfl

theorem mem_of_earliest {changes : List (Wake σ)} {change : Nat × σ}
    (hearliest : Wake.earliest changes = some change) : some change ∈ changes := by
  induction changes with
  | nil => exact absurd hearliest (Option.some_ne_none change).symm
  | cons first rest ih =>
      change first.earlier (Wake.earliest rest) = some change at hearliest
      rcases earlier_eq_or first (Wake.earliest rest) with hfirst | hrest
      · exact List.mem_cons.mpr (.inl (hearliest.symm.trans hfirst))
      · exact List.mem_cons_of_mem _ (ih (hrest.symm.trans hearliest))

theorem exists_earlier_le_left (change : Nat × σ) (second : Wake σ) :
    ∃ next, Wake.earlier (some change) second = some next ∧ next.1 ≤ change.1 := by
  cases second with
  | none => exact ⟨change, rfl, Nat.le_refl _⟩
  | some other =>
      by_cases hlt : other.1 < change.1
      · exact ⟨other, if_pos hlt, Nat.le_of_lt hlt⟩
      · exact ⟨change, if_neg hlt, Nat.le_refl _⟩

theorem exists_earlier_le_right (first : Wake σ) (change : Nat × σ) :
    ∃ next, first.earlier (some change) = some next ∧ next.1 ≤ change.1 := by
  cases first with
  | none => exact ⟨change, rfl, Nat.le_refl _⟩
  | some other =>
      by_cases hlt : change.1 < other.1
      · exact ⟨change, if_pos hlt, Nat.le_refl _⟩
      · exact ⟨other, if_neg hlt, Nat.le_of_not_lt hlt⟩

theorem exists_earliest_le {changes : List (Wake σ)} {change : Nat × σ}
    (hmem : some change ∈ changes) :
    ∃ next, Wake.earliest changes = some next ∧ next.1 ≤ change.1 := by
  induction changes with
  | nil => cases hmem
  | cons first rest ih =>
      rcases List.mem_cons.mp hmem with rfl | hrest
      · exact exists_earlier_le_left change (Wake.earliest rest)
      · obtain ⟨later, hlater, hle⟩ := ih hrest
        obtain ⟨next, hnext, hearlier⟩ := exists_earlier_le_right first later
        rw [← hlater] at hnext
        exact ⟨next, hnext, Nat.le_trans hearlier hle⟩

theorem le_of_earliest {changes : List (Wake σ)} {change other : Nat × σ}
    (hearliest : Wake.earliest changes = some change) (hmem : some other ∈ changes) :
    change.1 ≤ other.1 := by
  obtain ⟨next, hnext, hle⟩ := exists_earliest_le hmem
  obtain rfl := Option.some.inj (hearliest.symm.trans hnext)
  exact hle

section Maps

variable {τ : Type} (f : σ → τ)

/-- The same change, of something that stands for the state. -/
def mapWake (change : Wake σ) : Wake τ :=
  change.map fun next => (next.1, f next.2)

theorem mapWake_earlier (first second : Wake σ) :
    mapWake f (first.earlier second) = (mapWake f first).earlier (mapWake f second) := by
  cases first with
  | none => cases second <;> rfl
  | some a =>
      cases second with
      | none => rfl
      | some b =>
          change mapWake f (if b.1 < a.1 then some b else some a) =
            if b.1 < a.1 then mapWake f (some b) else mapWake f (some a)
          exact apply_ite (mapWake f) _ _ _

theorem mapWake_earliest (changes : List (Wake σ)) :
    mapWake f (Wake.earliest changes) = Wake.earliest (changes.map (mapWake f)) := by
  induction changes with
  | nil => rfl
  | cons first rest ih =>
      change mapWake f (first.earlier (Wake.earliest rest)) = _
      rw [mapWake_earlier, ih]
      rfl

end Maps

section Plays

variable {change : σ → Wake σ} {horizon : Nat}

theorem play_of_le {state next : σ} {time : Nat} (hchange : change state = some (time, next))
    (hle : time ≤ horizon) (fuel : Nat) :
    play change horizon (fuel + 1) state = play change horizon fuel next := by
  rw [play, hchange]
  exact if_pos hle

theorem play_of_lt {state : σ}
    (hlate : ∀ time next, change state = some (time, next) → horizon < time) (fuel : Nat) :
    play change horizon fuel state = state := by
  cases fuel with
  | zero => rfl
  | succ fuel =>
      rw [play]
      cases hchange : change state with
      | none => rfl
      | some next => exact if_neg (Nat.not_le_of_lt (hlate next.1 next.2 hchange))

/-- What every change keeps holds however long the changes are let happen. -/
theorem holds_of_play {holds : σ → Prop}
    (hkeeps : ∀ {state next : σ} {time : Nat},
      holds state → change state = some (time, next) → holds next)
    {state : σ} (hstate : holds state) (horizon fuel : Nat) :
    holds (play change horizon fuel state) := by
  induction fuel generalizing state with
  | zero => exact hstate
  | succ fuel ih =>
      by_cases hnext : ∃ time next, change state = some (time, next) ∧ time ≤ horizon
      · obtain ⟨time, next, hchange, hle⟩ := hnext
        rw [play_of_le hchange hle]
        exact ih (hkeeps hstate hchange)
      · rw [play_of_lt]
        · exact hstate
        · intro time next hchange
          exact Nat.lt_of_not_le fun hle => hnext ⟨time, next, hchange, hle⟩

end Plays

end BuildHerald.Proofs.Timelines
