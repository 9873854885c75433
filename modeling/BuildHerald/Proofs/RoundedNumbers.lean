import BuildHerald.Number.Binary64
import Mathlib.Algebra.Order.Group.Nat
import Mathlib.Tactic.Linarith

/-!
How far rounding goes.

A rounded quotient stays between the powers of two around it, and has no more than 53 significant bits.
-/

namespace BuildHerald.Proofs.RoundedNumbers

open BuildHerald.Number

/-! ### Quotients -/

variable {dividend divisor n : Nat}

theorem div_le_divideEven : dividend / divisor ≤ Binary64.divideEven dividend divisor := by
  rw [Binary64.divideEven]
  split
  · exact le_rfl
  · split
    · exact Nat.le_succ _
    · exact Nat.le_add_right _ _

theorem divideEven_le : Binary64.divideEven dividend divisor ≤ dividend / divisor + 1 := by
  rw [Binary64.divideEven]
  split
  · exact Nat.le_succ _
  · split
    · exact le_rfl
    · omega

/-- What is below the middle between a number and the next is not rounded to the next. -/
theorem divideEven_le_of_lt (hlt : 2 * dividend < (2 * n + 1) * divisor) :
    Binary64.divideEven dividend divisor ≤ n := by
  have hsplit := Nat.div_add_mod dividend divisor
  have hmod := Nat.mod_lt dividend (Nat.pos_of_lt_mul_left hlt)
  have hquotient : dividend / divisor < n + 1 := by
    rw [Nat.div_lt_iff_lt_mul (Nat.pos_of_lt_mul_left hlt)]
    nlinarith
  rcases Nat.lt_succ_iff_lt_or_eq.mp hquotient with hless | hequal
  · exact divideEven_le.trans hless
  · rw [hequal] at hsplit
    have hclose : 2 * (dividend % divisor) < divisor := by nlinarith
    rw [Binary64.divideEven, if_pos hclose, hequal]

theorem divideEven_eq_zero_iff (hdivisor : 0 < divisor) :
    Binary64.divideEven dividend divisor = 0 ↔ 2 * dividend ≤ divisor := by
  constructor
  · intro hzero
    have hsmall := Nat.div_eq_zero_iff.mp (Nat.le_zero.mp (hzero ▸ div_le_divideEven))
    have hless : dividend < divisor := hsmall.resolve_left hdivisor.ne'
    rw [Binary64.divideEven, Nat.mod_eq_of_lt hless, Nat.div_eq_of_lt hless] at hzero
    by_contra hlarge
    rw [if_neg (by omega), if_pos (by omega)] at hzero
    exact absurd hzero (Nat.succ_ne_zero _)
  · intro hsmall
    have hless : dividend < divisor := by omega
    rw [Binary64.divideEven, Nat.mod_eq_of_lt hless, Nat.div_eq_of_lt hless]
    split
    · rfl
    · rw [if_neg (by omega)]

/-! ### Rounded units -/

/-- The distance between neighbours where the quotient is. -/
def spacing (dividend divisor : Nat) : Nat :=
  2 ^ ((dividend / divisor).log2 - 52)

/-- The rounded quotient, also where it is too large to be finite. -/
def rounded (dividend divisor : Nat) : Nat :=
  Binary64.divideEven dividend (divisor * spacing dividend divisor) * spacing dividend divisor

theorem round_eq :
    Binary64.round dividend divisor =
      if rounded dividend divisor < Binary64.limit then .finite (rounded dividend divisor)
      else .infinite :=
  rfl

theorem eq_rounded_of_round {units : Nat} (hround : Binary64.round dividend divisor = .finite units) :
    units = rounded dividend divisor := by
  rw [round_eq] at hround
  split at hround
  · exact (Binary64.finite.inj hround).symm
  · cases hround

theorem spacing_pos : 0 < spacing dividend divisor :=
  Nat.pow_pos Nat.two_pos

/-- Rounding does not go below a power of two. -/
theorem pow_le_rounded {k : Nat} (hk : 2 ^ k ≤ dividend / divisor) :
    2 ^ k ≤ rounded dividend divisor := by
  have hnonzero : dividend / divisor ≠ 0 := (hk.trans_lt' (Nat.pow_pos Nat.two_pos)).ne'
  have hlog : k ≤ (dividend / divisor).log2 := (Nat.le_log2 hnonzero).mpr hk
  obtain ⟨factor, hfactor⟩ : spacing dividend divisor ∣ 2 ^ (dividend / divisor).log2 :=
    Nat.pow_dvd_pow 2 (Nat.sub_le _ _)
  have hfactor_le : factor ≤ dividend / (divisor * spacing dividend divisor) := by
    rw [← Nat.div_div_eq_div_mul, Nat.le_div_iff_mul_le spacing_pos, mul_comm, ← hfactor]
    exact Nat.log2_self_le hnonzero
  calc 2 ^ k ≤ 2 ^ (dividend / divisor).log2 := Nat.pow_le_pow_right Nat.two_pos hlog
    _ = factor * spacing dividend divisor := by rw [hfactor, mul_comm]
    _ ≤ rounded dividend divisor :=
        Nat.mul_le_mul_right _ (hfactor_le.trans div_le_divideEven)

theorem divideEven_spacing_le (hlog : 52 ≤ (dividend / divisor).log2) :
    Binary64.divideEven dividend (divisor * spacing dividend divisor) ≤ 2 ^ 53 := by
  refine divideEven_le.trans ?_
  rw [← Nat.div_div_eq_div_mul, Nat.succ_le_iff, Nat.div_lt_iff_lt_mul spacing_pos, spacing, ← pow_add]
  exact Nat.lt_log2_self.trans_eq (congrArg _ (by omega))

/-- Rounding does not go above a power of two. -/
theorem rounded_le_pow {k : Nat} (hk : dividend / divisor < 2 ^ k) :
    rounded dividend divisor ≤ 2 ^ k := by
  by_cases hlog : 52 ≤ (dividend / divisor).log2
  · have hnonzero : dividend / divisor ≠ 0 := by
      intro hzero
      rw [hzero] at hlog
      exact absurd hlog (by decide)
    have hlt : (dividend / divisor).log2 < k := (Nat.log2_lt hnonzero).mpr hk
    calc rounded dividend divisor
        ≤ 2 ^ 53 * spacing dividend divisor := Nat.mul_le_mul_right _ (divideEven_spacing_le hlog)
      _ = 2 ^ ((dividend / divisor).log2 + 1) := by
          rw [spacing, ← pow_add]
          exact congrArg _ (by omega)
      _ ≤ 2 ^ k := Nat.pow_le_pow_right Nat.two_pos hlt
  · have hone : spacing dividend divisor = 1 := by
      rw [spacing, Nat.sub_eq_zero_of_le (by omega), pow_zero]
    rw [rounded, hone, mul_one, mul_one]
    exact divideEven_le.trans hk

/-- A rounded number is a multiple of a power of two that is 52 powers below it. -/
theorem pow_dvd_rounded {k : Nat} (hk : 2 ^ (k + 52) ≤ rounded dividend divisor) :
    2 ^ k ∣ rounded dividend divisor := by
  by_cases hlog : k ≤ (dividend / divisor).log2 - 52
  · exact (Nat.pow_dvd_pow 2 hlog).mul_left _
  · -- The quotient lies below the power of two that its rounding has reached.
    have hbelow : dividend / divisor < 2 ^ (k + 52) :=
      Nat.lt_log2_self.trans_le (Nat.pow_le_pow_right Nat.two_pos (by omega))
    rw [(rounded_le_pow hbelow).antisymm hk, pow_add]
    exact dvd_mul_right _ _

end BuildHerald.Proofs.RoundedNumbers
