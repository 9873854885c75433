import BuildHerald.Proofs.RoundedNumbers
import BuildHerald.Proofs.SpanParts
import Mathlib.Tactic.Ring

/-!
Which texts are read as lengths of time, and as which.

A text is read if it is made up of parts, and if their sum is a length of time that can be kept. What is
summed up is then the parts, and nothing else.
-/

namespace BuildHerald.Proofs.SpanReadings

open BuildHerald.Number
open BuildHerald.Time
open BuildHerald.Time.SpanText
open BuildHerald.Proofs.RoundedNumbers
open BuildHerald.Proofs.SpanParts

/-! ### Sums that can be kept -/

/-- So many milliseconds are more than nothing, and less than 2⁶⁴ seconds. -/
def InRange (total : Binary64) : Prop :=
  ∃ units, total = .finite units ∧ 0 < units ∧ units < Text.wordBound * 1000 * Binary64.one

/-- The number has no more than 53 significant bits. -/
def IsRounded (number : Binary64) : Prop :=
  ∀ units, number = .finite units → ∀ k, 2 ^ (k + 52) ≤ units → 2 ^ k ∣ units

theorem isRounded_zero : IsRounded (.finite 0) := by
  rintro units hzero k -
  rw [← Binary64.finite.inj hzero]
  exact dvd_zero _

theorem isRounded_round (dividend divisor : Nat) : IsRounded (Binary64.round dividend divisor) := by
  intro units hround k hk
  rw [eq_rounded_of_round hround] at hk ⊢
  exact pow_dvd_rounded hk

theorem isRounded_add (first second : Binary64) : IsRounded (first.add second) := by
  cases first with
  | infinite => exact fun _ hround => Binary64.noConfusion hround
  | finite a =>
      cases second with
      | infinite => exact fun _ hround => Binary64.noConfusion hround
      | finite b => exact isRounded_round (a + b) 1

theorem isRounded_totalMillis (parts : List Part) : IsRounded (totalMillis parts) := by
  rw [totalMillis]
  have hstart := isRounded_zero
  generalize Binary64.finite 0 = total at hstart ⊢
  induction parts generalizing total with
  | nil => exact hstart
  | cons part parts ih => exact ih _ (isRounded_add _ _)

/-! ### Milliseconds as seconds -/

section Seconds

variable {units scale e : Nat}

theorem quotient_eq (hscale : 0 < scale) : units * scale / (1000 * scale) = units / 1000 :=
  Nat.mul_div_mul_right _ _ hscale

theorem pow_le_thousandth (hscale : 0 < scale) (hunits : 1000 * 2 ^ e ≤ units) :
    2 ^ e ≤ rounded (units * scale) (1000 * scale) := by
  refine pow_le_rounded ?_
  rw [quotient_eq hscale, Nat.le_div_iff_mul_le (by decide), mul_comm]
  exact hunits

/-- The neighbours of a rounded number are not close to it: below this bound, the next one is so many
units away. -/
theorem add_le_of_isRounded (hrounded : IsRounded (.finite units))
    (hunits : units < 1000 * 2 ^ (e + 53)) : units + 1024 * 2 ^ e ≤ 1000 * 2 ^ (e + 53) := by
  have hpow : 2 ^ (e + 53) = 2 ^ 53 * 2 ^ e := by rw [pow_add, mul_comm]
  rw [hpow] at hunits ⊢
  by_cases htop : 2 ^ (e + 10 + 52) ≤ units
  · obtain ⟨count, rfl⟩ := hrounded units rfl (e + 10) htop
    have hten : 2 ^ (e + 10) = 1024 * 2 ^ e := by
      rw [pow_add, mul_comm]
      rfl
    rw [hten] at hunits ⊢
    have hcount : count < 1000 * 2 ^ 43 := by
      by_contra hcount
      have := Nat.mul_le_mul_left (1024 * 2 ^ e) (not_lt.mp hcount)
      omega
    have := Nat.mul_le_mul_left (1024 * 2 ^ e) (Nat.succ_le_of_lt hcount)
    linarith
  · have hsixty : 2 ^ (e + 10 + 52) = 2 ^ 62 * 2 ^ e := by rw [add_assoc, pow_add, mul_comm]
    rw [hsixty] at htop
    omega

theorem log2_thousandth (hhalf : 2 ^ (e + 52) ≤ units / 1000) (hunits : units < 1000 * 2 ^ (e + 53)) :
    (units / 1000).log2 = e + 52 := by
  have hquotient : units / 1000 < 2 ^ (e + 53) := Nat.div_lt_of_lt_mul hunits
  have hnonzero : units / 1000 ≠ 0 := (hhalf.trans_lt' (Nat.pow_pos Nat.two_pos)).ne'
  have hle := (Nat.le_log2 hnonzero).mpr hhalf
  have hlt := (Nat.log2_lt hnonzero).mpr hquotient
  omega

/-- A thousandth is not rounded up to a power of two that it is below: neighbours of the number are
further away from each other than those of its thousandth are. -/
theorem thousandth_lt_pow (hscale : 0 < scale) (hrounded : IsRounded (.finite units))
    (hunits : units < 1000 * 2 ^ (e + 53)) :
    rounded (units * scale) (1000 * scale) < 2 ^ (e + 53) := by
  have hpow : 2 ^ (e + 53) = 2 ^ 53 * 2 ^ e := by rw [pow_add, mul_comm]
  by_cases hhalf : units / 1000 < 2 ^ (e + 52)
  · rw [← quotient_eq hscale] at hhalf
    exact (rounded_le_pow hhalf).trans_lt (Nat.pow_lt_pow_right (by decide) (by omega))
  · have hspacing : spacing (units * scale) (1000 * scale) = 2 ^ e := by
      rw [spacing, quotient_eq hscale, log2_thousandth (not_lt.mp hhalf) hunits, Nat.add_sub_cancel]
    have hbelow := add_le_of_isRounded hrounded hunits
    have hclose : 2 * units < (2 * (2 ^ 53 - 1) + 1) * (1000 * 2 ^ e) := by
      have : 0 < 2 ^ e := Nat.pow_pos Nat.two_pos
      omega
    have hquotient :
        Binary64.divideEven (units * scale) (1000 * scale * 2 ^ e) ≤ 2 ^ 53 - 1 := by
      refine divideEven_le_of_lt ?_
      calc 2 * (units * scale) = 2 * units * scale := (mul_assoc _ _ _).symm
        _ < (2 * (2 ^ 53 - 1) + 1) * (1000 * 2 ^ e) * scale :=
            Nat.mul_lt_mul_of_pos_right hclose hscale
        _ = (2 * (2 ^ 53 - 1) + 1) * (1000 * scale * 2 ^ e) := by ring
    rw [rounded, hspacing, hpow]
    exact Nat.mul_lt_mul_of_pos_right (by omega) (Nat.pow_pos Nat.two_pos)

end Seconds

/-- The seconds in so many milliseconds, rounded. -/
def secondsIn (units : Nat) : Nat :=
  rounded (units * Binary64.one) (1000 * Binary64.one)

/-- How many units are too many seconds. -/
def secondsBound : Nat :=
  Text.wordBound * Binary64.one

theorem binary64_one_pos : 0 < Binary64.one := by
  decide +kernel

theorem secondsBound_eq : secondsBound = 2 ^ (1085 + 53) := by
  decide +kernel

theorem secondsBound_le_limit : secondsBound ≤ Binary64.limit := by
  decide +kernel

theorem secondsIn_lt_iff {units : Nat} (hrounded : IsRounded (.finite units)) :
    secondsIn units < secondsBound ↔ units < Text.wordBound * 1000 * Binary64.one := by
  have hbound : Text.wordBound * 1000 * Binary64.one = 1000 * 2 ^ (1085 + 53) := by
    rw [← secondsBound_eq, secondsBound]
    ring
  rw [hbound, secondsBound_eq, secondsIn]
  constructor
  · intro hseconds
    by_contra hunits
    exact absurd (pow_le_thousandth binary64_one_pos (not_lt.mp hunits)) (not_le.mpr hseconds)
  · exact thousandth_lt_pow binary64_one_pos hrounded

theorem ofMillis?_finite {units : Nat} (hunits : 0 < units) :
    ofMillis? (.finite units) =
      if secondsIn units < secondsBound then
        some ⟨Binary64.divideEven (secondsIn units * Span.nanosPerSecond) Binary64.one⟩
      else none := by
  have hnonzero : Binary64.finite units ≠ .finite 0 := fun hzero =>
    hunits.ne' (Binary64.finite.inj hzero)
  rw [ofMillis?, if_neg hnonzero, Binary64.divide, round_eq]
  change _ = if secondsIn units < secondsBound then _ else _
  by_cases hlimit : secondsIn units < Binary64.limit
  · rw [secondsIn] at hlimit
    rw [if_pos hlimit]
    rfl
  · have hbound : ¬ secondsIn units < secondsBound := fun hlt =>
      hlimit (hlt.trans_le secondsBound_le_limit)
    rw [if_neg hbound]
    rw [secondsIn] at hlimit
    rw [if_neg hlimit]

/-- What becomes of a sum of milliseconds. -/
theorem ofMillis?_eq_some_iff {total : Binary64} {span : Span} :
    ofMillis? total = some span ↔ ∃ units, total = .finite units ∧ 0 < units ∧
      secondsIn units < secondsBound ∧
        span = ⟨Binary64.divideEven (secondsIn units * Span.nanosPerSecond) Binary64.one⟩ := by
  constructor
  · intro hkept
    cases total with
    | infinite =>
        rw [ofMillis?, if_neg (by simp), Binary64.divide] at hkept
        cases hkept
    | finite units =>
        obtain rfl | hunits := Nat.eq_zero_or_pos units
        · rw [ofMillis?, if_pos rfl] at hkept
          cases hkept
        · rw [ofMillis?_finite hunits, Option.ite_none_right_eq_some] at hkept
          obtain ⟨hbound, hspan⟩ := hkept
          exact ⟨units, rfl, hunits, hbound, (Option.some.inj hspan).symm⟩
  · rintro ⟨units, rfl, hunits, hbound, rfl⟩
    rw [ofMillis?_finite hunits, if_pos hbound]

/-- A sum of milliseconds is kept exactly if it is more than nothing and less than 2⁶⁴ seconds. -/
theorem isSome_ofMillis?_iff {total : Binary64} (hrounded : IsRounded total) :
    (ofMillis? total).isSome ↔ InRange total := by
  rw [Option.isSome_iff_exists]
  constructor
  · rintro ⟨span, hkept⟩
    obtain ⟨units, rfl, hunits, hbound, -⟩ := ofMillis?_eq_some_iff.mp hkept
    exact ⟨units, rfl, hunits, (secondsIn_lt_iff hrounded).mp hbound⟩
  · rintro ⟨units, rfl, hunits, hbound⟩
    exact ⟨_, ofMillis?_eq_some_iff.mpr
      ⟨units, rfl, hunits, (secondsIn_lt_iff hrounded).mpr hbound, rfl⟩⟩

/-! ### Reading -/

variable {text : List Char} {parts : List Part}

/-- How a text that is made up of parts is read. -/
structure ReadByParts (text : List Char) (parts : List Part) : Prop where
  /-- There are no other parts that it is made up of, with digits of any script. -/
  unique : ∀ others, Tiles Text.Decimal.isDigit (Text.trim text) others → others = parts
  found : SpanText.found (Text.trim text) = parts.map Part.found
  /-- What is found covers the text. -/
  covered : (SpanText.found (Text.trim text)).flatMap (fun part => part.numeral ++ part.letters) =
    Text.trim text
  total : total? (SpanText.found (Text.trim text)) = some (totalMillis parts)
  read : Span.ofText? text = ofMillis? (totalMillis parts)

theorem tiles_of_isDigit (htiles : Tiles Char.isDigit text parts) :
    Tiles Text.Decimal.isDigit text parts :=
  ⟨htiles.ne_nil, fun part hpart => isOf_of_isDigit (htiles.isOf part hpart), htiles.text_eq⟩

theorem readByParts (htiles : Tiles Char.isDigit (Text.trim text) parts) :
    ReadByParts text parts := by
  have hwide := tiles_of_isDigit htiles
  have hfound := found_of_tiles hwide
  have htotal : total? (SpanText.found (Text.trim text)) = some (totalMillis parts) := by
    rw [hfound]
    exact total?_found htiles.isOf
  refine ⟨fun others => tiles_unique hwide, hfound, ?_, htotal, ?_⟩
  · rw [hfound, List.flatMap_map]
    exact htiles.text_eq.symm
  · have hform : form.fitsAll (Text.trim text) = true := fitsAll_form_iff.mpr ⟨parts, hwide⟩
    simp only [Span.ofText?, hform, if_true, htotal]
    rfl

theorem exists_tiles_of_isSome (hread : (Span.ofText? text).isSome) :
    ∃ parts, Tiles Char.isDigit (Text.trim text) parts := by
  simp only [Span.ofText?] at hread
  split at hread
  · next hform =>
      obtain ⟨parts, htiles⟩ := fitsAll_form_iff.mp hform
      obtain ⟨span, hspan⟩ := Option.isSome_iff_exists.mp hread
      obtain ⟨sum, hsum, -⟩ := Option.bind_eq_some_iff.mp hspan
      rw [found_of_tiles htiles] at hsum
      exact ⟨parts, htiles.ne_nil, isOf_of_total? htiles.isOf hsum, htiles.text_eq⟩
  · cases hread

/-- A text is read as a length of time exactly if it is made up of parts whose sum can be kept, and it is
then read by these parts. -/
theorem ofText?_by_parts (text : List Char) :
    ((Span.ofText? text).isSome ↔
      ∃ parts, Tiles Char.isDigit (Text.trim text) parts ∧ InRange (totalMillis parts)) ∧
    ∀ parts, Tiles Char.isDigit (Text.trim text) parts → ReadByParts text parts := by
  refine ⟨⟨fun hread => ?_, ?_⟩, fun parts => readByParts⟩
  · obtain ⟨parts, htiles⟩ := exists_tiles_of_isSome hread
    rw [(readByParts htiles).read] at hread
    exact ⟨parts, htiles, (isSome_ofMillis?_iff (isRounded_totalMillis parts)).mp hread⟩
  · rintro ⟨parts, htiles, hrange⟩
    rw [(readByParts htiles).read]
    exact (isSome_ofMillis?_iff (isRounded_totalMillis parts)).mpr hrange

/-- Minutes with a point, and milliseconds after them. -/
def minutesThenMillis : List Part :=
  [⟨['1'], [], .hour⟩, ⟨['0'], ['5'], .minute⟩, ⟨['2'], [], .millisecond⟩]

theorem minutesThenMillis_tiles :
    Tiles Char.isDigit (Text.trim " 1h0.5m2ms ".toList) minutesThenMillis := by
  refine ⟨List.cons_ne_nil _ _, ?_, by decide⟩
  simp only [minutesThenMillis, List.forall_mem_cons, List.not_mem_nil, false_imp_iff, implies_true,
    and_true]
  exact ⟨isOf_of_all (by decide) (by decide), isOf_of_all (by decide) (by decide),
    isOf_of_all (by decide) (by decide)⟩

theorem minutesThenMillis_by_parts :
    Tiles Char.isDigit (Text.trim " 1h0.5m2ms ".toList) minutesThenMillis ∧
    ReadByParts " 1h0.5m2ms ".toList minutesThenMillis ∧
    (Span.ofText? " 1h0.5m2ms ".toList).isSome ∧ ofMillis? (totalMillis minutesThenMillis) =
      some (Span.ofMillis 3630002) := by
  have htotal : totalMillis minutesThenMillis = .finite (3630002 * Binary64.one) := by
    decide +kernel
  have hrange : InRange (totalMillis minutesThenMillis) :=
    ⟨_, htotal, by decide +kernel, by decide +kernel⟩
  obtain ⟨hsome, hparts⟩ := ofText?_by_parts " 1h0.5m2ms ".toList
  exact ⟨minutesThenMillis_tiles, hparts _ minutesThenMillis_tiles,
    hsome.mpr ⟨_, minutesThenMillis_tiles, hrange⟩, by decide +kernel⟩

end BuildHerald.Proofs.SpanReadings
