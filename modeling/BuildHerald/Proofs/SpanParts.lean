import BuildHerald.Proofs.Patterns
import BuildHerald.Time.SpanText

/-!
Which parts a written length of time is made of.

The form says that a text is made of parts, and a search finds parts in it one after the other. Both find
the same ones: where a part ends does not depend on what follows it, but for the two letters that a unit
may have.
-/

namespace BuildHerald.Proofs.SpanParts

open BuildHerald.Number
open BuildHerald.Text
open BuildHerald.Time
open BuildHerald.Time.SpanText
open BuildHerald.Proofs.Patterns

/-! ### Parts -/

/-- A number with a unit. -/
structure Part where
  whole : List Char
  /-- The digits after the point; none if there is no point. -/
  fraction : List Char
  unit : TimeUnit

/-- Digits with a point in front of them, if there are any. -/
def pointed (fraction : List Char) : List Char :=
  if fraction = [] then [] else '.' :: fraction

namespace Part

/-- The number in writing. -/
def numeral (part : Part) : List Char :=
  part.whole ++ pointed part.fraction

/-- The part in writing. -/
def text (part : Part) : List Char :=
  part.numeral ++ part.unit.letters

/-- The part as a search finds it. -/
def found (part : Part) : Found :=
  ⟨part.numeral, part.unit.letters⟩

/-- The digits of the part are of some kind, and there are some in front of the point. -/
structure IsOf (isKind : Char → Bool) (part : Part) : Prop where
  whole_ne_nil : part.whole ≠ []
  whole : ∀ c ∈ part.whole, isKind c = true
  fraction : ∀ c ∈ part.fraction, isKind c = true

end Part

theorem isOf_of_all {isKind : Char → Bool} {part : Part} (hne : part.whole ≠ [])
    (hall : (part.whole ++ part.fraction).all isKind = true) : part.IsOf isKind := by
  rw [List.all_eq_true] at hall
  exact ⟨hne, fun c hc => hall c (List.mem_append_left _ hc),
    fun c hc => hall c (List.mem_append_right _ hc)⟩

/-- The text is made up of these parts. -/
structure Tiles (isKind : Char → Bool) (text : List Char) (parts : List Part) : Prop where
  ne_nil : parts ≠ []
  isOf : ∀ part ∈ parts, part.IsOf isKind
  text_eq : text = parts.flatMap Part.text

theorem isDigit_of_isDigit {c : Char} (hc : c.isDigit = true) : Decimal.isDigit c = true := by
  have hfirst : '0'.val.toNat = 0x30 := rfl
  have hlast : '9'.val.toNat = 0x39 := rfl
  have hnumber : c.toNat = c.val.toNat := rfl
  simp only [Char.isDigit, Bool.and_eq_true, decide_eq_true_eq, ge_iff_le, UInt32.le_iff_toNat_le,
    hfirst, hlast] at hc
  refine List.any_eq_true.mpr ⟨0x30, by decide, ?_⟩
  simp only [Bool.and_eq_true, decide_eq_true_eq, hnumber]
  omega

theorem isOf_of_isDigit {part : Part} (hpart : part.IsOf Char.isDigit) :
    part.IsOf Decimal.isDigit :=
  ⟨hpart.whole_ne_nil, fun c hc => isDigit_of_isDigit (hpart.whole c hc),
    fun c hc => isDigit_of_isDigit (hpart.fraction c hc)⟩

variable {part other : Part} {parts others : List Part} {text : List Char}

/-! ### The form -/

theorem fits_numeral_iff {piece : List Char} :
    Fits numeral piece ↔ ∃ whole fraction, whole ≠ [] ∧ (∀ c ∈ whole, Decimal.isDigit c = true) ∧
      (∀ c ∈ fraction, Decimal.isDigit c = true) ∧ piece = whole ++ pointed fraction := by
  have hdigits {piece : List Char} : Fits digits piece ↔
      piece ≠ [] ∧ ∀ c ∈ piece, Decimal.isDigit c = true := fits_many_one_iff
  constructor
  · rintro ⟨whole, rest, hwhole, rfl | ⟨_, fraction, rfl, hfraction, rfl⟩, rfl⟩
    · rw [hdigits] at hwhole
      exact ⟨whole, [], hwhole.1, hwhole.2, by simp, rfl⟩
    · rw [hdigits] at hwhole hfraction
      refine ⟨whole, fraction, hwhole.1, hwhole.2, hfraction.2, ?_⟩
      rw [pointed, if_neg hfraction.1]
      rfl
  · rintro ⟨whole, fraction, hne, hwhole, hfraction, rfl⟩
    refine ⟨whole, pointed fraction, hdigits.mpr ⟨hne, hwhole⟩, ?_, rfl⟩
    rw [pointed]
    split
    · exact .inl rfl
    · next hsome => exact .inr ⟨['.'], fraction, rfl, hdigits.mpr ⟨hsome, hfraction⟩, rfl⟩

theorem fits_unit_iff {piece : List Char} :
    Fits unit piece ↔ ∃ unit : TimeUnit, piece = unit.letters := by
  constructor
  · rintro (hpiece | hpiece | hpiece | hpiece)
    · exact ⟨_, hpiece⟩
    · exact ⟨_, hpiece⟩
    · exact ⟨_, hpiece⟩
    · exact ⟨_, hpiece⟩
  · rintro ⟨unit, rfl⟩
    cases unit with
    | millisecond => exact .inl rfl
    | hour => exact .inr (.inl rfl)
    | minute => exact .inr (.inr (.inl rfl))
    | second => exact .inr (.inr (.inr rfl))

theorem fits_part_iff {piece : List Char} :
    Fits (.both numeral unit) piece ↔ ∃ part : Part, part.IsOf Decimal.isDigit ∧ part.text = piece := by
  constructor
  · rintro ⟨start, rest, hstart, hrest, rfl⟩
    obtain ⟨whole, fraction, hne, hwhole, hfraction, rfl⟩ := fits_numeral_iff.mp hstart
    obtain ⟨unit, rfl⟩ := fits_unit_iff.mp hrest
    exact ⟨⟨whole, fraction, unit⟩, ⟨hne, hwhole, hfraction⟩, rfl⟩
  · rintro ⟨part, hpart, rfl⟩
    exact ⟨part.numeral, part.unit.letters,
      fits_numeral_iff.mpr ⟨_, _, hpart.whole_ne_nil, hpart.whole, hpart.fraction, rfl⟩,
      fits_unit_iff.mpr ⟨_, rfl⟩, rfl⟩

theorem exists_parts {pieces : List (List Char)}
    (hpieces : ∀ piece ∈ pieces, Fits (.both numeral unit) piece) :
    ∃ parts : List Part, (∀ part ∈ parts, part.IsOf Decimal.isDigit) ∧
      parts.map Part.text = pieces := by
  induction pieces with
  | nil => exact ⟨[], by simp, rfl⟩
  | cons piece pieces ih =>
      obtain ⟨hpiece, hothers⟩ := List.forall_mem_cons.mp hpieces
      obtain ⟨parts, hparts, rfl⟩ := ih hothers
      obtain ⟨part, hpart, rfl⟩ := fits_part_iff.mp hpiece
      exact ⟨part :: parts, List.forall_mem_cons.mpr ⟨hpart, hparts⟩, rfl⟩

/-- A text has the form exactly if it is made up of parts, with digits of any script. -/
theorem fitsAll_form_iff :
    form.fitsAll text = true ↔ ∃ parts, Tiles Decimal.isDigit text parts := by
  rw [fitsAll_iff]
  constructor
  · rintro ⟨pieces, hne, hpieces, rfl⟩
    obtain ⟨parts, hparts, rfl⟩ := exists_parts hpieces
    exact ⟨parts, by simpa using hne, hparts, rfl⟩
  · rintro ⟨parts, hne, hparts, rfl⟩
    refine ⟨parts.map Part.text, by simpa using hne, ?_, rfl⟩
    rw [List.forall_mem_map]
    exact fun part hpart => fits_part_iff.mpr ⟨part, hparts part hpart, rfl⟩

/-! ### The search -/

theorem isDigit_of_head?_letters (unit : TimeUnit) (rest : List Char) :
    ∀ c, (unit.letters ++ rest).head? = some c → Decimal.isDigit c = false := by
  have hminute : Decimal.isDigit 'm' = false := by decide
  have hsecond : Decimal.isDigit 's' = false := by decide
  have hhour : Decimal.isDigit 'h' = false := by decide
  cases unit <;> simp [TimeUnit.letters, hminute, hsecond, hhour]

theorem head_rests_numeral (hpart : part.IsOf Decimal.isDigit) (rest : List Char) :
    (numeral.rests (part.text ++ rest)).head? = some (part.unit.letters ++ rest) := by
  have hpoint : Decimal.isDigit '.' = false := by decide
  have hletters := isDigit_of_head?_letters part.unit rest
  rw [Part.text, Part.numeral, List.append_assoc, List.append_assoc, numeral, Pattern.rests]
  by_cases hfraction : part.fraction = []
  · refine head?_flatMap_of_head? (head_rests_many_one hpart.whole_ne_nil hpart.whole ?_) ?_
    · simpa [pointed, hfraction] using hletters
    · have hnone : ['.'].isPrefixOf (part.unit.letters ++ rest) = false := by
        cases part.unit <;> rfl
      simp [pointed, hfraction, Pattern.rests, hnone]
  · rw [pointed, if_neg hfraction]
    refine head?_flatMap_of_head? (head_rests_many_one hpart.whole_ne_nil hpart.whole ?_) ?_
    · simpa using hpoint
    · have hmore : ((Pattern.word ['.']).rests
          ('.' :: part.fraction ++ (part.unit.letters ++ rest))).head? =
            some (part.fraction ++ (part.unit.letters ++ rest)) := by
        simp [Pattern.rests]
      have hdigits : (digits.rests (part.fraction ++ (part.unit.letters ++ rest))).head? =
          some (part.unit.letters ++ rest) := head_rests_many_one hfraction hpart.fraction hletters
      rw [Pattern.rests, List.head?_append, Pattern.rests, head?_flatMap_of_head? hmore hdigits]
      rfl

/-- The letters of a unit are taken as a whole. Those of a minute must not be followed by the second
letter of a millisecond. -/
theorem head_rests_unit (timeUnit : TimeUnit) {rest : List Char} (hrest : rest.head? ≠ some 's') :
    (unit.rests (timeUnit.letters ++ rest)).head? = some rest := by
  cases timeUnit with
  | minute =>
      have hother : ['m', 's'].isPrefixOf ('m' :: rest) = false := by
        cases rest with
        | nil => rfl
        | cons c rest =>
            have hne : 's' ≠ c := fun heq => hrest (congrArg some heq.symm)
            simp [List.isPrefixOf, hne]
      simp [unit, Pattern.rests, TimeUnit.letters, hother]
  | _ => simp [unit, Pattern.rests, TimeUnit.letters]

theorem before_append (first rest : List Char) : before (first ++ rest) rest = first := by
  simp [before]

theorem foundAt?_text (hpart : part.IsOf Decimal.isDigit) {rest : List Char}
    (hrest : rest.head? ≠ some 's') : foundAt? (part.text ++ rest) = some (part.found, rest) := by
  refine head?_flatMap_of_head? (head_rests_numeral hpart rest) ?_
  rw [List.head?_map, head_rests_unit part.unit hrest, Option.map_some, before_append, Part.text,
    List.append_assoc, before_append]
  rfl

theorem found_text (hpart : part.IsOf Decimal.isDigit) {rest : List Char}
    (hrest : rest.head? ≠ some 's') :
    SpanText.found (part.text ++ rest) = part.found :: SpanText.found rest := by
  obtain ⟨c, tail, hsplit⟩ := List.exists_cons_of_ne_nil hpart.whole_ne_nil
  have hat := foundAt?_text hpart hrest
  have htext : part.text ++ rest =
      c :: (tail ++ pointed part.fraction ++ part.unit.letters ++ rest) := by
    rw [Part.text, Part.numeral, hsplit]
    rfl
  rw [htext] at hat ⊢
  rw [SpanText.found, hat]
  have hshort : rest.length ≤
      (tail ++ pointed part.fraction ++ part.unit.letters ++ rest).length := by
    simp only [List.length_append]
    omega
  exact congrArg _ (if_pos hshort)

theorem head?_tiles (hparts : ∀ part ∈ parts, part.IsOf Decimal.isDigit) :
    (parts.flatMap Part.text).head? ≠ some 's' := by
  cases parts with
  | nil => exact (Option.some_ne_none _).symm
  | cons part parts =>
      have hpart := hparts part List.mem_cons_self
      obtain ⟨c, tail, hsplit⟩ := List.exists_cons_of_ne_nil hpart.whole_ne_nil
      have hdigit : Decimal.isDigit c = true := hpart.whole c (hsplit ▸ List.mem_cons_self)
      have hletter : Decimal.isDigit 's' = false := by decide
      rw [List.flatMap_cons, Part.text, Part.numeral, hsplit]
      intro hhead
      obtain rfl : c = 's' := Option.some.inj hhead
      exact absurd (hletter.symm.trans hdigit) Bool.false_ne_true

/-- The search finds exactly the parts that a text is made of, in order. -/
theorem found_of_tiles (htiles : Tiles Decimal.isDigit text parts) :
    SpanText.found text = parts.map Part.found := by
  obtain ⟨-, hparts, rfl⟩ := htiles
  induction parts with
  | nil => rw [List.flatMap_nil, SpanText.found, List.map_nil]
  | cons part parts ih =>
      obtain ⟨hpart, hparts⟩ := List.forall_mem_cons.mp hparts
      rw [List.flatMap_cons, found_text hpart (head?_tiles hparts), ih hparts, List.map_cons]

/-! ### Reading a numeral -/

theorem splitOnce_numeral (hpart : part.IsOf Decimal.isDigit) :
    (splitOnce '.' part.numeral).getD (part.numeral, []) = (part.whole, part.fraction) := by
  have hpoint : '.' ∉ part.whole := fun hmem => by
    have hdigit := hpart.whole _ hmem
    revert hdigit
    decide
  rw [Part.numeral, pointed]
  split
  · next hnone =>
      have hsplit : splitOnce '.' part.whole = none := by
        cases hfound : splitOnce '.' part.whole with
        | none => rfl
        | some pair => exact absurd (splitOnce_eq_some hfound ▸ by simp) hpoint
      rw [List.append_nil, hsplit, hnone]
      rfl
  · rw [splitOnce_append_cons hpoint]
    rfl

/-- The number of a part, as the nearest floating-point number. -/
def Part.number (part : Part) : Binary64 :=
  Binary64.ofRatio (ofDigits (part.whole ++ part.fraction)) (Nat.pow 10 part.fraction.length)

theorem number?_numeral (hpart : part.IsOf Decimal.isDigit) :
    (part.IsOf Char.isDigit → number? part.numeral = some part.number) ∧
      ((number? part.numeral).isSome → part.IsOf Char.isDigit) := by
  have hsome : (part.whole ++ part.fraction).isEmpty = false := by
    simp [hpart.whole_ne_nil]
  rw [number?, splitOnce_numeral hpart]
  simp only [hsome, Bool.not_false, Bool.true_and]
  constructor
  · intro hdigits
    have hall : (part.whole ++ part.fraction).all Char.isDigit = true :=
      List.all_eq_true.mpr fun c hc =>
        (List.mem_append.mp hc).elim (hdigits.whole c) (hdigits.fraction c)
    rw [if_pos hall]
    rfl
  · intro hread
    split at hread
    · next hall => exact isOf_of_all hpart.whole_ne_nil hall
    · cases hread

theorem found_injective (hpart : part.IsOf Decimal.isDigit) (hother : other.IsOf Decimal.isDigit)
    (hfound : part.found = other.found) : part = other := by
  obtain ⟨hnumeral, hletters⟩ := Found.mk.inj hfound
  have hsplit := splitOnce_numeral hpart
  rw [hnumeral, splitOnce_numeral hother, Prod.mk.injEq] at hsplit
  have hunit := TimeUnit.ofLetters?_letters part.unit
  rw [hletters, TimeUnit.ofLetters?_letters, Option.some.injEq] at hunit
  cases part
  cases other
  simp_all

theorem map_found_injective (hparts : ∀ part ∈ parts, part.IsOf Decimal.isDigit)
    (hothers : ∀ part ∈ others, part.IsOf Decimal.isDigit)
    (hfound : parts.map Part.found = others.map Part.found) : parts = others := by
  induction parts generalizing others with
  | nil => exact (List.map_eq_nil_iff.mp hfound.symm).symm
  | cons part parts ih =>
      obtain ⟨other, rest, rfl, hfirst, hrest⟩ := List.map_eq_cons_iff.mp hfound.symm
      obtain ⟨hpart, hparts⟩ := List.forall_mem_cons.mp hparts
      obtain ⟨hother, hothers⟩ := List.forall_mem_cons.mp hothers
      rw [found_injective hpart hother hfirst.symm, ih hparts hothers hrest.symm]

/-- A text is made up of parts in one way only. -/
theorem tiles_unique (htiles : Tiles Decimal.isDigit text parts)
    (hothers : Tiles Decimal.isDigit text others) : others = parts :=
  map_found_injective hothers.isOf htiles.isOf
    ((found_of_tiles hothers).symm.trans (found_of_tiles htiles))

/-! ### Adding up -/

/-- The part in milliseconds. -/
def Part.millis (part : Part) : Binary64 :=
  part.number.scale (part.unit.millis * Binary64.one)

/-- The sum of the parts in milliseconds, added up in order. -/
def totalMillis (parts : List Part) : Binary64 :=
  parts.foldl (fun total part => total.add part.millis) (.finite 0)

theorem plus?_found (hpart : part.IsOf Char.isDigit) (total : Binary64) :
    plus? total part.found = some (total.add part.millis) := by
  have hnumber : number? part.found.numeral = some part.number :=
    (number?_numeral (isOf_of_isDigit hpart)).1 hpart
  have hunit : TimeUnit.ofLetters? part.found.letters = some part.unit :=
    TimeUnit.ofLetters?_letters part.unit
  rw [plus?, hnumber, hunit]
  rfl

theorem isOf_of_plus? (hpart : part.IsOf Decimal.isDigit) {total sum : Binary64}
    (hsum : plus? total part.found = some sum) : part.IsOf Char.isDigit := by
  obtain ⟨number, hnumber, -⟩ := Option.bind_eq_some_iff.mp hsum
  exact (number?_numeral hpart).2 (Option.isSome_of_eq_some hnumber)

theorem total?_found (hparts : ∀ part ∈ parts, part.IsOf Char.isDigit) :
    total? (parts.map Part.found) = some (totalMillis parts) := by
  rw [total?, totalMillis]
  generalize Binary64.finite 0 = total
  induction parts generalizing total with
  | nil => rfl
  | cons part parts ih =>
      obtain ⟨hpart, hparts⟩ := List.forall_mem_cons.mp hparts
      rw [List.map_cons, List.foldlM_cons, plus?_found hpart]
      exact ih hparts _

/-- Only digits from 0 to 9 can be added up. -/
theorem isOf_of_total? (hparts : ∀ part ∈ parts, part.IsOf Decimal.isDigit) {sum : Binary64}
    (hsum : total? (parts.map Part.found) = some sum) : ∀ part ∈ parts, part.IsOf Char.isDigit := by
  rw [total?] at hsum
  generalize Binary64.finite 0 = total at hsum
  induction parts generalizing total with
  | nil => simp
  | cons part parts ih =>
      obtain ⟨hpart, hothers⟩ := List.forall_mem_cons.mp hparts
      rw [List.map_cons, List.foldlM_cons] at hsum
      obtain ⟨next, hnext, hsum⟩ := Option.bind_eq_some_iff.mp hsum
      exact List.forall_mem_cons.mpr ⟨isOf_of_plus? hpart hnext, ih hothers _ hsum⟩

end BuildHerald.Proofs.SpanParts
