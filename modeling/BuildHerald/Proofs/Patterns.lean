import BuildHerald.Text.Pattern
import Mathlib.Data.List.Basic

/-!
What a pattern fits.

The pieces of text that a pattern fits do not depend on what follows them, and what may be left of a text
is what follows such a piece. Only the order of the ways in which a pattern fits needs a look at how they
are tried.
-/

namespace BuildHerald.Proofs.Patterns

open BuildHerald.Text

/-- The pattern fits the piece. -/
def Fits : Pattern → List Char → Prop
  | .one isKind, piece => ∃ c, isKind c = true ∧ piece = [c]
  | .word letters, piece => piece = letters
  | .both first second, piece =>
      ∃ start rest, Fits first start ∧ Fits second rest ∧ piece = start ++ rest
  | .either first second, piece => Fits first piece ∨ Fits second piece
  | .perhaps pattern, piece => piece = [] ∨ Fits pattern piece
  | .many pattern, piece =>
      ∃ pieces, pieces ≠ [] ∧ (∀ part ∈ pieces, Fits pattern part) ∧ piece = pieces.flatten

section Repeated

variable {step : List Char → List (List Char)} {P : List Char → Prop}

theorem mem_repeated_iff_step {text rest : List Char} :
    rest ∈ Pattern.repeated step text ↔ ∃ middle ∈ step text,
      rest = middle ∨ middle.length < text.length ∧ rest ∈ Pattern.repeated step middle := by
  rw [Pattern.repeated, List.mem_flatMap]
  refine exists_congr fun middle => and_congr_right fun _ => ?_
  split
  · next hlt => simp [hlt, or_comm]
  · next hlt => simp [hlt]

variable (hstep : ∀ {text rest}, rest ∈ step text ↔ ∃ piece, P piece ∧ text = piece ++ rest)

include hstep

theorem exists_pieces_of_mem_repeated {text rest : List Char}
    (hrest : rest ∈ Pattern.repeated step text) :
    ∃ pieces, pieces ≠ [] ∧ (∀ part ∈ pieces, P part) ∧ text = pieces.flatten ++ rest := by
  induction hlength : text.length using Nat.strongRecOn generalizing text with
  | ind length ih =>
      obtain ⟨middle, hmiddle, hrest⟩ := mem_repeated_iff_step.mp hrest
      obtain ⟨piece, hpiece, rfl⟩ := hstep.mp hmiddle
      obtain rfl | ⟨hlt, hrest⟩ := hrest
      · exact ⟨[piece], by simp, by simpa using hpiece, by simp⟩
      · obtain ⟨pieces, -, hpieces, rfl⟩ := ih _ (hlength ▸ hlt) hrest rfl
        exact ⟨piece :: pieces, by simp, List.forall_mem_cons.mpr ⟨hpiece, hpieces⟩, by simp⟩

theorem mem_repeated_of_pieces {pieces : List (List Char)} (rest : List Char) (hne : pieces ≠ [])
    (hpieces : ∀ part ∈ pieces, P part) :
    rest ∈ Pattern.repeated step (pieces.flatten ++ rest) := by
  induction pieces with
  | nil => exact absurd rfl hne
  | cons piece pieces ih =>
      obtain ⟨hpiece, hpieces⟩ := List.forall_mem_cons.mp hpieces
      rw [List.flatten_cons, List.append_assoc]
      have hmiddle : pieces.flatten ++ rest ∈ step (piece ++ (pieces.flatten ++ rest)) :=
        hstep.mpr ⟨piece, hpiece, rfl⟩
      rw [mem_repeated_iff_step]
      by_cases hlast : pieces = []
      · exact ⟨_, hmiddle, .inl (by rw [hlast]; rfl)⟩
      · have hmore := ih hlast hpieces
        by_cases hempty : piece = []
        · -- An empty piece is not repeated: what follows it is found from the same place.
          rw [hempty, List.nil_append]
          exact mem_repeated_iff_step.mp hmore
        · have := List.length_pos_of_ne_nil hempty
          refine ⟨_, hmiddle, .inr ⟨?_, hmore⟩⟩
          simp only [List.length_append]
          omega

end Repeated

/-- What may be left of a text is what follows a piece that the pattern fits. -/
theorem mem_rests_iff {pattern : Pattern} {text rest : List Char} :
    rest ∈ pattern.rests text ↔ ∃ piece, Fits pattern piece ∧ text = piece ++ rest := by
  induction pattern generalizing text rest with
  | one isKind =>
      cases text with
      | nil => simp [Pattern.rests, Fits]
      | cons c text =>
          rw [Pattern.rests, List.mem_ite_nil_right, List.mem_singleton]
          constructor
          · rintro ⟨hkind, rfl⟩
            exact ⟨[c], ⟨c, hkind, rfl⟩, rfl⟩
          · rintro ⟨-, ⟨d, hkind, rfl⟩, heq⟩
            obtain ⟨rfl, rfl⟩ := List.cons_eq_cons.mp heq
            exact ⟨hkind, rfl⟩
  | word letters =>
      rw [Pattern.rests, List.mem_ite_nil_right, List.isPrefixOf_iff_prefix, List.mem_singleton]
      constructor
      · rintro ⟨⟨after, rfl⟩, rfl⟩
        exact ⟨letters, rfl, by rw [List.drop_left]⟩
      · rintro ⟨piece, rfl, rfl⟩
        exact ⟨List.prefix_append _ _, List.drop_left.symm⟩
  | both first second ihFirst ihSecond =>
      simp only [Pattern.rests, List.mem_flatMap, ihFirst, ihSecond]
      constructor
      · rintro ⟨_, ⟨start, hstart, rfl⟩, piece, hpiece, rfl⟩
        exact ⟨start ++ piece, ⟨start, piece, hstart, hpiece, rfl⟩, (List.append_assoc _ _ _).symm⟩
      · rintro ⟨_, ⟨start, piece, hstart, hpiece, rfl⟩, rfl⟩
        exact ⟨_, ⟨start, hstart, List.append_assoc _ _ _⟩, piece, hpiece, rfl⟩
  | either first second ihFirst ihSecond =>
      simp only [Pattern.rests, List.mem_append, ihFirst, ihSecond, Fits, or_and_right, exists_or]
  | perhaps pattern ih =>
      simp only [Pattern.rests, List.mem_append, ih, List.mem_singleton, Fits, or_and_right, exists_or,
        exists_eq_left, List.nil_append, eq_comm, or_comm]
  | many pattern ih =>
      constructor
      · intro hrest
        obtain ⟨pieces, hne, hpieces, rfl⟩ := exists_pieces_of_mem_repeated ih hrest
        exact ⟨_, ⟨pieces, hne, hpieces, rfl⟩, rfl⟩
      · rintro ⟨_, ⟨pieces, hne, hpieces, rfl⟩, rfl⟩
        exact mem_repeated_of_pieces ih rest hne hpieces

theorem fitsAll_iff {pattern : Pattern} {text : List Char} :
    pattern.fitsAll text = true ↔ Fits pattern text := by
  simp only [Pattern.fitsAll, List.any_eq_true, List.isEmpty_iff, exists_eq_right, mem_rests_iff,
    List.append_nil, exists_eq_right']

/-- A character of a kind in a row: not empty, and of that kind only. -/
theorem fits_many_one_iff {isKind : Char → Bool} {piece : List Char} :
    Fits (.many (.one isKind)) piece ↔ piece ≠ [] ∧ ∀ c ∈ piece, isKind c = true := by
  constructor
  · rintro ⟨pieces, hne, hpieces, rfl⟩
    refine ⟨?_, ?_⟩
    · obtain ⟨first, others, rfl⟩ := List.exists_cons_of_ne_nil hne
      obtain ⟨c, -, rfl⟩ := hpieces first List.mem_cons_self
      exact List.cons_ne_nil _ _
    · intro c hc
      obtain ⟨part, hpart, hc⟩ := List.mem_flatten.mp hc
      obtain ⟨d, hkind, rfl⟩ := hpieces part hpart
      rwa [List.mem_singleton.mp hc]
  · rintro ⟨hne, hkind⟩
    refine ⟨piece.map fun c => [c], by simpa using hne, ?_, (List.flatMap_singleton' piece).symm⟩
    rw [List.forall_mem_map]
    exact fun c hc => ⟨c, hkind c hc, rfl⟩

/-! ### What is preferred -/

/-- All characters of a kind are taken first. -/
theorem head_rests_many_one {isKind : Char → Bool} {piece rest : List Char} (hne : piece ≠ [])
    (hpiece : ∀ c ∈ piece, isKind c = true) (hrest : ∀ c, rest.head? = some c → isKind c = false) :
    ((Pattern.many (.one isKind)).rests (piece ++ rest)).head? = some rest := by
  induction piece with
  | nil => exact absurd rfl hne
  | cons c piece ih =>
      obtain ⟨hc, hpiece⟩ := List.forall_mem_cons.mp hpiece
      rw [List.cons_append, Pattern.rests, Pattern.repeated, Pattern.rests, if_pos hc,
        List.flatMap_singleton, if_pos (by simp)]
      by_cases hlast : piece = []
      · -- Nothing more can be taken: the rest begins with a character of another kind.
        have hnone : (Pattern.repeated (Pattern.one isKind).rests rest) = [] := by
          rw [Pattern.repeated]
          cases rest with
          | nil => rfl
          | cons d rest => simp [Pattern.rests, hrest d rfl]
        rw [hlast, List.nil_append, hnone]
        rfl
      · have hmore := ih hlast hpiece
        rw [Pattern.rests] at hmore
        rw [List.head?_append, hmore]
        rfl

theorem head?_flatMap_of_head? {α β : Type} {list : List α} {f : α → List β} {first : α} {found : β}
    (hfirst : list.head? = some first) (hfound : (f first).head? = some found) :
    (list.flatMap f).head? = some found := by
  obtain ⟨others, rfl⟩ := List.head?_eq_some_iff.mp hfirst
  rw [List.flatMap_cons, List.head?_append, hfound]
  rfl

end BuildHerald.Proofs.Patterns
