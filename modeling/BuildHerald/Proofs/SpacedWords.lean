import BuildHerald.Text.Blank
import Mathlib.Data.Bool.AllAny

/-!
The words of a text, told by how the text is written.

A text is spaced out if it is its words with blank characters between them, and maybe before the first
and after the last. Every text is spaced out in one way only, and its words are those of that way.
-/

namespace BuildHerald.Proofs.SpacedWords

open BuildHerald.Text

/-- What is written without a break. -/
structure IsSolid (word : List Char) : Prop where
  ne_nil : word ≠ []
  solid : ∀ c ∈ word, isBlank c = false

theorem isSolid_of_all {word : List Char} (hne : word ≠ [])
    (hsolid : word.all fun c => isBlank c = false) : IsSolid word :=
  ⟨hne, List.all_iff_forall_prop.mp hsolid⟩

/-- Whether a word can end here: the text is over, or goes on with a blank character. -/
def Breaks (text : List Char) : Prop :=
  ∀ c, text.head? = some c → isBlank c = true

/-- The text is these words, with blank characters between them and maybe around them. -/
inductive Spaced : List Char → List (List Char) → Prop
  | blank {text : List Char} : (∀ c ∈ text, isBlank c = true) → Spaced text []
  | word {gap word text : List Char} {words : List (List Char)} :
      (∀ c ∈ gap, isBlank c = true) → IsSolid word → Breaks text → Spaced text words →
        Spaced (gap ++ word ++ text) (word :: words)

theorem words_blank_cons {c : Char} (hblank : isBlank c = true) (text : List Char) :
    words (c :: text) = words text := by
  rw [words, pieces, if_pos hblank, List.filter_cons_of_neg (by simp), words]

theorem words_gap_append {gap : List Char} (hgap : ∀ c ∈ gap, isBlank c = true)
    (text : List Char) : words (gap ++ text) = words text := by
  induction gap with
  | nil => rfl
  | cons c gap ih =>
      rw [List.forall_mem_cons] at hgap
      rw [List.cons_append, words_blank_cons hgap.1, ih hgap.2]

theorem words_append {word text : List Char} (hword : IsSolid word) (hbreaks : Breaks text) :
    words (word ++ text) = word :: words text := by
  have hkept : (!word.isEmpty) = true := by simpa using hword.ne_nil
  cases text with
  | nil =>
      rw [List.append_nil, words, pieces_of_not_mem hword.solid, List.filter_cons, if_pos hkept]
      rfl
  | cons c text =>
      have hblank := hbreaks c rfl
      rw [words_blank_cons hblank, words, pieces_append_cons hword.solid hblank,
        List.filter_cons, if_pos hkept, words]

theorem words_of_spaced {text : List Char} {found : List (List Char)}
    (hspaced : Spaced text found) : words text = found := by
  induction hspaced with
  | @blank text hblank =>
      rw [← List.append_nil text, words_gap_append hblank]
      rfl
  | word hgap hword hbreaks _ ih =>
      rw [List.append_assoc, words_gap_append hgap, words_append hword hbreaks, ih]

theorem spaced_blank_cons {c : Char} {text : List Char} {found : List (List Char)}
    (hblank : isBlank c = true) (hspaced : Spaced text found) : Spaced (c :: text) found := by
  cases hspaced with
  | blank htext => exact .blank (List.forall_mem_cons.mpr ⟨hblank, htext⟩)
  | word hgap hword hbreaks hrest =>
      exact .word (List.forall_mem_cons.mpr ⟨hblank, hgap⟩) hword hbreaks hrest

/-- A character that is not blank begins a word, or goes on with the one that follows it. -/
theorem exists_spaced_cons {c : Char} {text : List Char} {found : List (List Char)}
    (hsolid : isBlank c = false) (hspaced : Spaced text found) :
    ∃ found, Spaced (c :: text) found := by
  have hsingle : IsSolid [c] := ⟨List.cons_ne_nil c [], by simpa using hsolid⟩
  by_cases hbreaks : Breaks text
  · exact ⟨[c] :: found, .word (List.forall_mem_nil _) hsingle hbreaks hspaced⟩
  · cases hspaced with
    | blank htext =>
        exact absurd (fun d hd => htext d (List.mem_of_mem_head? hd)) hbreaks
    | @word gap word rest words hgap hword hrest hspaced =>
        cases gap with
        | nil =>
            have hlonger : IsSolid (c :: word) :=
              ⟨List.cons_ne_nil c word, List.forall_mem_cons.mpr ⟨hsolid, hword.solid⟩⟩
            have hjoined : Spaced ([] ++ (c :: word) ++ rest) ((c :: word) :: words) :=
              .word (List.forall_mem_nil _) hlonger hrest hspaced
            exact ⟨_, hjoined⟩
        | cons d gap =>
            refine absurd ?_ hbreaks
            rintro _ ⟨⟩
            exact hgap d List.mem_cons_self

theorem exists_spaced (text : List Char) : ∃ found, Spaced text found := by
  induction text with
  | nil => exact ⟨[], .blank (List.forall_mem_nil _)⟩
  | cons c text ih =>
      obtain ⟨found, hspaced⟩ := ih
      cases hblank : isBlank c with
      | true => exact ⟨found, spaced_blank_cons hblank hspaced⟩
      | false => exact exists_spaced_cons hblank hspaced

/-- The words of a text are those that it is written with. -/
theorem spaced_iff {text : List Char} {found : List (List Char)} :
    Spaced text found ↔ words text = found := by
  constructor
  · exact words_of_spaced
  · rintro rfl
    obtain ⟨found, hspaced⟩ := exists_spaced text
    rw [words_of_spaced hspaced]
    exact hspaced

/-- Any words can be written down. -/
theorem exists_spaced_of_solid {found : List (List Char)} (hfound : ∀ word ∈ found, IsSolid word) :
    ∃ text, Spaced text found := by
  suffices hbroken : ∃ text, Breaks text ∧ Spaced text found from hbroken.imp fun _ => And.right
  induction found with
  | nil =>
      have hends : Breaks [] := fun c hc => absurd hc (Option.some_ne_none c).symm
      exact ⟨[], hends, .blank (List.forall_mem_nil _)⟩
  | cons word found ih =>
      rw [List.forall_mem_cons] at hfound
      obtain ⟨text, hbreaks, hspaced⟩ := ih hfound.2
      refine ⟨[' '] ++ word ++ text, ?_,
        .word (List.forall_mem_singleton.mpr rfl) hfound.1 hbreaks hspaced⟩
      rintro _ ⟨⟩
      rfl

end BuildHerald.Proofs.SpacedWords
