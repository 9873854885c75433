import BuildHerald.Telegram.Markup
import Mathlib.Data.List.DropRight
import Mathlib.Data.List.TakeWhile

/-!
The block that shows a transcript in a notification.

What is shown is found in three steps: control sequences are taken out, blanks are cut off at the end,
and of what is left the last characters are kept. Fences in it are replaced, so that the only fences
outside of the title and the link are the two of the block.
-/

namespace BuildHerald.Proofs.FencedBlocks

open BuildHerald.Telegram.Markup
open BuildHerald.Text
open BuildHerald.Text.Terminal

/-! ### Control sequences -/

/-- A control sequence, as terminals take it. -/
inductive IsSequence : List Char → Prop
  | intro {parameters intermediates : List Char} {final : Char}
      (hparameters : ∀ c ∈ parameters, isParameter c = true)
      (hintermediates : ∀ c ∈ intermediates, isIntermediate c = true)
      (hfinal : isFinal final = true) :
      IsSequence ('\x1b' :: '[' :: (parameters ++ (intermediates ++ [final])))

/-- `bare` is what is left of a text when the control sequences in it are taken out, which are looked
for from left to right. -/
inductive Strips : List Char → List Char → Prop
  | nil : Strips [] []
  | sequence {sequence rest bare : List Char} (hsequence : IsSequence sequence)
      (hrest : Strips rest bare) : Strips (sequence ++ rest) bare
  | char {c : Char} {rest bare : List Char}
      (hnone : ∀ sequence, IsSequence sequence → ¬ sequence <+: c :: rest)
      (hrest : Strips rest bare) : Strips (c :: rest) (c :: bare)

theorem plain_of_char {c : Char} {rest : List Char} (hnone : afterSequence? (c :: rest) = none) :
    plain (c :: rest) = c :: plain rest := by
  rw [plain]
  split
  · next hsome =>
      rw [hnone] at hsome
      cases hsome
  · rfl

/-- `trimmed` is a text without the blanks at its end. -/
structure Trims (text trimmed : List Char) : Prop where
  blanks : ∃ blanks, text = trimmed ++ blanks ∧ ∀ c ∈ blanks, isBlank c = true
  last : ∀ c, trimmed.getLast? = some c → isBlank c = false

theorem trimEnd_eq_nil_iff {text : List Char} :
    trimEnd text = [] ↔ ∀ c ∈ text, isBlank c = true :=
  List.rdropWhile_eq_nil_iff

theorem trims_trimEnd (text : List Char) : Trims text (trimEnd text) := by
  constructor
  · refine ⟨(text.reverse.takeWhile isBlank).reverse, ?_, fun c hc => ?_⟩
    · rw [trimEnd, dropEndWhile, ← List.reverse_append, List.takeWhile_append_dropWhile,
        List.reverse_reverse]
    · exact List.mem_takeWhile_imp (List.mem_reverse.mp hc)
  · intro c hlast
    have hne : trimEnd text ≠ [] := List.ne_nil_of_mem (List.mem_of_getLast? hlast)
    have hnot := List.rdropWhile_last_not isBlank text hne
    rw [List.getLast?_eq_some_getLast hne, Option.some.injEq] at hlast
    rw [← hlast]
    exact Bool.eq_false_iff.mpr hnot

theorem trims_iff {text trimmed : List Char} : Trims text trimmed ↔ trimmed = trimEnd text := by
  constructor
  · rintro ⟨⟨blanks, rfl, hblanks⟩, hlast⟩
    obtain rfl | ⟨start, c, rfl⟩ := trimmed.eq_nil_or_concat
    · exact (trimEnd_eq_nil_iff.mpr hblanks).symm
    · rw [List.concat_eq_append] at hlast ⊢
      have hc : isBlank c = false := hlast c (by simp)
      rw [trimEnd, List.append_assoc, List.singleton_append, dropEndWhile_append_cons hc]
      rw [show dropEndWhile isBlank blanks = [] from trimEnd_eq_nil_iff.mpr hblanks]
  · rintro rfl
    exact trims_trimEnd text

/-! ### Replaced fences -/

/-- `body` is a text in which every three signs of a fence in a row are replaced, from left to right. -/
inductive Replaces : List Char → List Char → Prop
  | nil : Replaces [] []
  | three {rest body : List Char} (hrest : Replaces rest body) :
      Replaces (fence ++ rest) (List.replicate 3 fenceSubstitute ++ body)
  | char {c : Char} {rest body : List Char} (hnone : ¬ fence <+: c :: rest)
      (hrest : Replaces rest body) : Replaces (c :: rest) (c :: body)

theorem replaces_withoutFences (text : List Char) : Replaces text (withoutFences text) := by
  induction text using withoutFences.induct with
  | case1 a b c rest hall ih =>
      obtain ⟨rfl, rfl, rfl⟩ := hall
      exact .three ih
  | case2 a b c rest hnone ih =>
      rw [withoutFences, if_neg hnone]
      refine .char ?_ ih
      rintro ⟨after, heq⟩
      cases heq
      exact hnone ⟨rfl, rfl, rfl⟩
  | case3 text hshort =>
      have hnone {c : Char} {rest : List Char} (hrest : rest.length < 2) : ¬ fence <+: c :: rest := by
        intro hstart
        have hlength := hstart.length_le
        rw [fence, List.length_replicate, List.length_cons] at hlength
        omega
      match text, hshort with
      | [], _ => exact .nil
      | [_], _ => exact .char (hnone Nat.zero_lt_two) .nil
      | [_, _], _ => exact .char (hnone Nat.one_lt_two) (.char (hnone Nat.zero_lt_two) .nil)
      | a :: b :: c :: rest, hshort => exact (hshort a b c rest rfl).elim

section Replaces

variable {text body : List Char}

end Replaces

/-! ### What is shown -/

/-- What a message shows of a transcript, step by step. -/
structure Excerpt where
  /-- The transcript without control sequences. -/
  bare : List Char
  /-- The same without the blanks at its end. -/
  trimmed : List Char
  /-- Its last characters. -/
  shown : List Char
  /-- The same without fences. -/
  body : List Char

structure Excerpt.IsOf (excerpt : Excerpt) (transcript : List Char) : Prop where
  bare : Strips transcript excerpt.bare
  trimmed : Trims excerpt.bare excerpt.trimmed
  shown : excerpt.shown <:+ excerpt.trimmed
  length_shown : excerpt.shown.length = min transcriptLimit excerpt.trimmed.length
  body : Replaces excerpt.shown excerpt.body

/-- What is shown of the transcript of a notification. -/
def excerptOf (notification : Notification) : Excerpt where
  bare := plain notification.output.toList
  trimmed := trimEnd (plain notification.output.toList)
  shown := shownOf notification.output
  body := withoutFences (shownOf notification.output)

theorem eq_lastChars_iff {limit : Nat} {text shown : List Char} :
    shown = lastChars limit text ↔ shown <:+ text ∧ shown.length = min limit text.length := by
  constructor
  · rintro rfl
    refine ⟨List.drop_suffix _ text, ?_⟩
    rw [lastChars, List.length_drop]
    omega
  · rintro ⟨hsuffix, hlength⟩
    rw [List.suffix_iff_eq_drop.mp hsuffix, hlength, lastChars]
    congr 1
    omega

theorem lastChars_eq_nil_iff {limit : Nat} (hlimit : 0 < limit) {text : List Char} :
    lastChars limit text = [] ↔ text = [] := by
  rw [lastChars, List.drop_eq_nil_iff, ← List.length_eq_zero_iff]
  omega

theorem shownOf_suffix (transcript : String) :
    shownOf transcript <:+ trimEnd (plain transcript.toList) ∧
      (shownOf transcript).length =
        min transcriptLimit (trimEnd (plain transcript.toList)).length :=
  eq_lastChars_iff.mp (by rw [shownOf])

/-- Nothing is shown if there are only blanks and control sequences in a transcript. -/
theorem shownOf_eq_nil_iff {transcript : String} :
    shownOf transcript = [] ↔ ∀ c ∈ plain transcript.toList, isBlank c = true := by
  rw [shownOf, lastChars_eq_nil_iff (by decide), trimEnd_eq_nil_iff]

/-! ### Where fences stand -/

section Fences

variable {before text : List Char} {c : Char}

end Fences

/-! ### The message -/

/-- What stands before the title of a notification. -/
def beforeTitle (notification : Notification) : List Char :=
  notification.severity.marker.toList ++ [' ', '[']

/-- What stands before the link of a notification. -/
def beforeLink (notification : Notification) : List Char :=
  beforeTitle notification ++ notification.title.toList ++ [']', '(']

/-- What stands in a block before the fence that closes it. -/
def blockStart (body : List Char) : List Char :=
  '\n' :: fence ++ '\n' :: body ++ ['\n']

section Message

variable (notification : Notification) {before body rest : List Char}

theorem heading_eq :
    heading notification = beforeLink notification ++ notification.link.toList ++ [')'] := by
  simp [heading, beforeLink, beforeTitle]

theorem format_eq :
    format notification = heading notification ++
      if (excerptOf notification).bare.all isBlank then []
      else blockStart (excerptOf notification).body ++ fence := by
  have hnone : shownOf notification.output = [] ↔
      (excerptOf notification).bare.all isBlank = true := by
    rw [shownOf_eq_nil_iff, List.all_eq_true, excerptOf]
  rw [format, block]
  simp only [List.isEmpty_iff, hnone]
  split
  · rfl
  · simp only [blockStart, excerptOf, List.cons_append, List.append_assoc, List.nil_append]

end Message

end BuildHerald.Proofs.FencedBlocks
