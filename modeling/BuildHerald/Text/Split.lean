namespace BuildHerald.Text

/-- The pieces of a text between the characters that satisfy `cut`; never empty. -/
def pieces (cut : Char → Bool) : List Char → List (List Char)
  | [] => [[]]
  | c :: rest =>
      if cut c then [] :: pieces cut rest
      else (pieces cut rest).modifyHead (c :: ·)

/-- The text before and after the first `separator`, if there is one. -/
def splitOnce (separator : Char) : List Char → Option (List Char × List Char)
  | [] => none
  | c :: rest =>
      if c = separator then some ([], rest)
      else (splitOnce separator rest).map fun (before, after) => (c :: before, after)

/-- Whether `part` occurs somewhere in a text. -/
def occursIn (part : List Char) : List Char → Bool
  | [] => part.isEmpty
  | c :: rest => part.isPrefixOf (c :: rest) || occursIn part rest

/-- A text without its final characters that satisfy `p`. -/
def dropEndWhile (p : Char → Bool) (text : List Char) : List Char :=
  (text.reverse.dropWhile p).reverse

theorem splitOnce_append_cons {separator : Char} {before : List Char} (hnone : separator ∉ before)
    (after : List Char) :
    splitOnce separator (before ++ separator :: after) = some (before, after) := by
  induction before with
  | nil => rw [List.nil_append, splitOnce, if_pos rfl]
  | cons c before ih =>
      rw [List.mem_cons, not_or] at hnone
      rw [List.cons_append, splitOnce, if_neg (Ne.symm hnone.1), ih hnone.2]
      rfl

theorem splitOnce_eq_some {separator : Char} {text before after : List Char}
    (hsplit : splitOnce separator text = some (before, after)) :
    text = before ++ separator :: after := by
  induction text generalizing before with
  | nil => cases hsplit
  | cons c rest ih =>
      rw [splitOnce] at hsplit
      split at hsplit
      · next hc =>
          cases hsplit
          rw [hc, List.nil_append]
      · obtain ⟨⟨start, others⟩, hrest, hpair⟩ := Option.map_eq_some_iff.mp hsplit
        cases hpair
        rw [ih hrest, List.cons_append]

theorem not_mem_of_splitOnce {separator : Char} {text before after : List Char}
    (hsplit : splitOnce separator text = some (before, after)) : separator ∉ before := by
  induction text generalizing before with
  | nil => cases hsplit
  | cons c rest ih =>
      rw [splitOnce] at hsplit
      split at hsplit
      · cases hsplit
        exact List.not_mem_nil
      · next hc =>
          obtain ⟨⟨start, others⟩, hrest, hpair⟩ := Option.map_eq_some_iff.mp hsplit
          cases hpair
          rw [List.mem_cons, not_or]
          exact ⟨Ne.symm hc, ih hrest⟩

theorem splitOnce_eq_some_iff {separator : Char} {text before after : List Char} :
    splitOnce separator text = some (before, after) ↔
      text = before ++ separator :: after ∧ separator ∉ before := by
  constructor
  · exact fun hsplit => ⟨splitOnce_eq_some hsplit, not_mem_of_splitOnce hsplit⟩
  · rintro ⟨rfl, hnone⟩
    exact splitOnce_append_cons hnone after

theorem occursIn_iff {part text : List Char} : occursIn part text = true ↔ part <:+: text := by
  induction text with
  | nil => rw [occursIn, List.isEmpty_iff, List.infix_nil]
  | cons c rest ih =>
      rw [occursIn, Bool.or_eq_true, List.isPrefixOf_iff_prefix, ih, List.infix_cons_iff]

/-- What stands before the first separator, or the whole text. -/
theorem takeWhile_eq_splitOnce (separator : Char) (text : List Char) :
    text.takeWhile (· != separator) = ((splitOnce separator text).map Prod.fst).getD text := by
  induction text with
  | nil => rfl
  | cons c rest ih =>
      by_cases hc : c = separator
      · rw [List.takeWhile_cons_of_neg (by simp [hc]), splitOnce, if_pos hc]
        rfl
      · rw [List.takeWhile_cons_of_pos (by simpa using hc), ih, splitOnce, if_neg hc]
        cases splitOnce separator rest <;> rfl

theorem dropEndWhile_cons {p : Char → Bool} {c : Char} (hc : p c = false) (text : List Char) :
    dropEndWhile p (c :: text) = c :: dropEndWhile p text := by
  rw [dropEndWhile, List.reverse_cons, List.dropWhile_append, dropEndWhile]
  split
  · next hempty =>
      rw [List.isEmpty_iff.mp hempty, List.dropWhile_cons_of_neg (by simp [hc])]
      rfl
  · rw [List.reverse_append]
    rfl

theorem dropEndWhile_append_cons {p : Char → Bool} {c : Char} (hc : p c = false)
    (before after : List Char) :
    dropEndWhile p (before ++ c :: after) = before ++ c :: dropEndWhile p after := by
  induction before with
  | nil => exact dropEndWhile_cons hc after
  | cons d before ih =>
      rw [List.cons_append, dropEndWhile, List.reverse_cons, List.dropWhile_append]
      rw [dropEndWhile] at ih
      split
      · next hempty =>
          rw [List.isEmpty_iff.mp hempty] at ih
          simp at ih
      · rw [List.reverse_append, ih]
        rfl

theorem pieces_ne_nil (cut : Char → Bool) (text : List Char) : pieces cut text ≠ [] := by
  induction text with
  | nil => simp [pieces]
  | cons c rest ih =>
      unfold pieces
      split
      · simp
      · cases hpieces : pieces cut rest with
        | nil => exact absurd hpieces ih
        | cons head tail => simp [List.modifyHead]

/-- There is one piece more than there are characters that cut. -/
theorem length_pieces (cut : Char → Bool) (text : List Char) :
    (pieces cut text).length = text.countP cut + 1 := by
  induction text with
  | nil => rfl
  | cons c rest ih =>
      rw [pieces, List.countP_cons]
      split
      · rw [List.length_cons, ih]
      · rw [List.length_modifyHead, ih]

theorem pieces_of_not_mem {cut : Char → Bool} {text : List Char} (hnone : ∀ c ∈ text, cut c = false) :
    pieces cut text = [text] := by
  induction text with
  | nil => rfl
  | cons c rest ih =>
      rw [List.forall_mem_cons] at hnone
      rw [pieces, hnone.1, if_neg Bool.false_ne_true, ih hnone.2]
      rfl

theorem pieces_append_cons {cut : Char → Bool} {text : List Char} {separator : Char}
    (hnone : ∀ c ∈ text, cut c = false) (hcut : cut separator = true) (rest : List Char) :
    pieces cut (text ++ separator :: rest) = text :: pieces cut rest := by
  induction text with
  | nil => rw [List.nil_append, pieces, if_pos hcut]
  | cons c text ih =>
      rw [List.forall_mem_cons] at hnone
      rw [List.cons_append, pieces, hnone.1, if_neg Bool.false_ne_true, ih hnone.2]
      rfl

/-- A piece has only characters of the text that do not cut it. -/
theorem of_mem_pieces {cut : Char → Bool} {text piece : List Char} (hpiece : piece ∈ pieces cut text) :
    ∀ c ∈ piece, c ∈ text ∧ cut c = false := by
  induction text generalizing piece with
  | nil =>
      obtain rfl := List.mem_singleton.mp hpiece
      exact fun _ hmem => absurd hmem List.not_mem_nil
  | cons c rest ih =>
      have hrest {others : List Char} (hothers : others ∈ pieces cut rest) :
          ∀ d ∈ others, d ∈ c :: rest ∧ cut d = false := fun d hd =>
        ⟨List.mem_cons_of_mem _ (ih hothers d hd).1, (ih hothers d hd).2⟩
      rw [pieces] at hpiece
      split at hpiece
      · obtain rfl | hpiece := List.mem_cons.mp hpiece
        · exact fun _ hmem => absurd hmem List.not_mem_nil
        · exact hrest hpiece
      · next hc =>
          cases hpieces : pieces cut rest with
          | nil => exact absurd hpieces (pieces_ne_nil _ rest)
          | cons first others =>
              rw [hpieces, List.modifyHead_cons] at hpiece
              rw [hpieces] at hrest
              obtain rfl | hother := List.mem_cons.mp hpiece
              · exact List.forall_mem_cons.mpr
                  ⟨⟨List.mem_cons_self, Bool.eq_false_iff.mpr hc⟩, hrest List.mem_cons_self⟩
              · exact hrest (List.mem_cons_of_mem _ hother)

/-- Putting the separator back between the pieces gives the text again. -/
theorem intercalate_pieces (separator : Char) (text : List Char) :
    [separator].intercalate (pieces (· == separator) text) = text := by
  induction text with
  | nil => simp [pieces, List.intercalate]
  | cons c rest ih =>
      cases hpieces : pieces (· == separator) rest with
      | nil => exact absurd hpieces (pieces_ne_nil _ rest)
      | cons head tail =>
          rw [hpieces] at ih
          by_cases hc : c = separator
          · subst hc
            rw [show pieces (· == c) (c :: rest) = [] :: head :: tail by simp [pieces, hpieces]]
            rw [← ih]
            simp [List.intercalate]
          · have hcut : (c == separator) = false := by simpa using hc
            rw [show pieces (· == separator) (c :: rest) = (c :: head) :: tail by
              simp [pieces, hpieces, hcut, List.modifyHead]]
            rw [← ih]
            cases tail <;> simp [List.intercalate]

/-- Texts without a separator are the pieces of what they give with separators put between them. -/
theorem pieces_intercalate {separator : Char} {parts : List (List Char)} (hparts : parts ≠ [])
    (hwhole : ∀ part ∈ parts, separator ∉ part) :
    pieces (· == separator) ([separator].intercalate parts) = parts := by
  have hkept {part : List Char} (hpart : separator ∉ part) :
      ∀ c ∈ part, (c == separator) = false := by
    intro c hc
    rw [beq_eq_false_iff_ne]
    rintro rfl
    exact hpart hc
  induction parts with
  | nil => exact absurd rfl hparts
  | cons part parts ih =>
      rw [List.forall_mem_cons] at hwhole
      cases parts with
      | nil => rw [List.intercalate_singleton, pieces_of_not_mem (hkept hwhole.1)]
      | cons next parts =>
          rw [List.intercalate_cons_cons, List.append_assoc, List.singleton_append,
            pieces_append_cons (hkept hwhole.1) (beq_self_eq_true separator),
            ih (List.cons_ne_nil next parts) hwhole.2]

end BuildHerald.Text
