import BuildHerald.Telegram.Portions
import Mathlib.Data.List.TakeWhile

/-!
What is kept of a text that is sent in portions.

Portions are cut off one by one, and between two of them blanks are dropped. The cuts are described
here without a bound on their number. With room for any one character in a portion there are finitely
many of them, and they are those that the bot makes.
-/

namespace BuildHerald.Proofs.Portioning

open BuildHerald.Telegram
open BuildHerald.Telegram.Portions

/-! ### Sizes -/

theorem size_append (first second : List Char) :
    size (first ++ second) = size first + size second := by
  induction first with
  | nil => simp [size]
  | cons c rest ih => simp only [List.cons_append, size, ih, Nat.add_assoc]

/-- The size of a text is the number of bytes of its UTF-8 form. -/
theorem size_eq_utf8ByteSize (text : List Char) :
    size text = (String.ofList text).utf8ByteSize := by
  induction text with
  | nil => rfl
  | cons c rest ih =>
      rw [show c :: rest = [c] ++ rest from rfl, String.ofList_append, String.utf8ByteSize_append,
        ← ih, size_append]
      simp [size]

/-! ### The longest start that fits -/

/-- `start` is the longest start of a text that takes up at most `limit` bytes. -/
structure LongestStart (limit : Nat) (text start : List Char) : Prop where
  starts : start <+: text
  fits : size start ≤ limit
  longest : ∀ other, other <+: text → size other ≤ limit → other <+: start

theorem fitting_append (limit : Nat) (text : List Char) :
    (fitting limit text).1 ++ (fitting limit text).2 = text := by
  induction text generalizing limit with
  | nil => rfl
  | cons c rest ih =>
      unfold fitting
      split
      · simpa using ih (limit - c.utf8Size)
      · rfl

theorem longestStart_fitting (limit : Nat) (text : List Char) :
    LongestStart limit text (fitting limit text).1 := by
  refine ⟨⟨_, fitting_append limit text⟩, ?_, ?_⟩
  · induction text generalizing limit with
    | nil => exact Nat.zero_le limit
    | cons c rest ih =>
        unfold fitting
        split
        · have hrest := ih (limit - c.utf8Size)
          simp only [size]
          omega
        · exact Nat.zero_le limit
  · induction text generalizing limit with
    | nil => exact fun other hother _ => hother
    | cons c rest ih =>
        rintro other ⟨after, hother⟩ hfits
        cases other with
        | nil => exact List.nil_prefix
        | cons d others =>
            obtain ⟨rfl, hrest⟩ := List.cons.inj hother
            simp only [size] at hfits
            unfold fitting
            rw [if_pos (by omega)]
            simpa using ih (limit - d.utf8Size) others ⟨after, hrest⟩ (by omega)

theorem LongestStart.eq {limit : Nat} {text start other : List Char}
    (hstart : LongestStart limit text start) (hother : LongestStart limit text other) :
    start = other := by
  have hle := hother.longest start hstart.starts hstart.fits
  have hge := hstart.longest other hother.starts hother.fits
  exact hle.eq_of_length (Nat.le_antisymm hle.length_le hge.length_le)

/-- Where any character has room, the start of a text that is not empty is not empty. -/
theorem LongestStart.ne_nil {limit : Nat} {text start : List Char} (hlimit : 4 ≤ limit)
    (hstart : LongestStart limit text start) (htext : text ≠ []) : start ≠ [] := by
  obtain ⟨c, rest, rfl⟩ := List.exists_cons_of_ne_nil htext
  have hroom : size [c] ≤ limit := Nat.le_trans c.utf8Size_le_four hlimit
  have hc : [c] <+: start := hstart.longest [c] ⟨rest, rfl⟩ hroom
  rintro rfl
  exact absurd (List.prefix_nil.mp hc) (List.cons_ne_nil c [])

/-! ### The cut -/

/-- `before` is what stands before the last `sign` of a text. -/
def StandsBefore (sign : Char) (text before : List Char) : Prop :=
  ∃ after, text = before ++ sign :: after ∧ sign ∉ after

/-- Where a start that fits is best cut: at its last line end, or else at its last space, or else not
at all. -/
inductive Breaks (start : List Char) : List Char → Prop
  | line {before : List Char} : StandsBefore '\n' start before → Breaks start before
  | word {before : List Char} :
      '\n' ∉ start → StandsBefore ' ' start before → Breaks start before
  | nowhere : '\n' ∉ start → ' ' ∉ start → Breaks start start

/-- The portion to send: all of a start that fits, if nothing stands before the cut. -/
def portionOf (start before : List Char) : List Char :=
  if before = [] then start else before

theorem findIdx?_reverse_of_not_mem {sign : Char} {text : List Char} (hsign : sign ∉ text) :
    text.reverse.findIdx? (· == sign) = none := by
  rw [List.findIdx?_eq_none_iff]
  intro c hc
  rw [beq_eq_false_iff_ne]
  rintro rfl
  exact hsign (List.mem_reverse.mp hc)

theorem lastIndex?_of_standsBefore {sign : Char} {text before : List Char}
    (hbefore : StandsBefore sign text before) : lastIndex? sign text = some before.length := by
  obtain ⟨after, rfl, hafter⟩ := hbefore
  rw [lastIndex?, List.reverse_append, List.reverse_cons, List.append_assoc, List.findIdx?_append,
    findIdx?_reverse_of_not_mem hafter]
  simp [List.findIdx?_cons]

theorem lastIndex?_of_not_mem {sign : Char} {text : List Char} (hsign : sign ∉ text) :
    lastIndex? sign text = none := by
  rw [lastIndex?, findIdx?_reverse_of_not_mem hsign, Option.map_none]

theorem exists_standsBefore {sign : Char} {text : List Char} (hsign : sign ∈ text) :
    ∃ before, StandsBefore sign text before := by
  obtain ⟨after, before, hreverse, hafter⟩ :=
    List.eq_append_cons_of_mem (List.mem_reverse.mpr hsign)
  refine ⟨before.reverse, after.reverse, ?_, fun hmem => hafter (List.mem_reverse.mp hmem)⟩
  rw [← List.reverse_reverse text, hreverse]
  simp

theorem exists_breaks (start : List Char) : ∃ before, Breaks start before := by
  by_cases hline : '\n' ∈ start
  · obtain ⟨before, hbefore⟩ := exists_standsBefore hline
    exact ⟨before, .line hbefore⟩
  · by_cases hspace : ' ' ∈ start
    · obtain ⟨before, hbefore⟩ := exists_standsBefore hspace
      exact ⟨before, .word hline hbefore⟩
    · exact ⟨start, .nowhere hline hspace⟩

theorem Breaks.starts {start before : List Char} (hbreaks : Breaks start before) :
    before <+: start := by
  cases hbreaks with
  | line hbefore =>
      obtain ⟨after, rfl, -⟩ := hbefore
      exact List.prefix_append _ _
  | word _ hbefore =>
      obtain ⟨after, rfl, -⟩ := hbefore
      exact List.prefix_append _ _
  | nowhere => exact List.prefix_refl start

theorem portionOf_starts {start before : List Char} (hbreaks : Breaks start before) :
    portionOf start before <+: start := by
  unfold portionOf
  split
  · exact List.prefix_refl start
  · exact hbreaks.starts

theorem portionOf_ne_nil {start : List Char} (before : List Char) (hstart : start ≠ []) :
    portionOf start before ≠ [] := by
  unfold portionOf
  split
  · exact hstart
  · assumption

theorem breakAt_of_index {start before : List Char} (hstart : start ≠ [])
    (hindex : (lastIndex? '\n' start <|> lastIndex? ' ' start) = some before.length) :
    breakAt start = (portionOf start before).length := by
  have hpos : 0 < start.length := List.length_pos_iff.mpr hstart
  unfold breakAt portionOf
  rw [hindex]
  cases before with
  | nil => simp only [List.length_nil, if_true]; omega
  | cons c rest => simp

/-- The bot cuts where a start that fits is best cut. -/
theorem breakAt_of_breaks {start before : List Char} (hstart : start ≠ [])
    (hbreaks : Breaks start before) : breakAt start = (portionOf start before).length := by
  cases hbreaks with
  | line hbefore =>
      apply breakAt_of_index hstart
      rw [lastIndex?_of_standsBefore hbefore]
      rfl
  | word hline hbefore =>
      apply breakAt_of_index hstart
      rw [lastIndex?_of_not_mem hline, lastIndex?_of_standsBefore hbefore]
      rfl
  | nowhere hline hspace =>
      have hpos : 0 < start.length := List.length_pos_iff.mpr hstart
      unfold breakAt portionOf
      rw [lastIndex?_of_not_mem hline, lastIndex?_of_not_mem hspace, if_neg hstart]
      change max start.length 1 = start.length
      omega

/-! ### Cut after cut -/

/-- The course of portioning what is left of a text. Nothing in a cut itself sees to it that
something is cut off. -/
inductive Splits (limit : Nat) : List Char → List (List Char) → Prop
  | finished : Splits limit [] []
  | last {text : List Char} : text ≠ [] → size text ≤ limit → Splits limit text [text]
  | cut {text start before : List Char} {portions : List (List Char)} :
      limit < size text → LongestStart limit text start → Breaks start before →
        Splits limit (leftOver (portionOf start before).length text) portions →
          Splits limit text (portionOf start before :: portions)

/-- The course of portioning a text: one that fits is left as it is. -/
def Portioned (limit : Nat) (text : List Char) (portions : List (List Char)) : Prop :=
  if size text ≤ limit then portions = [text] else Splits limit text portions

/-- The portions that the bot makes of what is left. -/
def portionsLeft (limit : Nat) (text : List Char) : List (List Char) :=
  if text = [] then [] else ofText limit text

theorem ne_nil_of_size {limit : Nat} {text : List Char} (hlong : limit < size text) :
    text ≠ [] := by
  rintro rfl
  exact Nat.not_lt_zero limit hlong

theorem ofText_of_fits {limit : Nat} {text : List Char} (hfits : size text ≤ limit) :
    ofText limit text = [text] := by
  rw [ofText, dif_pos hfits]

theorem ofText_ne_nil (limit : Nat) (text : List Char) : ofText limit text ≠ [] := by
  rw [ofText]
  split
  · exact List.cons_ne_nil text []
  · dsimp only
    split
    · exact List.cons_ne_nil _ []
    · exact List.cons_ne_nil _ _

theorem ofText_of_cut {limit : Nat} {text start before : List Char} (hlimit : 4 ≤ limit)
    (hlong : limit < size text) (hstart : LongestStart limit text start)
    (hbreaks : Breaks start before) :
    ofText limit text = portionOf start before ::
      portionsLeft limit (leftOver (portionOf start before).length text) := by
  have hcount := breakAt_of_breaks (hstart.ne_nil hlimit (ne_nil_of_size hlong)) hbreaks
  have htake : text.take (portionOf start before).length = portionOf start before :=
    (List.prefix_iff_eq_take.mp ((portionOf_starts hbreaks).trans hstart.starts)).symm
  rw [ofText, dif_neg (Nat.not_le.mpr hlong), (longestStart_fitting limit text).eq hstart, hcount]
  simp only [htake, portionsLeft, List.isEmpty_iff]
  split
  · rfl
  · rfl

/-- There is one course of portioning what is left, and it comes to an end. -/
theorem splits_iff {limit : Nat} (hlimit : 4 ≤ limit) {text : List Char}
    {portions : List (List Char)} :
    Splits limit text portions ↔ portions = portionsLeft limit text := by
  induction hlength : text.length using Nat.strongRecOn generalizing text portions with
  | ind length ih =>
      have hrest : ∀ {start before others}, limit < size text → LongestStart limit text start →
          (Splits limit (leftOver (portionOf start before).length text) others ↔
            others = portionsLeft limit (leftOver (portionOf start before).length text)) := by
        intro start before others hlong hstart
        have htext := ne_nil_of_size hlong
        have hpos := List.length_pos_iff.mpr
          (portionOf_ne_nil before (hstart.ne_nil hlimit htext))
        exact ih _ (hlength ▸ length_leftOver_lt hpos htext) rfl
      constructor
      · intro hsplits
        cases hsplits with
        | finished => rfl
        | last htext hfits => rw [portionsLeft, if_neg htext, ofText_of_fits hfits]
        | cut hlong hstart hbreaks hothers =>
            rw [portionsLeft, if_neg (ne_nil_of_size hlong),
              ofText_of_cut hlimit hlong hstart hbreaks, ← (hrest hlong hstart).mp hothers]
      · rintro rfl
        rcases Nat.lt_or_ge limit (size text) with hlong | hfits
        · have hstart := longestStart_fitting limit text
          obtain ⟨before, hbreaks⟩ := exists_breaks (fitting limit text).1
          rw [portionsLeft, if_neg (ne_nil_of_size hlong),
            ofText_of_cut hlimit hlong hstart hbreaks]
          exact .cut hlong hstart hbreaks ((hrest hlong hstart).mpr rfl)
        · unfold portionsLeft
          split
          · next hnone =>
              rw [hnone]
              exact .finished
          · next htext =>
              rw [ofText_of_fits hfits]
              exact .last htext hfits

theorem portioned_iff {limit : Nat} (hlimit : 4 ≤ limit) {text : List Char}
    {portions : List (List Char)} :
    Portioned limit text portions ↔ portions = ofText limit text := by
  unfold Portioned
  split
  · next hfits => rw [ofText_of_fits hfits]
  · next hlong =>
      rw [splits_iff hlimit, portionsLeft, if_neg (ne_nil_of_size (Nat.not_le.mp hlong))]

/-! ### What the portions keep -/

section Splits

variable {limit : Nat} {text : List Char} {portions : List (List Char)}

theorem fits_of_splits (hsplits : Splits limit text portions) :
    ∀ portion ∈ portions, size portion ≤ limit := by
  induction hsplits with
  | finished => exact List.forall_mem_nil _
  | last _ hfits => exact List.forall_mem_singleton.mpr hfits
  | cut _ hstart hbreaks _ ih =>
      refine List.forall_mem_cons.mpr ⟨?_, ih⟩
      obtain ⟨after, hafter⟩ := portionOf_starts hbreaks
      have hfits := hstart.fits
      rw [← hafter, size_append] at hfits
      omega

theorem ne_nil_of_splits (hlimit : 4 ≤ limit) (hsplits : Splits limit text portions) :
    ∀ portion ∈ portions, portion ≠ [] := by
  induction hsplits with
  | finished => exact List.forall_mem_nil _
  | last htext _ => exact List.forall_mem_singleton.mpr htext
  | cut hlong hstart _ _ ih =>
      refine List.forall_mem_cons.mpr ⟨?_, ih⟩
      exact portionOf_ne_nil _ (hstart.ne_nil hlimit (ne_nil_of_size hlong))

/-- A text is its portions with a gap after each of them. -/
def Joined (portions gaps : List (List Char)) : List Char :=
  (List.zipWith (· ++ ·) portions gaps).flatten

theorem joined_cons (portion gap : List Char) (portions gaps : List (List Char)) :
    Joined (portion :: portions) (gap :: gaps) = portion ++ gap ++ Joined portions gaps :=
  rfl

theorem exists_gap {text portion : List Char} (hstarts : portion <+: text) :
    ∃ gap, (∀ c ∈ gap, Text.isBlank c = true) ∧
      text = portion ++ (gap ++ leftOver portion.length text) := by
  refine ⟨(text.drop portion.length).takeWhile Text.isBlank,
    fun _ hmem => List.mem_takeWhile_imp hmem, ?_⟩
  rw [leftOver, Text.trimStart, List.takeWhile_append_dropWhile]
  exact (List.prefix_iff_eq_append.mp hstarts).symm

theorem exists_gaps_singleton (text : List Char) :
    ∃ gaps, gaps.length = [text].length ∧
      (∀ gap ∈ gaps, ∀ c ∈ gap, Text.isBlank c = true) ∧ text = Joined [text] gaps :=
  ⟨[[]], rfl, List.forall_mem_singleton.mpr (List.forall_mem_nil _), by simp [Joined]⟩

theorem joined_of_splits (hsplits : Splits limit text portions) :
    ∃ gaps, gaps.length = portions.length ∧
      (∀ gap ∈ gaps, ∀ c ∈ gap, Text.isBlank c = true) ∧ text = Joined portions gaps := by
  induction hsplits with
  | finished => exact ⟨[], rfl, List.forall_mem_nil _, rfl⟩
  | @last text _ _ => exact exists_gaps_singleton text
  | @cut text start before portions _ hstart hbreaks _ ih =>
      obtain ⟨gaps, hlength, hblank, hjoined⟩ := ih
      obtain ⟨gap, hgapBlank, htext⟩ :=
        exists_gap ((portionOf_starts hbreaks).trans hstart.starts)
      refine ⟨gap :: gaps, congrArg Nat.succ hlength,
        List.forall_mem_cons.mpr ⟨hgapBlank, hblank⟩, ?_⟩
      rw [joined_cons, ← hjoined, List.append_assoc]
      exact htext

/-- What is left after a portion does not begin with a blank, and so no later portion does. -/
theorem shows_of_splits (hlimit : 4 ≤ limit) (hsplits : Splits limit text portions)
    (htext : ∀ c ∈ text.head?, Text.isBlank c = false) :
    ∀ portion ∈ portions, ∃ c ∈ portion, Text.isBlank c = false := by
  induction hsplits with
  | finished => exact List.forall_mem_nil _
  | last hne _ =>
      obtain ⟨c, rest, rfl⟩ := List.exists_cons_of_ne_nil hne
      exact List.forall_mem_singleton.mpr ⟨c, List.mem_cons_self, htext c rfl⟩
  | @cut text start before portions hlong hstart hbreaks _ ih =>
      have hrest : ∀ c ∈ (leftOver (portionOf start before).length text).head?,
          Text.isBlank c = false := by
        intro c hc
        have hnot := List.head?_dropWhile_not Text.isBlank
          (text.drop (portionOf start before).length)
        rwa [show (List.dropWhile Text.isBlank
          (text.drop (portionOf start before).length)).head? = some c from hc] at hnot
      have hne := portionOf_ne_nil before (hstart.ne_nil hlimit (ne_nil_of_size hlong))
      obtain ⟨c, rest, hcons⟩ := List.exists_cons_of_ne_nil hne
      obtain ⟨after, hafter⟩ := (portionOf_starts hbreaks).trans hstart.starts
      refine List.forall_mem_cons.mpr ⟨⟨c, ?_, htext c ?_⟩, ih hrest⟩
      · rw [hcons]
        exact List.mem_cons_self
      · rw [← hafter, hcons]
        rfl

theorem filter_joined {gaps : List (List Char)} (hlength : gaps.length = portions.length)
    (hblank : ∀ gap ∈ gaps, ∀ c ∈ gap, Text.isBlank c = true) :
    (Joined portions gaps).filter (fun c => !Text.isBlank c) =
      portions.flatten.filter fun c => !Text.isBlank c := by
  induction portions generalizing gaps with
  | nil => rfl
  | cons portion portions ih =>
      obtain ⟨gap, others, rfl⟩ := List.exists_cons_of_length_eq_add_one hlength
      have hgap : gap.filter (fun c => !Text.isBlank c) = [] := by
        rw [List.filter_eq_nil_iff]
        intro c hc
        simp [hblank gap List.mem_cons_self c hc]
      have hothers := ih (Nat.succ.inj hlength) fun other hother =>
        hblank other (List.mem_cons_of_mem gap hother)
      rw [joined_cons, List.filter_append, List.filter_append, hgap, List.append_nil, hothers,
        List.flatten_cons, List.filter_append]

end Splits

/-- The portions of a text fit, and but for dropped blanks they are the text. -/
structure Keeps (limit : Nat) (text : List Char) (portions : List (List Char)) : Prop where
  bounded : ∀ portion ∈ portions, (String.ofList portion).utf8ByteSize ≤ limit
  nonempty : text ≠ [] → ∀ portion ∈ portions, portion ≠ []
  joined : ∃ gaps, gaps.length = portions.length ∧
    (∀ gap ∈ gaps, ∀ c ∈ gap, Text.isBlank c = true) ∧ text = Joined portions gaps
  filter_eq : text.filter (fun c => !Text.isBlank c) =
    portions.flatten.filter fun c => !Text.isBlank c
  whole : (String.ofList text).utf8ByteSize ≤ limit → portions = [text]
  shows : (∃ c ∈ text.head?, Text.isBlank c = false) →
    ∀ portion ∈ portions, ∃ c ∈ portion, Text.isBlank c = false

theorem keeps_of_fits {limit : Nat} {text : List Char} (hfits : size text ≤ limit) :
    Keeps limit text [text] := by
  refine ⟨?_, fun htext => List.forall_mem_singleton.mpr htext, exists_gaps_singleton text, ?_,
    fun _ => rfl, ?_⟩
  · rw [List.forall_mem_singleton, ← size_eq_utf8ByteSize]
    exact hfits
  · rw [List.flatten_singleton]
  · rintro ⟨c, hc, hshown⟩
    exact List.forall_mem_singleton.mpr ⟨c, List.mem_of_mem_head? hc, hshown⟩

theorem keeps_of_splits {limit : Nat} (hlimit : 4 ≤ limit) {text : List Char}
    {portions : List (List Char)} (hlong : limit < size text)
    (hsplits : Splits limit text portions) : Keeps limit text portions := by
  obtain ⟨gaps, hlength, hblank, hjoined⟩ := joined_of_splits hsplits
  refine ⟨?_, fun _ => ne_nil_of_splits hlimit hsplits, ⟨gaps, hlength, hblank, hjoined⟩, ?_, ?_, ?_⟩
  · intro portion hmem
    rw [← size_eq_utf8ByteSize]
    exact fits_of_splits hsplits portion hmem
  · rw [hjoined]
    exact filter_joined hlength hblank
  · rw [← size_eq_utf8ByteSize]
    exact fun hfits => absurd hlong (Nat.not_lt.mpr hfits)
  · rintro ⟨c, hc, hshown⟩
    apply shows_of_splits hlimit hsplits
    intro d hd
    rwa [Option.mem_unique hd hc]

/-- Portioning a text ends, and loses nothing of it but blanks. -/
theorem portions_keep_text {limit : Nat} (hlimit : 4 ≤ limit) (text : List Char) :
    (∀ portions, Portioned limit text portions ↔ portions = ofText limit text) ∧
      Keeps limit text (ofText limit text) := by
  refine ⟨fun portions => portioned_iff hlimit, ?_⟩
  have hportioned : Portioned limit text (ofText limit text) := (portioned_iff hlimit).mpr rfl
  unfold Portioned at hportioned
  split at hportioned
  · next hfits =>
      rw [hportioned]
      exact keeps_of_fits hfits
  · next hlong => exact keeps_of_splits hlimit (Nat.not_le.mp hlong) hportioned

/-- A line end, a space and characters of several bytes. -/
def mixedText : List Char :=
  "ab \n  cdé é😀😀😀".toList

theorem mixedText_portioned :
    4 ≤ 8 ∧ ofText 8 mixedText = ["ab ".toList, "cdé".toList, "é😀".toList, "😀😀".toList] ∧
      Keeps 8 mixedText (ofText 8 mixedText) :=
  ⟨by decide, by decide +kernel, (portions_keep_text (by decide) mixedText).2⟩

end BuildHerald.Proofs.Portioning
