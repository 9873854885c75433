import BuildHerald.Server.Link
import BuildHerald.Text.Blank
import Mathlib.Algebra.Group.Nat.Defs
import Mathlib.Data.Bool.AllAny
import Mathlib.Data.List.Infix

/-!
Which cursor a link header gives.

A header is entries with commas between them, and an entry is an address in angle brackets with
parameters after it. The cursor is that of the first entry that is marked as next and whose address has
one. All that an entry or a pair lacks only moves the search on.
-/

namespace BuildHerald.Proofs.LinkEntries

open BuildHerald.Text
open BuildHerald.Server

/-! ### Numerals -/

/-- The decimal digits of a number, maybe with zeros before them. -/
structure IsDigits (digits : List Char) (n : Nat) : Prop where
  ne_nil : digits ≠ []
  digit : ∀ c ∈ digits, c.isDigit = true
  value : Nat.ofDigitChars 10 digits 0 = n

/-- A number of 64 bits in writing. A plus sign may stand before it. -/
def IsNumeral (text : List Char) (n : Nat) : Prop :=
  n < 2 ^ 64 ∧ (IsDigits text n ∨ ∃ digits, text = '+' :: digits ∧ IsDigits digits n)

theorem digit?_of_isDigit {c : Char} (hc : c.isDigit = true) :
    digit? c = some (c.toNat - '0'.toNat) := by
  refine if_pos ?_
  simpa [Char.isDigit, Char.le_def] using hc

theorem digit?_of_not_isDigit {c : Char} (hc : ¬ c.isDigit = true) : digit? c = none := by
  refine if_neg fun hdigit => hc ?_
  simpa [Char.isDigit, Char.le_def] using hdigit

theorem le_ofDigitChars (digits : List Char) (value : Nat) :
    value ≤ Nat.ofDigitChars 10 digits value := by
  induction digits generalizing value with
  | nil => exact Nat.le_refl value
  | cons c digits ih =>
      rw [Nat.ofDigitChars_cons]
      exact Nat.le_trans (by omega) (ih (10 * value + (c.toNat - '0'.toNat)))

theorem readDigits_eq_ok_iff {bound value n : Nat} {digits : List Char} (hvalue : value < bound) :
    readDigits bound value digits = .ok n ↔
      (∀ c ∈ digits, c.isDigit = true) ∧ Nat.ofDigitChars 10 digits value = n ∧ n < bound := by
  induction digits generalizing value with
  | nil =>
      rw [readDigits, Except.ok.injEq]
      constructor
      · rintro rfl
        exact ⟨List.forall_mem_nil _, rfl, hvalue⟩
      · exact fun hread => hread.2.1
  | cons c digits ih =>
      rw [readDigits, List.forall_mem_cons, Nat.ofDigitChars_cons, Nat.mul_comm 10 value]
      by_cases hc : c.isDigit = true
      · rw [digit?_of_isDigit hc, and_iff_right hc]
        by_cases hnext : value * 10 + (c.toNat - '0'.toNat) < bound
        · simp only [if_pos hnext]
          exact ih hnext
        · simp only [if_neg hnext]
          -- More digits cannot bring the value below the bound again.
          have hgrows := le_ofDigitChars digits (value * 10 + (c.toNat - '0'.toNat))
          constructor
          · rintro ⟨⟩
          · rintro ⟨-, rfl, hlt⟩
            omega
      · rw [digit?_of_not_isDigit hc]
        constructor
        · rintro ⟨⟩
        · exact fun hread => absurd hread.1.1 hc

theorem readNumeral_eq_ok_iff {text : List Char} {n : Nat} :
    readNumeral wordBound text = .ok n ↔ IsNumeral text n := by
  have hbound : 0 < wordBound := by decide
  have hread {digits : List Char} (hne : digits ≠ []) :
      readDigits wordBound 0 digits = .ok n ↔ n < 2 ^ 64 ∧ IsDigits digits n := by
    rw [readDigits_eq_ok_iff hbound]
    constructor
    · rintro ⟨hdigits, hvalue, hlt⟩
      exact ⟨hlt, hne, hdigits, hvalue⟩
    · rintro ⟨hlt, -, hdigits, hvalue⟩
      exact ⟨hdigits, hvalue, hlt⟩
  have hnot_plus {digits : List Char} : ¬ IsDigits ('+' :: digits) n := fun hdigits => by
    have hplus := hdigits.digit '+' List.mem_cons_self
    revert hplus
    decide
  unfold readNumeral IsNumeral
  split
  · constructor
    · rintro ⟨⟩
    · rintro ⟨-, hempty | ⟨digits, hempty, -⟩⟩
      · exact absurd rfl hempty.ne_nil
      · cases hempty
  · constructor
    · rintro ⟨⟩
    · rintro ⟨-, hplus | ⟨digits, hplus, hdigits⟩⟩
      · exact absurd hplus hnot_plus
      · cases hplus
        exact absurd rfl hdigits.ne_nil
  · next digits hne =>
      rw [hread (by rintro rfl; exact hne rfl)]
      simp [hnot_plus]
  · next digits hne hplus hother =>
      rw [hread (by rintro rfl; exact hne rfl)]
      refine and_congr_right fun _ => (or_iff_left ?_).symm
      rintro ⟨digits, rfl, -⟩
      exact hother digits rfl

/-- A number is written with its digits. -/
theorem isNumeral_toString {n : Nat} (hn : n < 2 ^ 64) : IsNumeral (toString n).toList n := by
  refine ⟨hn, .inl ?_⟩
  rw [Nat.toString_eq_repr, Nat.toList_repr]
  exact ⟨Nat.toDigits_ne_nil, fun c hc => Nat.isDigit_of_mem_toDigits (by decide) (by decide) hc,
    Nat.ofDigitChars_ten_toDigits⟩

/-! ### Pairs of a query -/

/-- The pair gives a number as the cursor. -/
def IsSince (pair : List Char) (n : Nat) : Prop :=
  ∃ value, pair = "since=".toList ++ value ∧ IsNumeral value n

/-- The address has a query, and of its pairs the first that gives a cursor gives this one. -/
inductive HasCursor (address : List Char) (n : Nat) : Prop
  | intro {path pair : List Char} {earlier later : List (List Char)} :
      '?' ∉ path → (∀ other ∈ earlier ++ pair :: later, '&' ∉ other) →
        address = path ++ '?' :: ['&'].intercalate (earlier ++ pair :: later) →
          IsSince pair n → (∀ other ∈ earlier, ∀ m, ¬ IsSince other m) → HasCursor address n

/-- What a pair gives as the cursor. -/
def cursorOfPair? (pair : List Char) : Option Nat :=
  match splitOnce '=' pair with
  | some (key, value) =>
      if key = "since".toList then (readNumeral wordBound value).toOption else none
  | none => none

theorem cursorOfQuery?_eq (query : List Char) :
    Link.cursorOfQuery? query = (pieces (· == '&') query).findSome? cursorOfPair? :=
  rfl

theorem toOption_eq_some_iff {ε α : Type} {result : Except ε α} {value : α} :
    result.toOption = some value ↔ result = .ok value := by
  cases result <;> simp [Except.toOption]

theorem cursorOfPair?_eq_some_iff {pair : List Char} {n : Nat} :
    cursorOfPair? pair = some n ↔ IsSince pair n := by
  unfold cursorOfPair? IsSince
  constructor
  · intro hcursor
    split at hcursor
    · next key value hsplit =>
        obtain ⟨hpair, -⟩ := splitOnce_eq_some_iff.mp hsplit
        split at hcursor
        · next hkey =>
            rw [toOption_eq_some_iff, readNumeral_eq_ok_iff] at hcursor
            exact ⟨value, by rw [hpair, hkey]; rfl, hcursor⟩
        · cases hcursor
    · cases hcursor
  · rintro ⟨value, rfl, hvalue⟩
    have hsplit : splitOnce '=' ("since=".toList ++ value) = some ("since".toList, value) :=
      splitOnce_eq_some_iff.mpr ⟨rfl, by decide⟩
    rw [hsplit]
    exact toOption_eq_some_iff.mpr (readNumeral_eq_ok_iff.mpr hvalue)

theorem cursorOfPair?_eq_none_iff {pair : List Char} :
    cursorOfPair? pair = none ↔ ∀ n, ¬ IsSince pair n := by
  simp only [Option.eq_none_iff_forall_ne_some, ne_eq, cursorOfPair?_eq_some_iff]

theorem cursorOfQuery?_eq_some_iff {query : List Char} {n : Nat} :
    Link.cursorOfQuery? query = some n ↔
      ∃ earlier pair later, pieces (· == '&') query = earlier ++ pair :: later ∧
        IsSince pair n ∧ ∀ other ∈ earlier, ∀ m, ¬ IsSince other m := by
  simp only [cursorOfQuery?_eq, List.findSome?_eq_some_iff, cursorOfPair?_eq_some_iff,
    cursorOfPair?_eq_none_iff]

/-- What the query of an address gives as the cursor. -/
def cursorOfAddress? (address : List Char) : Option Nat :=
  (splitOnce '?' address).bind fun parts => Link.cursorOfQuery? parts.2

theorem cursorOfAddress?_eq_some_iff {address : List Char} {n : Nat} :
    cursorOfAddress? address = some n ↔ HasCursor address n := by
  unfold cursorOfAddress?
  rw [Option.bind_eq_some_iff]
  constructor
  · rintro ⟨⟨path, query⟩, hsplit, hcursor⟩
    obtain ⟨rfl, hpath⟩ := splitOnce_eq_some_iff.mp hsplit
    obtain ⟨earlier, pair, later, hpieces, hsince, hnone⟩ := cursorOfQuery?_eq_some_iff.mp hcursor
    have hwhole : ∀ other ∈ earlier ++ pair :: later, '&' ∉ other := by
      rw [← hpieces]
      intro other hother hmem
      exact absurd (of_mem_pieces hother '&' hmem).2 (by decide)
    refine .intro hpath hwhole ?_ hsince hnone
    rw [← hpieces, intercalate_pieces]
  · rintro @⟨path, pair, earlier, later, hpath, hwhole, rfl, hsince, hnone⟩
    refine ⟨(path, _), splitOnce_append_cons hpath _, cursorOfQuery?_eq_some_iff.mpr ?_⟩
    exact ⟨earlier, pair, later, pieces_intercalate (by simp) hwhole, hsince, hnone⟩

/-! ### Entries of a header -/

/-- The mark of an entry for the next page. -/
def mark : List Char :=
  "rel=\"next\"".toList

/-- An entry of a link header. Blank characters may stand before and after it. -/
structure Entry where
  lead : List Char
  address : List Char
  params : List Char
  trail : List Char
  lead_blank : ∀ c ∈ lead, isBlank c = true
  address_plain : ∀ c ∈ address, c ≠ ',' ∧ c ≠ '<' ∧ c ≠ '>' ∧ c ≠ '"'
  params_plain : ∀ c ∈ params, c ≠ ',' ∧ c ≠ '<' ∧ c ≠ '>'
  trail_blank : ∀ c ∈ trail, isBlank c = true

namespace Entry

def text (entry : Entry) : List Char :=
  entry.lead ++ '<' :: (entry.address ++ '>' :: (entry.params ++ entry.trail))

/-- The entry is for the next page. -/
def IsNext (entry : Entry) : Prop :=
  mark <:+: entry.params

/-- The entry gives a cursor of the next page. -/
def Tells (entry : Entry) (n : Nat) : Prop :=
  entry.IsNext ∧ HasCursor entry.address n

theorem cursorOfEntry?_text (entry : Entry) :
    Link.cursorOfEntry? entry.text = cursorOfAddress? entry.address := by
  have hlead : '<' ∉ entry.lead := fun hmem => absurd (entry.lead_blank '<' hmem) (by decide)
  have haddress : '>' ∉ entry.address := fun hmem => (entry.address_plain '>' hmem).2.2.1 rfl
  unfold Link.cursorOfEntry? text
  rw [splitOnce_append_cons hlead]
  change ((splitOnce '>' (entry.address ++ '>' :: (entry.params ++ entry.trail))).bind
    fun parts => cursorOfAddress? parts.1) = _
  rw [splitOnce_append_cons haddress]
  rfl

end Entry

theorem eq_nil_of_prefix_cons {part after : List Char} {c : Char} (hc : c ∉ part)
    (hfirst : part <+: c :: after) : part = [] := by
  cases part with
  | nil => rfl
  | cons d part =>
      obtain ⟨rfl, -⟩ := List.cons_prefix_cons.mp hfirst
      exact absurd List.mem_cons_self hc

/-- What occurs in a text and has not some character occurs before or after that character. -/
theorem infix_append_cons_iff {part before after : List Char} {c : Char} (hc : c ∉ part)
    (hpart : part ≠ []) :
    part <:+: before ++ c :: after ↔ part <:+: before ∨ part <:+: after := by
  constructor
  · rw [List.infix_append_iff, List.infix_cons_iff]
    rintro (hbefore | (hfirst | hafter) | ⟨start, rest, rfl, hstart, hrest⟩)
    · exact .inl hbefore
    · exact absurd (eq_nil_of_prefix_cons hc hfirst) hpart
    · exact .inr hafter
    · rw [List.mem_append, not_or] at hc
      obtain rfl := eq_nil_of_prefix_cons hc.2 hrest
      rw [List.append_nil]
      exact .inl hstart.isInfix
  · rintro (hbefore | hafter)
    · exact hbefore.trans (List.prefix_append _ _).isInfix
    · exact hafter.trans ⟨before ++ [c], [], by simp⟩

theorem not_mark_infix_of_blank {gap : List Char} (hgap : ∀ c ∈ gap, isBlank c = true) :
    ¬ mark <:+: gap := by
  intro hmark
  exact absurd (hgap 'r' (hmark.subset (by decide))) (by decide)

theorem not_mem_mark_of_blank {c : Char} (hblank : isBlank c = true) : c ∉ mark := by
  intro hmem
  have hsolid : ∀ c ∈ mark, isBlank c = false := List.all_iff_forall_prop.mp (by decide)
  rw [hsolid c hmem] at hblank
  cases hblank

/-- The mark can stand nowhere in an entry but in its parameters. -/
theorem Entry.occursIn_mark_iff (entry : Entry) :
    occursIn mark entry.text = true ↔ entry.IsNext := by
  have hmark : mark ≠ [] := by decide
  have hlead := not_mark_infix_of_blank entry.lead_blank
  have haddress : ¬ mark <:+: entry.address := fun hwithin =>
    (entry.address_plain '"' (hwithin.subset (by decide))).2.2.2 rfl
  rw [occursIn_iff, Entry.text, infix_append_cons_iff (by decide) hmark,
    infix_append_cons_iff (by decide) hmark, or_iff_right hlead, or_iff_right haddress]
  have hblank := entry.trail_blank
  unfold Entry.IsNext
  generalize entry.trail = trail at hblank ⊢
  cases trail with
  | nil => rw [List.append_nil]
  | cons c trail =>
      rw [List.forall_mem_cons] at hblank
      rw [infix_append_cons_iff (not_mem_mark_of_blank hblank.1) hmark,
        or_iff_left (not_mark_infix_of_blank hblank.2)]

theorem Entry.comma_not_mem_text (entry : Entry) : ',' ∉ entry.text := by
  simp only [Entry.text, List.mem_append, List.mem_cons, not_or]
  exact ⟨fun hmem => absurd (entry.lead_blank ',' hmem) (by decide), by decide,
    fun hmem => (entry.address_plain ',' hmem).1 rfl, by decide,
    fun hmem => (entry.params_plain ',' hmem).1 rfl,
    fun hmem => absurd (entry.trail_blank ',' hmem) (by decide)⟩

/-- What an entry gives as the cursor. -/
def Entry.cursor? (entry : Entry) : Option Nat :=
  if occursIn mark entry.text then cursorOfAddress? entry.address else none

theorem Entry.cursor?_eq_some_iff {entry : Entry} {n : Nat} :
    entry.cursor? = some n ↔ entry.Tells n := by
  unfold Entry.cursor? Entry.Tells
  rw [← entry.occursIn_mark_iff, ← cursorOfAddress?_eq_some_iff]
  split
  · next hnext => simp [hnext]
  · next hother => simp [hother]

theorem Entry.cursor?_eq_none_iff {entry : Entry} :
    entry.cursor? = none ↔ ∀ n, ¬ entry.Tells n := by
  simp only [Option.eq_none_iff_forall_ne_some, ne_eq, Entry.cursor?_eq_some_iff]

/-! ### Headers -/

/-- The entries in writing, with commas between them. -/
def header (entries : List Entry) : String :=
  String.ofList ([','].intercalate (entries.map Entry.text))

theorem findSome?_cursorOfEntry? (entries : List Entry) :
    ((entries.map Entry.text).filter (occursIn mark)).findSome? Link.cursorOfEntry? =
      entries.findSome? Entry.cursor? := by
  induction entries with
  | nil => rfl
  | cons entry entries ih =>
      rw [List.map_cons, List.filter_cons, List.findSome?_cons, Entry.cursor?, ← ih]
      split
      · rw [List.findSome?_cons, Entry.cursorOfEntry?_text]
      · rfl

theorem pieces_header {entries : List Entry} (hentries : entries ≠ []) :
    pieces (· == ',') (header entries).toList = entries.map Entry.text := by
  rw [header, String.toList_ofList]
  refine pieces_intercalate (by simpa using hentries) ?_
  rw [List.forall_mem_map]
  exact fun entry _ => entry.comma_not_mem_text

theorem nextCursor?_header (entries : List Entry) :
    Link.nextCursor? (header entries) = entries.findSome? Entry.cursor? := by
  by_cases hnone : entries = []
  · rw [hnone]
    rfl
  · rw [← findSome?_cursorOfEntry?, ← pieces_header hnone]
    rfl

theorem nextCursor?_eq_some_iff {entries : List Entry} {n : Nat} :
    Link.nextCursor? (header entries) = some n ↔
      ∃ before entry after, entries = before ++ entry :: after ∧ entry.Tells n ∧
        ∀ other ∈ before, ∀ m, ¬ other.Tells m := by
  simp only [nextCursor?_header, List.findSome?_eq_some_iff, Entry.cursor?_eq_some_iff,
    Entry.cursor?_eq_none_iff]

theorem nextCursor?_eq_none_iff {entries : List Entry} :
    Link.nextCursor? (header entries) = none ↔ ∀ entry ∈ entries, ∀ n, ¬ entry.Tells n := by
  simp only [nextCursor?_header, List.findSome?_eq_none_iff, Entry.cursor?_eq_none_iff]

/-- The pair that gives a cursor. -/
def sincePair (n : Nat) : List Char :=
  "since=".toList ++ (toString n).toList

theorem isSince_sincePair {n : Nat} (hn : n < 2 ^ 64) : IsSince (sincePair n) n :=
  ⟨_, rfl, isNumeral_toString hn⟩

theorem ampersand_not_mem_sincePair (n : Nat) : '&' ∉ sincePair n := by
  change '&' ∉ "since=".toList ++ (toString n).toList
  rw [List.mem_append, not_or, Nat.toString_eq_repr, Nat.toList_repr]
  refine ⟨by decide, fun hmem => ?_⟩
  exact absurd (Nat.isDigit_of_mem_toDigits (by decide) (by decide) hmem) (by decide)

/-- The entry is for the next page, and its address has this cursor written in its query. The pairs before
it give none, also if they look alike. -/
structure Entry.Carries (entry : Entry) (n : Nat) : Prop where
  next : entry.IsNext
  query : ∃ path earlier later, '?' ∉ path ∧
    (∀ other ∈ earlier ++ later, '&' ∉ other) ∧
    (∀ other ∈ earlier, ∀ m, ¬ IsSince other m) ∧
    entry.address = path ++ '?' :: ['&'].intercalate (earlier ++ sincePair n :: later)

theorem Entry.tells_of_carries {entry : Entry} {n : Nat} (hn : n < 2 ^ 64)
    (hcarries : entry.Carries n) : entry.Tells n := by
  obtain ⟨path, earlier, later, hpath, hwhole, hnone, haddress⟩ := hcarries.query
  refine ⟨hcarries.next, .intro hpath ?_ haddress (isSince_sincePair hn) hnone⟩
  rw [List.forall_mem_append] at hwhole
  rw [List.forall_mem_append, List.forall_mem_cons]
  exact ⟨hwhole.1, ampersand_not_mem_sincePair n, hwhole.2⟩

/-- A header gives the cursor of its first entry for the next page that has one, and none if no entry has
one. So a cursor that is written into a header is read out of it again. -/
theorem next_cursor_read (entries : List Entry) :
    (∀ n, Link.nextCursor? (header entries) = some n ↔
      ∃ before entry after, entries = before ++ entry :: after ∧ entry.Tells n ∧
        ∀ other ∈ before, ∀ m, ¬ other.Tells m) ∧
    (Link.nextCursor? (header entries) = none ↔ ∀ entry ∈ entries, ∀ n, ¬ entry.Tells n) ∧
    ∀ n before entry after, entries = before ++ entry :: after → n < 2 ^ 64 → entry.Carries n →
      (∀ other ∈ before, ¬ other.IsNext) → Link.nextCursor? (header entries) = some n := by
  refine ⟨fun n => nextCursor?_eq_some_iff, nextCursor?_eq_none_iff, ?_⟩
  intro n before entry after hentries hn hcarries hbefore
  refine nextCursor?_eq_some_iff.mpr ⟨before, entry, after, hentries, ?_, ?_⟩
  · exact Entry.tells_of_carries hn hcarries
  · exact fun other hother m htells => hbefore other hother htells.1

/-- An entry for the page before this one. -/
def previousEntry : Entry where
  lead := []
  address := "http://ci/api/v1/builds?until=9&limit=2".toList
  params := "; rel=\"previous\"".toList
  trail := [' ']
  lead_blank := List.all_eq_true.mp (by decide)
  address_plain := List.all_iff_forall_prop.mp (by decide)
  params_plain := List.all_iff_forall_prop.mp (by decide)
  trail_blank := List.all_eq_true.mp (by decide)

/-- An entry for the next page, with a number before its cursor that is too large. -/
def nextEntry : Entry where
  lead := [' ', '\t']
  address := "http://ci/api/v1/builds?since=18446744073709551616&since=41&limit=2".toList
  params := "; title=\"2\"; rel=\"next\"".toList
  trail := []
  lead_blank := List.all_eq_true.mp (by decide)
  address_plain := List.all_iff_forall_prop.mp (by decide)
  params_plain := List.all_iff_forall_prop.mp (by decide)
  trail_blank := List.all_eq_true.mp (by decide)

theorem nextEntry_carries : nextEntry.Carries 41 where
  next := ⟨"; title=\"2\"; ".toList, [], by decide⟩
  query := by
    refine ⟨"http://ci/api/v1/builds".toList, ["since=18446744073709551616".toList],
      ["limit=2".toList], by decide, by decide, ?_, by decide⟩
    rw [List.forall_mem_singleton]
    exact cursorOfPair?_eq_none_iff.mp (by decide +kernel)

theorem nextEntry_read :
    nextEntry.Carries 41 ∧ ¬ previousEntry.IsNext ∧
      Link.nextCursor? (header [previousEntry, nextEntry]) = some 41 := by
  have hprevious : ∀ other ∈ [previousEntry], ¬ other.IsNext := by
    rw [List.forall_mem_singleton, ← Entry.occursIn_mark_iff]
    decide
  refine ⟨nextEntry_carries, hprevious _ List.mem_cons_self, ?_⟩
  exact (next_cursor_read [previousEntry, nextEntry]).2.2 41 [previousEntry] nextEntry [] rfl
    (by decide) nextEntry_carries hprevious

end BuildHerald.Proofs.LinkEntries
