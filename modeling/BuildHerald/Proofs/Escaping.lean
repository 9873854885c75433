import BuildHerald.Http.Escape
import BuildHerald.Proofs.EncodedText

/-!
What is left of a text when it is escaped and read back.

Escaping does not touch percent signs, so a text is read back as if it had not been escaped: it comes
back as it is unless two hexadecimal digits follow a percent sign in it.
-/

namespace BuildHerald.Proofs.Escaping

open BuildHerald.Http
open BuildHerald.Text
open BuildHerald.Proofs.EncodedText

/-! ### Bytes -/

theorem unescape_cons {b : UInt8} (hb : b ≠ 0x25) (rest : List UInt8) :
    unescape (b :: rest) = b :: unescape rest := by
  rw [unescape]
  intro _ _ _ hpercent
  exact absurd hpercent hb

theorem unescape_append {bytes : List UInt8} (hbytes : 0x25 ∉ bytes) (rest : List UInt8) :
    unescape (bytes ++ rest) = bytes ++ unescape rest := by
  induction bytes with
  | nil => rfl
  | cons b bytes ih =>
      rw [List.mem_cons, not_or] at hbytes
      rw [List.cons_append, unescape_cons (Ne.symm hbytes.1), ih hbytes.2, List.cons_append]

/-- The bytes come back as they are, or some of them are lost. -/
theorem unescape_eq_or (bytes : List UInt8) :
    unescape bytes = bytes ∨ (unescape bytes).length < bytes.length := by
  fun_induction unescape bytes with
  | case1 high low rest h l hhigh hlow ih =>
      right
      obtain ih | ih := ih
      · simp [ih]
      · simp only [List.length_cons]
        omega
  | case2 high low rest hnone ih =>
      obtain ih | ih := ih
      · exact .inl (by rw [ih])
      · exact .inr (by simpa using ih)
  | case3 b rest hb ih =>
      obtain ih | ih := ih
      · exact .inl (by rw [ih])
      · exact .inr (by simpa using ih)
  | case4 => exact .inl rfl

theorem length_unescape_le (bytes : List UInt8) : (unescape bytes).length ≤ bytes.length := by
  obtain heq | hlt := unescape_eq_or bytes
  · exact Nat.le_of_eq (congrArg List.length heq)
  · exact Nat.le_of_lt hlt

theorem unescape_percent_of_some {high low : UInt8} {h l : Nat} (hhigh : hexValue? high = some h)
    (hlow : hexValue? low = some l) (rest : List UInt8) :
    unescape (0x25 :: high :: low :: rest) = UInt8.ofNat (h * 16 + l) :: unescape rest := by
  rw [unescape, hhigh, hlow]

/-- A percent sign stands for itself unless two hexadecimal digits follow it. -/
theorem unescape_percent_of_none {bytes : List UInt8}
    (hnone : ∀ high low rest, bytes = high :: low :: rest →
      hexValue? high = none ∨ hexValue? low = none) :
    unescape (0x25 :: bytes) = 0x25 :: unescape bytes := by
  match bytes with
  | [] => rfl
  | [b] => rfl
  | high :: low :: rest =>
      rw [unescape]
      obtain hhigh | hlow := hnone high low rest rfl
      · rw [hhigh]
      · rw [hlow]
        cases hexValue? high <;> rfl

theorem hexDigit_read : ∀ n < 16,
    String.utf8EncodeChar (hexDigit n) = [UInt8.ofNat (hexDigit n).toNat] ∧
      hexValue? (UInt8.ofNat (hexDigit n).toNat) = some n := by
  decide

theorem unescape_escapeByte (b : UInt8) (rest : List UInt8) :
    unescape (Utf8.encode (escapeByte b) ++ rest) = b :: unescape rest := by
  have hlt := b.toNat_lt
  obtain ⟨hhigh, hhigh'⟩ := hexDigit_read (b.toNat / 16) (by omega)
  obtain ⟨hlow, hlow'⟩ := hexDigit_read (b.toNat % 16) (by omega)
  have hbytes : Utf8.encode (escapeByte b) =
      [0x25, UInt8.ofNat (hexDigit (b.toNat / 16)).toNat,
        UInt8.ofNat (hexDigit (b.toNat % 16)).toNat] := by
    rw [escapeByte, encode_cons, encode_cons, encode_cons, hhigh, hlow]
    rfl
  have hvalue : UInt8.ofNat (b.toNat / 16 * 16 + b.toNat % 16) = b := by
    rw [Nat.div_add_mod', UInt8.ofNat_toNat]
  rw [hbytes]
  change unescape (0x25 :: _ :: _ :: rest) = _
  rw [unescape_percent_of_some hhigh' hlow', hvalue]

theorem unescape_escapeBytes (bytes rest : List UInt8) :
    unescape (Utf8.encode (bytes.flatMap escapeByte) ++ rest) = bytes ++ unescape rest := by
  induction bytes with
  | nil => rfl
  | cons b bytes ih =>
      rw [List.flatMap_cons, encode_append, List.append_assoc, unescape_escapeByte, ih,
        List.cons_append]

/-! ### Texts -/

/-- The value of a character that is a hexadecimal digit. -/
def digitValue? (c : Char) : Option Nat :=
  if c.toNat < 128 then hexValue? (UInt8.ofNat c.toNat) else none

theorem utf8EncodeChar_of_lt {c : Char} (hc : c.toNat < 128) :
    String.utf8EncodeChar c = [UInt8.ofNat c.toNat] := by
  rw [utf8EncodeChar_eq, if_pos (by omega)]

theorem hexValue?_of_ge {b : UInt8} (hb : 128 ≤ b.toNat) : hexValue? b = none := by
  unfold hexValue?
  simp only [UInt8.le_iff_toNat_le, UInt8.reduceToNat]
  grind

/-- No byte of a character beyond ASCII is a digit. -/
theorem exists_utf8EncodeChar_of_ge {c : Char} (hc : 128 ≤ c.toNat) :
    ∃ first second rest, String.utf8EncodeChar c = first :: second :: rest ∧
      hexValue? first = none := by
  have hbyte {n : Nat} (hlow : 128 ≤ n) (hhigh : n < 256) : hexValue? (UInt8.ofNat n) = none := by
    refine hexValue?_of_ge ?_
    rw [UInt8.toNat_ofNat', Nat.mod_eq_of_lt hhigh]
    exact hlow
  rw [utf8EncodeChar_eq, if_neg (by omega)]
  split
  · exact ⟨_, _, _, rfl, hbyte (by omega) (by omega)⟩
  · split
    · exact ⟨_, _, _, rfl, hbyte (by omega) (by omega)⟩
    · exact ⟨_, _, _, rfl, hbyte (by omega) (by omega)⟩

theorem encode_percent (text : List Char) : Utf8.encode ('%' :: text) = 0x25 :: Utf8.encode text :=
  rfl

theorem not_mem_utf8EncodeChar {c : Char} (hc : c ≠ '%') : 0x25 ∉ String.utf8EncodeChar c := by
  rw [mem_utf8EncodeChar_iff (by decide)]
  exact fun hnat => hc (Char.toNat_inj.mp hnat)

/-- The byte that two hexadecimal digits at the start of a text stand for, and the rest of the text. -/
def pair? : List Char → Option (UInt8 × List Char)
  | high :: low :: rest => do
      let h ← digitValue? high
      let l ← digitValue? low
      some (UInt8.ofNat (h * 16 + l), rest)
  | _ => none

theorem pair?_eq_some {text rest : List Char} {b : UInt8} (hpair : pair? text = some (b, rest)) :
    ∃ high low h l, text = high :: low :: rest ∧ digitValue? high = some h ∧
      digitValue? low = some l ∧ b = UInt8.ofNat (h * 16 + l) := by
  unfold pair? at hpair
  split at hpair
  · next high low others =>
      obtain ⟨h, hhigh, hpair⟩ := Option.bind_eq_some_iff.mp hpair
      obtain ⟨l, hlow, hpair⟩ := Option.bind_eq_some_iff.mp hpair
      cases hpair
      exact ⟨high, low, h, l, rfl, hhigh, hlow, rfl⟩
  · cases hpair

theorem pair?_of_first {c : Char} (hc : digitValue? c = none) (rest : List Char) :
    pair? (c :: rest) = none := by
  cases rest with
  | nil => rfl
  | cons d rest => rw [pair?, hc]; rfl

theorem pair?_of_second {d : Char} (hd : digitValue? d = none) (c : Char) (rest : List Char) :
    pair? (c :: d :: rest) = none := by
  rw [pair?, hd]
  cases digitValue? c <;> rfl

theorem digitValue?_eq_some {c : Char} {n : Nat} (hc : digitValue? c = some n) :
    c.toNat < 128 ∧ hexValue? (UInt8.ofNat c.toNat) = some n := by
  unfold digitValue? at hc
  split at hc
  · next hlt => exact ⟨hlt, hc⟩
  · cases hc

theorem unescape_percent_of_pair {text rest : List Char} {b : UInt8}
    (hpair : pair? text = some (b, rest)) :
    unescape (0x25 :: Utf8.encode text) = b :: unescape (Utf8.encode rest) := by
  obtain ⟨high, low, h, l, rfl, hhigh, hlow, rfl⟩ := pair?_eq_some hpair
  obtain ⟨hhigh, hhigh'⟩ := digitValue?_eq_some hhigh
  obtain ⟨hlow, hlow'⟩ := digitValue?_eq_some hlow
  rw [encode_cons, encode_cons, utf8EncodeChar_of_lt hhigh, utf8EncodeChar_of_lt hlow]
  exact unescape_percent_of_some hhigh' hlow' _

theorem unescape_percent_of_no_pair {text : List Char} (hpair : pair? text = none) :
    unescape (0x25 :: Utf8.encode text) = 0x25 :: unescape (Utf8.encode text) := by
  refine unescape_percent_of_none ?_
  intro high low rest hbytes
  -- The bytes `high` and `low` are digits only if they are the first two characters.
  have hdigit {c : Char} {others bytes : List UInt8} {b : UInt8}
      (hc : String.utf8EncodeChar c ++ others = b :: bytes) :
      hexValue? b = none ∨ hexValue? b = digitValue? c ∧ others = bytes := by
    obtain hlt | hge := Nat.lt_or_ge c.toNat 128
    · rw [utf8EncodeChar_of_lt hlt] at hc
      cases hc
      exact .inr ⟨(if_pos hlt).symm, rfl⟩
    · obtain ⟨first, second, more, hchar, hnone⟩ := exists_utf8EncodeChar_of_ge hge
      rw [hchar] at hc
      cases hc
      exact .inl hnone
  cases text with
  | nil => cases hbytes
  | cons c text =>
      rw [encode_cons] at hbytes
      obtain hhigh | ⟨hhigh, hothers⟩ := hdigit hbytes
      · exact .inl hhigh
      · cases text with
        | nil => cases hothers
        | cons d text =>
            rw [encode_cons] at hothers
            obtain hlow | ⟨hlow, -⟩ := hdigit hothers
            · exact .inr hlow
            · rw [hhigh, hlow]
              cases hc : digitValue? c with
              | none => exact .inl rfl
              | some h =>
                  refine .inr ?_
                  cases hd : digitValue? d with
                  | none => rfl
                  | some l => rw [pair?, hc, hd] at hpair; cases hpair

/-- The character is not escaped. -/
def IsKept (reserved : List Char) (c : Char) : Prop :=
  isForeign c = false ∧ c ∉ reserved

instance (reserved : List Char) (c : Char) : Decidable (IsKept reserved c) :=
  inferInstanceAs (Decidable (_ ∧ _))

theorem digitValue?_of_isForeign {c : Char} (hc : isForeign c = true) : digitValue? c = none := by
  have hrange : c.toNat < 32 ∨ 126 < c.toNat := by
    unfold isForeign at hc
    rw [Bool.or_eq_true, decide_eq_true_eq, decide_eq_true_eq, Char.lt_def, Char.lt_def,
      UInt32.lt_iff_toNat_lt, UInt32.lt_iff_toNat_lt] at hc
    exact hc
  unfold digitValue?
  split
  · unfold hexValue?
    simp only [UInt8.le_iff_toNat_le, UInt8.reduceToNat, UInt8.toNat_ofNat']
    grind
  · rfl

section Escape

variable {reserved : List Char} {c : Char}

theorem escape_of_kept (hc : IsKept reserved c) (rest : List Char) :
    escape reserved (c :: rest) = c :: escape reserved rest := by
  rw [escape, List.flatMap_cons, if_neg (by simp [hc.1, hc.2]), List.singleton_append, escape]

theorem escape_of_not_kept (hc : ¬ IsKept reserved c) (rest : List Char) :
    escape reserved (c :: rest) =
      (String.utf8EncodeChar c).flatMap escapeByte ++ escape reserved rest := by
  have htouched : (isForeign c || reserved.contains c) = true := by
    rw [IsKept, not_and_or, not_not, Bool.not_eq_false] at hc
    simpa using hc
  rw [escape, List.flatMap_cons, if_pos htouched, escape]

theorem exists_escape_of_not_kept (hc : ¬ IsKept reserved c) (rest : List Char) :
    ∃ more, escape reserved (c :: rest) = '%' :: more := by
  rw [escape_of_not_kept hc]
  cases hbytes : String.utf8EncodeChar c with
  | nil => exact absurd hbytes String.utf8EncodeChar_ne_nil
  | cons b bytes => exact ⟨_, rfl⟩

theorem digitValue?_of_not_kept (hreserved : ∀ c ∈ reserved, digitValue? c = none)
    (hc : ¬ IsKept reserved c) : digitValue? c = none := by
  rw [IsKept, not_and_or, not_not, Bool.not_eq_false] at hc
  obtain hforeign | hmem := hc
  · exact digitValue?_of_isForeign hforeign
  · exact hreserved c hmem

/-- Escaping leaves the digits at the start of a text, and makes none. -/
theorem pair?_escape (hreserved : ∀ c ∈ reserved, digitValue? c = none) (text : List Char) :
    pair? (escape reserved text) =
      (pair? text).map fun found => (found.1, escape reserved found.2) := by
  have hpercent : digitValue? '%' = none := by decide
  match text with
  | [] => rfl
  | c :: rest =>
      by_cases hc : IsKept reserved c
      · rw [escape_of_kept hc]
        match rest with
        | [] => rfl
        | d :: rest =>
            by_cases hd : IsKept reserved d
            · rw [escape_of_kept hd, pair?, pair?]
              cases digitValue? c <;> cases digitValue? d <;> rfl
            · obtain ⟨more, hmore⟩ := exists_escape_of_not_kept hd rest
              rw [hmore, pair?_of_second hpercent,
                pair?_of_second (digitValue?_of_not_kept hreserved hd)]
              rfl
      · obtain ⟨more, hmore⟩ := exists_escape_of_not_kept hc rest
        rw [hmore, pair?_of_first hpercent, pair?_of_first (digitValue?_of_not_kept hreserved hc)]
        rfl

/-- What is read back of an escaped text is what is read back of the text itself. -/
theorem unescape_escape (hreserved : ∀ c ∈ reserved, digitValue? c = none) (hpercent : '%' ∉ reserved)
    (text : List Char) :
    unescape (Utf8.encode (escape reserved text)) = unescape (Utf8.encode text) := by
  generalize hlength : text.length = length
  induction length using Nat.strongRecOn generalizing text with
  | ind length ih =>
      match text with
      | [] => rfl
      | c :: rest =>
          rw [List.length_cons] at hlength
          have hrest := ih rest.length (by omega) rest rfl
          by_cases hc : c = '%'
          · have hkept : IsKept reserved '%' := ⟨by decide, hpercent⟩
            rw [hc, escape_of_kept hkept, encode_percent, encode_percent]
            cases hpair : pair? rest with
            | none =>
                have hescaped : pair? (escape reserved rest) = none := by
                  rw [pair?_escape hreserved, hpair]
                  rfl
                rw [unescape_percent_of_no_pair hescaped, unescape_percent_of_no_pair hpair, hrest]
            | some found =>
                obtain ⟨b, others⟩ := found
                have hescaped : pair? (escape reserved rest) = some (b, escape reserved others) := by
                  rw [pair?_escape hreserved, hpair]
                  rfl
                obtain ⟨high, low, _, _, rfl, -⟩ := pair?_eq_some hpair
                rw [List.length_cons, List.length_cons] at hlength
                rw [unescape_percent_of_pair hescaped, unescape_percent_of_pair hpair,
                  ih others.length (by omega) others rfl]
          · have hbytes := not_mem_utf8EncodeChar hc
            rw [encode_cons c rest, unescape_append hbytes, ← hrest]
            by_cases hkept : IsKept reserved c
            · rw [escape_of_kept hkept, encode_cons, unescape_append hbytes]
            · rw [escape_of_not_kept hkept, encode_append, unescape_escapeBytes]

end Escape

/-! ### Texts that come back as they are -/

/-- No percent sign in the text has two hexadecimal digits after it. -/
def HasNoEscapes (text : List Char) : Prop :=
  ∀ before after, text = before ++ '%' :: after → pair? after = none

theorem hasNoEscapes_cons_iff {c : Char} {rest : List Char} :
    HasNoEscapes (c :: rest) ↔ (c = '%' → pair? rest = none) ∧ HasNoEscapes rest := by
  constructor
  · intro hnone
    refine ⟨?_, ?_⟩
    · rintro rfl
      exact hnone [] rest rfl
    · rintro before after rfl
      exact hnone (c :: before) after rfl
  · rintro ⟨hfirst, hrest⟩ before after hsplit
    cases before with
    | nil =>
        cases hsplit
        exact hfirst rfl
    | cons d before =>
        cases hsplit
        exact hrest before after rfl

theorem unescape_encode_cons_eq_iff {c : Char} {rest : List Char} :
    unescape (Utf8.encode (c :: rest)) = Utf8.encode (c :: rest) ↔
      (c = '%' → pair? rest = none) ∧ unescape (Utf8.encode rest) = Utf8.encode rest := by
  by_cases hc : c = '%'
  · rw [hc, encode_percent]
    cases hpair : pair? rest with
    | none => simp [unescape_percent_of_no_pair hpair]
    | some found =>
        obtain ⟨b, others⟩ := found
        obtain ⟨high, low, h, l, rfl, hhigh, hlow, -⟩ := pair?_eq_some hpair
        have hlength := length_unescape_le (Utf8.encode others)
        rw [unescape_percent_of_pair hpair, encode_cons, encode_cons,
          utf8EncodeChar_of_lt (digitValue?_eq_some hhigh).1,
          utf8EncodeChar_of_lt (digitValue?_eq_some hlow).1]
        constructor
        · intro heq
          have hsame := congrArg List.length heq
          simp only [List.length_cons, List.length_append, List.length_nil] at hsame
          omega
        · rintro ⟨hnone, -⟩
          cases hnone rfl
  · rw [encode_cons, unescape_append (not_mem_utf8EncodeChar hc), List.append_cancel_left_eq]
    simp [hc]

theorem unescape_encode_eq_iff (text : List Char) :
    unescape (Utf8.encode text) = Utf8.encode text ↔ HasNoEscapes text := by
  induction text with
  | nil =>
      refine iff_of_true rfl ?_
      intro before after hsplit
      cases before <;> cases hsplit
  | cons c rest ih => rw [unescape_encode_cons_eq_iff, hasNoEscapes_cons_iff, ih]

end BuildHerald.Proofs.Escaping
