import BuildHerald.Text.Utf8
import Mathlib.Data.List.Basic

/-!
Texts as bytes.

Every text is read back from its bytes, so no two texts have the same bytes. A byte below 128 in them
is an ASCII character of the text.
-/

namespace BuildHerald.Proofs.EncodedText

open BuildHerald.Text

/-! ### The first byte of a character -/

section Begin

variable {b : UInt8}

theorem begin_one (hb : b.toNat < 0x80) : Utf8.begin b = (some (Char.ofNat b.toNat), .fresh) :=
  if_pos (UInt8.lt_iff_toNat_lt.mpr hb)

theorem begin_two (hlow : 0xc2 ≤ b.toNat) (hhigh : b.toNat < 0xe0) :
    Utf8.begin b = (none, .inside (b.toNat % 32) 0 0x80 0xbf) := by
  unfold Utf8.begin
  simp only [UInt8.lt_iff_toNat_lt, UInt8.reduceToNat]
  grind

theorem begin_three (hlow : 0xe0 ≤ b.toNat) (hhigh : b.toNat < 0xf0) :
    Utf8.begin b = (none, .inside (b.toNat % 16) 1 (if b.toNat = 0xe0 then 0xa0 else 0x80)
      (if b.toNat = 0xed then 0x9f else 0xbf)) := by
  unfold Utf8.begin
  simp only [UInt8.lt_iff_toNat_lt, ← UInt8.toNat_inj, UInt8.reduceToNat]
  grind

theorem begin_four (hlow : 0xf0 ≤ b.toNat) (hhigh : b.toNat ≤ 0xf4) :
    Utf8.begin b = (none, .inside (b.toNat % 8) 2 (if b.toNat = 0xf0 then 0x90 else 0x80)
      (if b.toNat = 0xf4 then 0x8f else 0xbf)) := by
  unfold Utf8.begin
  simp only [UInt8.lt_iff_toNat_lt, ← UInt8.toNat_inj, UInt8.reduceToNat]
  grind

end Begin

/-! ### Reading a character back -/

section Inside

variable {bits more : Nat} {low high b : UInt8}

theorem scanFrom_inside_last (hlow : low.toNat ≤ b.toNat) (hhigh : b.toNat ≤ high.toNat)
    (rest : List UInt8) :
    Utf8.scanFrom (.inside bits 0 low high) (b :: rest) =
      some (Char.ofNat (bits * 64 + b.toNat % 64)) :: Utf8.scanFrom .fresh rest :=
  if_pos ⟨UInt8.le_iff_toNat_le.mpr hlow, UInt8.le_iff_toNat_le.mpr hhigh⟩

theorem scanFrom_inside_more (hlow : low.toNat ≤ b.toNat) (hhigh : b.toNat ≤ high.toNat)
    (rest : List UInt8) :
    Utf8.scanFrom (.inside bits (more + 1) low high) (b :: rest) =
      Utf8.scanFrom (.inside (bits * 64 + b.toNat % 64) more 0x80 0xbf) rest :=
  if_pos ⟨UInt8.le_iff_toNat_le.mpr hlow, UInt8.le_iff_toNat_le.mpr hhigh⟩

end Inside

theorem exists_byte {n : Nat} (hn : n < 256) : ∃ b : UInt8, UInt8.ofNat n = b ∧ b.toNat = n :=
  ⟨_, rfl, by rw [UInt8.toNat_ofNat', Nat.mod_eq_of_lt hn]⟩

section Number

variable {n : Nat}

theorem scanFrom_one (hn : n ≤ 127) (rest : List UInt8) :
    Utf8.scanFrom .fresh (UInt8.ofNat n :: rest) =
      some (Char.ofNat n) :: Utf8.scanFrom .fresh rest := by
  obtain ⟨first, hfirst, h1⟩ := exists_byte (show n < 256 by omega)
  rw [hfirst, Utf8.scanFrom, begin_one (by omega), h1]
  rfl

theorem scanFrom_two (hlow : 128 ≤ n) (hhigh : n ≤ 2047) (rest : List UInt8) :
    Utf8.scanFrom .fresh
        (UInt8.ofNat (n / 64 % 32 + 192) :: UInt8.ofNat (n % 64 + 128) :: rest) =
      some (Char.ofNat n) :: Utf8.scanFrom .fresh rest := by
  obtain ⟨first, hfirst, h1⟩ := exists_byte (show n / 64 % 32 + 192 < 256 by omega)
  obtain ⟨second, hsecond, h2⟩ := exists_byte (show n % 64 + 128 < 256 by omega)
  have hn : first.toNat % 32 * 64 + second.toNat % 64 = n := by omega
  rw [hfirst, hsecond, Utf8.scanFrom, begin_two (by omega) (by omega)]
  change Utf8.scanFrom (.inside _ 0 0x80 0xbf) (second :: rest) = _
  rw [scanFrom_inside_last (by simp; omega) (by simp; omega), hn]

theorem scanFrom_three (hlow : 2048 ≤ n) (hhigh : n ≤ 65535) (hvalid : n < 0xd800 ∨ 0xdfff < n)
    (rest : List UInt8) :
    Utf8.scanFrom .fresh
        (UInt8.ofNat (n / 4096 % 16 + 224) :: UInt8.ofNat (n / 64 % 64 + 128) ::
          UInt8.ofNat (n % 64 + 128) :: rest) =
      some (Char.ofNat n) :: Utf8.scanFrom .fresh rest := by
  obtain ⟨first, hfirst, h1⟩ := exists_byte (show n / 4096 % 16 + 224 < 256 by omega)
  obtain ⟨second, hsecond, h2⟩ := exists_byte (show n / 64 % 64 + 128 < 256 by omega)
  obtain ⟨third, hthird, h3⟩ := exists_byte (show n % 64 + 128 < 256 by omega)
  have hn : (first.toNat % 16 * 64 + second.toNat % 64) * 64 + third.toNat % 64 = n := by omega
  rw [hfirst, hsecond, hthird, Utf8.scanFrom, begin_three (by omega) (by omega)]
  change Utf8.scanFrom (.inside _ 1 _ _) (second :: third :: rest) = _
  -- The bounds on the second byte rule out overlong forms and surrogates.
  rw [scanFrom_inside_more (by split <;> simp <;> omega) (by split <;> simp <;> omega),
    scanFrom_inside_last (by simp; omega) (by simp; omega), hn]

theorem scanFrom_four (hlow : 65536 ≤ n) (hhigh : n < 0x110000) (rest : List UInt8) :
    Utf8.scanFrom .fresh
        (UInt8.ofNat (n / 262144 % 8 + 240) :: UInt8.ofNat (n / 4096 % 64 + 128) ::
          UInt8.ofNat (n / 64 % 64 + 128) :: UInt8.ofNat (n % 64 + 128) :: rest) =
      some (Char.ofNat n) :: Utf8.scanFrom .fresh rest := by
  obtain ⟨first, hfirst, h1⟩ := exists_byte (show n / 262144 % 8 + 240 < 256 by omega)
  obtain ⟨second, hsecond, h2⟩ := exists_byte (show n / 4096 % 64 + 128 < 256 by omega)
  obtain ⟨third, hthird, h3⟩ := exists_byte (show n / 64 % 64 + 128 < 256 by omega)
  obtain ⟨fourth, hfourth, h4⟩ := exists_byte (show n % 64 + 128 < 256 by omega)
  have hn : ((first.toNat % 8 * 64 + second.toNat % 64) * 64 + third.toNat % 64) * 64 +
      fourth.toNat % 64 = n := by
    omega
  rw [hfirst, hsecond, hthird, hfourth, Utf8.scanFrom, begin_four (by omega) (by omega)]
  change Utf8.scanFrom (.inside _ 2 _ _) (second :: third :: fourth :: rest) = _
  rw [scanFrom_inside_more (by split <;> simp <;> omega) (by split <;> simp <;> omega),
    scanFrom_inside_more (by simp; omega) (by simp; omega),
    scanFrom_inside_last (by simp; omega) (by simp; omega), hn]

end Number

/-- The bytes of a character, by its number. -/
theorem utf8EncodeChar_eq (c : Char) :
    String.utf8EncodeChar c =
      if c.toNat ≤ 127 then [UInt8.ofNat c.toNat]
      else if c.toNat ≤ 2047 then
        [UInt8.ofNat (c.toNat / 64 % 32 + 192), UInt8.ofNat (c.toNat % 64 + 128)]
      else if c.toNat ≤ 65535 then
        [UInt8.ofNat (c.toNat / 4096 % 16 + 224), UInt8.ofNat (c.toNat / 64 % 64 + 128),
          UInt8.ofNat (c.toNat % 64 + 128)]
      else
        [UInt8.ofNat (c.toNat / 262144 % 8 + 240), UInt8.ofNat (c.toNat / 4096 % 64 + 128),
          UInt8.ofNat (c.toNat / 64 % 64 + 128), UInt8.ofNat (c.toNat % 64 + 128)] :=
  rfl

theorem scanFrom_character (c : Char) (rest : List UInt8) :
    Utf8.scanFrom .fresh (String.utf8EncodeChar c ++ rest) =
      some c :: Utf8.scanFrom .fresh rest := by
  have hvalid : c.toNat < 0xd800 ∨ 0xdfff < c.toNat ∧ c.toNat < 0x110000 := c.valid
  have hread : Utf8.scanFrom .fresh (String.utf8EncodeChar c ++ rest) =
      some (Char.ofNat c.toNat) :: Utf8.scanFrom .fresh rest := by
    rw [utf8EncodeChar_eq]
    split
    · exact scanFrom_one (by omega) rest
    · split
      · exact scanFrom_two (by omega) (by omega) rest
      · split
        · exact scanFrom_three (by omega) (by omega) (by omega) rest
        · exact scanFrom_four (by omega) (by omega) rest
  rwa [Char.ofNat_toNat] at hread

/-! ### Whole texts -/

@[simp] theorem encode_nil : Utf8.encode [] = [] :=
  rfl

theorem encode_cons (c : Char) (text : List Char) :
    Utf8.encode (c :: text) = String.utf8EncodeChar c ++ Utf8.encode text :=
  List.flatMap_cons

theorem encode_append (first second : List Char) :
    Utf8.encode (first ++ second) = Utf8.encode first ++ Utf8.encode second :=
  List.flatMap_append

theorem scan_encode (text : List Char) : Utf8.scan (Utf8.encode text) = text.map some := by
  induction text with
  | nil => rfl
  | cons c text ih =>
      rw [encode_cons, Utf8.scan, scanFrom_character, List.map_cons]
      exact congrArg _ ih

@[simp] theorem lossy_encode (text : List Char) : Utf8.lossy (Utf8.encode text) = text := by
  rw [Utf8.lossy, scan_encode, List.map_map]
  exact List.map_id text

theorem encode_injective : Function.Injective Utf8.encode :=
  Function.LeftInverse.injective lossy_encode

/-- A byte below 128 is the only one of its character. -/
theorem mem_utf8EncodeChar_iff {c : Char} {b : UInt8} (hb : b.toNat < 128) :
    b ∈ String.utf8EncodeChar c ↔ c.toNat = b.toNat := by
  have hvalid : c.toNat < 0xd800 ∨ 0xdfff < c.toNat ∧ c.toNat < 0x110000 := c.valid
  rw [utf8EncodeChar_eq]
  split
  · rw [List.mem_singleton, ← UInt8.toNat_inj, UInt8.toNat_ofNat', eq_comm]
    omega
  · split
    · simp only [List.mem_cons, List.not_mem_nil, or_false, ← UInt8.toNat_inj, UInt8.toNat_ofNat']
      omega
    · split
      all_goals
        simp only [List.mem_cons, List.not_mem_nil, or_false, ← UInt8.toNat_inj,
          UInt8.toNat_ofNat']
        omega

theorem toNat_ofNat {n : Nat} (hn : n < 128) : (Char.ofNat n).toNat = n := by
  have hvalid : n.isValidChar := .inl (by omega)
  rw [Char.ofNat, dif_pos hvalid]
  rfl

theorem mem_encode_iff {text : List Char} {b : UInt8} (hb : b.toNat < 128) :
    b ∈ Utf8.encode text ↔ Char.ofNat b.toNat ∈ text := by
  have hchar (c : Char) : c.toNat = b.toNat ↔ c = Char.ofNat b.toNat := by
    rw [← Char.toNat_inj, toNat_ofNat hb]
  rw [Utf8.encode, List.mem_flatMap]
  simp only [mem_utf8EncodeChar_iff hb, hchar, exists_eq_right]

end BuildHerald.Proofs.EncodedText
