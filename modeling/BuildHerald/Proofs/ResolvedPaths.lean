import BuildHerald.Http.Path
import BuildHerald.Http.Url
import BuildHerald.Proofs.Escaping
import Mathlib.Data.Bool.AllAny
import Mathlib.Data.List.DropRight

/-!
Which places a path means.

A path that is put together from names means the places that they name exactly if nothing in a name is
understood as more than a part of it. To see that no two of these things cancel out, places are weighed:
no step from the written path to the places that it means adds weight, and each thing that is understood
takes some away.
-/

namespace BuildHerald.Proofs.ResolvedPaths

open BuildHerald.Http
open BuildHerald.Text
open BuildHerald.Proofs.EncodedText
open BuildHerald.Proofs.Escaping

/-! ### Segments -/

/-- What a segment of an address stands for. -/
def meant (segment : List Char) : List UInt8 :=
  unescape (Utf8.encode segment)

theorem meant_escape (segment : List Char) : meant (escape Path.reserved segment) = meant segment :=
  unescape_escape (List.all_iff_forall_prop.mp (by decide)) (by decide) segment

/-- The bytes of places, each with the slash in front of it. -/
def weight : List (List UInt8) → Nat
  | [] => 0
  | place :: places => place.length + 1 + weight places

theorem weight_nil : weight [] = 0 :=
  rfl

theorem weight_cons (place : List UInt8) (places : List (List UInt8)) :
    weight (place :: places) = place.length + 1 + weight places :=
  rfl

theorem weight_concat (places : List (List UInt8)) (place : List UInt8) :
    weight (places ++ [place]) = weight places + (place.length + 1) := by
  induction places with
  | nil =>
      rw [List.nil_append, weight_cons, weight_nil]
      omega
  | cons first places ih =>
      rw [List.cons_append, weight_cons, weight_cons, ih]
      omega

theorem weight_reverse (places : List (List UInt8)) : weight places.reverse = weight places := by
  induction places with
  | nil => rfl
  | cons place places ih => rw [List.reverse_cons, weight_concat, ih, weight_cons, Nat.add_comm]

theorem ne_nil_of_isRelative {segment : List Char} (hrelative : Path.isRelative segment = true) :
    segment ≠ [] := by
  rintro rfl
  revert hrelative
  decide

theorem weight_above_le (passed : List (List Char)) :
    weight ((Path.above passed).map meant) ≤ weight (passed.map meant) := by
  cases passed with
  | nil => exact Nat.le_refl _
  | cons segment before =>
      rw [Path.above]
      split
      · exact Nat.le_refl _
      · rw [List.map_cons, weight_cons]
        omega

/-- The segment is understood as more than a name. -/
def IsUnderstood (segment : List Char) : Prop :=
  Path.isRelative segment = true ∨ ¬ HasNoEscapes segment

theorem length_meant_le (segment : List Char) :
    (meant segment).length ≤ (Utf8.encode segment).length :=
  length_unescape_le _

theorem length_meant_lt {segment : List Char} (hescapes : ¬ HasNoEscapes segment) :
    (meant segment).length < (Utf8.encode segment).length :=
  (unescape_eq_or _).resolve_left fun heq => hescapes ((unescape_encode_eq_iff _).mp heq)

theorem length_encode_pos {text : List Char} (htext : text ≠ []) : 0 < (Utf8.encode text).length := by
  cases text with
  | nil => exact absurd rfl htext
  | cons c rest =>
      have hne := @String.utf8EncodeChar_ne_nil c
      rw [encode_cons, List.length_append]
      have := List.length_pos_of_ne_nil hne
      omega

/-- Resolving segments adds no weight, and takes some away if one of them is understood as more than a
name. -/
theorem weight_resolve (passed segments : List (List Char)) :
    weight ((Path.resolve passed segments).map meant) ≤
        weight (passed.map meant) + weight (segments.map Utf8.encode) ∧
      ((∃ segment ∈ segments, IsUnderstood segment) →
        weight ((Path.resolve passed segments).map meant) <
          weight (passed.map meant) + weight (segments.map Utf8.encode)) := by
  induction segments generalizing passed with
  | nil => simp [Path.resolve, weight_reverse, List.map_reverse]
  | cons segment rest ih =>
      rw [List.map_cons, weight_cons, Path.resolve]
      split
      · next hrelative =>
          have hpos := length_encode_pos (ne_nil_of_isRelative hrelative)
          extract_lets after
          have hafter : weight (after.map meant) ≤ weight (passed.map meant) := by
            unfold after
            split
            · exact weight_above_le passed
            · exact Nat.le_refl _
          have hlt : weight ((if rest.isEmpty = true then ([] :: after).reverse
              else Path.resolve after rest).map meant) <
                weight (passed.map meant) +
                  ((Utf8.encode segment).length + 1 + weight (rest.map Utf8.encode)) := by
            split
            · rw [List.map_reverse, weight_reverse, List.map_cons, weight_cons]
              change 0 + 1 + _ < _
              omega
            · have := (ih after).1
              omega
          exact ⟨Nat.le_of_lt hlt, fun _ => hlt⟩
      · next hplace =>
          obtain ⟨hle, hlt⟩ := ih (escape Path.reserved segment :: passed)
          rw [List.map_cons, weight_cons, meant_escape] at hle hlt
          have hshrink := length_meant_le segment
          refine ⟨by omega, ?_⟩
          rintro ⟨understood, hmem, hunderstood⟩
          obtain rfl | hmem := List.mem_cons.mp hmem
          · have := length_meant_lt (hunderstood.resolve_left hplace)
            omega
          · have := hlt ⟨understood, hmem, hunderstood⟩
            omega

theorem resolve_append (passed : List (List Char)) {segments : List (List Char)}
    (hplaces : ∀ segment ∈ segments, Path.isRelative segment = false) (rest : List (List Char)) :
    Path.resolve passed (segments ++ rest) =
      Path.resolve ((segments.map (escape Path.reserved)).reverse ++ passed) rest := by
  induction segments generalizing passed with
  | nil => rfl
  | cons segment segments ih =>
      rw [List.forall_mem_cons] at hplaces
      rw [List.cons_append, Path.resolve, hplaces.1, if_neg Bool.false_ne_true, ih _ hplaces.2,
        List.map_cons, List.reverse_cons, List.append_assoc, List.singleton_append]

theorem resolve_of_not_relative {segments : List (List Char)}
    (hplaces : ∀ segment ∈ segments, Path.isRelative segment = false) :
    Path.resolve [] segments = segments.map (escape Path.reserved) := by
  have hresolve := resolve_append [] hplaces []
  rwa [List.append_nil, List.append_nil, Path.resolve, List.reverse_reverse] at hresolve

/-- Two dots take back the name in front of them. -/
theorem resolve_parent {names rest : List (List Char)} {name : List Char}
    (hnames : ∀ part ∈ names ++ [name], Path.isRelative part = false)
    (hroot : Path.isRoot (escape Path.reserved name) = false) (hrest : rest ≠ []) :
    Path.resolve [] (names ++ [name] ++ "..".toList :: rest) = Path.resolve [] (names ++ rest) := by
  have hshort : ∀ part ∈ names, Path.isRelative part = false := fun part hpart =>
    hnames part (List.mem_append_left _ hpart)
  have hrelative : Path.isRelative "..".toList = true := by decide
  have habove : Path.isAbove "..".toList = true := by decide
  have hempty : rest.isEmpty = false := List.isEmpty_eq_false_iff.mpr hrest
  rw [resolve_append [] hnames, resolve_append [] hshort, List.map_append, List.map_singleton,
    List.reverse_append, List.reverse_singleton, List.append_assoc, List.singleton_append,
    Path.resolve, hrelative, habove, hempty, Path.above, hroot]
  rfl

/-! ### Paths in writing -/

/-- Names with a slash in front of each. -/
def joined (names : List (List Char)) : List Char :=
  names.flatMap ('/' :: ·)

/-- The part of a text that counts as its path: blanks and controls at the end are lost, and so is
everything from the first question mark or number sign on. -/
def pathOf (text : List Char) : List Char :=
  (dropEndWhile (· ≤ ' ') text).takeWhile fun c => c != '?' && c != '#'

theorem joined_cons (name : List Char) (names : List (List Char)) :
    joined (name :: names) = '/' :: (name ++ joined names) :=
  List.flatMap_cons

theorem weight_names (names : List (List Char)) :
    weight (names.map Utf8.encode) = (Utf8.encode (joined names)).length := by
  induction names with
  | nil => rfl
  | cons name names ih =>
      rw [List.map_cons, weight_cons, ih, joined_cons, encode_cons, encode_append]
      change _ = (47 :: (Utf8.encode name ++ Utf8.encode (joined names))).length
      rw [List.length_cons, List.length_append]
      omega

theorem weight_pieces (text : List Char) :
    weight ((pieces (Path.isSlash true) text).map Utf8.encode) = (Utf8.encode text).length + 1 := by
  induction text with
  | nil => rfl
  | cons c rest ih =>
      rw [pieces, encode_cons, List.length_append]
      split
      · next hslash =>
          have hone : (String.utf8EncodeChar c).length = 1 := by
            rw [Path.isSlash, Bool.or_eq_true, Bool.and_eq_true, beq_iff_eq, beq_iff_eq] at hslash
            obtain rfl | ⟨-, rfl⟩ := hslash <;> rfl
          rw [List.map_cons, weight_cons, ih, hone, encode_nil, List.length_nil]
          omega
      · cases hpieces : pieces (Path.isSlash true) rest with
        | nil => exact absurd hpieces (pieces_ne_nil _ rest)
        | cons first others =>
            rw [hpieces, List.map_cons, weight_cons] at ih
            rw [List.modifyHead_cons, List.map_cons, weight_cons, encode_cons, List.length_append]
            omega

theorem pieces_joined {cut : Char → Bool} (hcut : cut '/' = true) {name : List Char}
    {names : List (List Char)} (hnames : ∀ part ∈ name :: names, ∀ c ∈ part, cut c = false) :
    pieces cut (name ++ joined names) = name :: names := by
  induction names generalizing name with
  | nil =>
      rw [joined, List.flatMap_nil, List.append_nil]
      exact pieces_of_not_mem (hnames name List.mem_cons_self)
  | cons next names ih =>
      rw [List.forall_mem_cons] at hnames
      rw [joined_cons, pieces_append_cons hnames.1 hcut, ih hnames.2]

theorem pathOf_isPrefix (text : List Char) : pathOf text <+: text :=
  (List.takeWhile_prefix _).trans (List.rdropWhile_prefix (· ≤ ' ') text)

theorem pathOf_slash (text : List Char) : pathOf ('/' :: text) = '/' :: pathOf text := by
  rw [pathOf, dropEndWhile_cons (by decide), List.takeWhile_cons_of_pos (by decide), pathOf]

theorem pathOf_eq_self_iff (text : List Char) :
    pathOf text = text ↔
      (∀ c ∈ text, c ≠ '?' ∧ c ≠ '#') ∧ ∀ c, text.getLast? = some c → ' ' < c := by
  have hend : dropEndWhile (· ≤ ' ') text = text ↔ ∀ c, text.getLast? = some c → ' ' < c := by
    refine (List.rdropWhile_eq_self_iff (p := (· ≤ ' '))).trans ?_
    constructor
    · intro hlast c hc
      have hne : text ≠ [] := List.ne_nil_of_mem (List.mem_of_getLast? hc)
      have hle := hlast hne
      rw [List.getLast?_eq_some_getLast hne, Option.some.injEq] at hc
      rw [hc] at hle
      simpa using hle
    · intro hlast hne
      simpa using hlast _ (List.getLast?_eq_some_getLast hne)
  constructor
  · intro hself
    have hsuffix : dropEndWhile (· ≤ ' ') text = text := by
      refine (List.rdropWhile_prefix (· ≤ ' ') text).eq_of_length_le ?_
      conv_lhs => rw [← hself]
      exact (List.takeWhile_prefix _).length_le
    rw [pathOf, hsuffix, List.takeWhile_eq_self_iff] at hself
    exact ⟨fun c hc => by simpa using hself c hc, hend.mp hsuffix⟩
  · rintro ⟨hmarks, hlast⟩
    rw [pathOf, hend.mpr hlast, List.takeWhile_eq_self_iff]
    exact fun c hc => by simpa using hmarks c hc

theorem eq_of_prefix_of_length {first second : List Char} (hstart : first <+: second)
    (hlength : (Utf8.encode second).length ≤ (Utf8.encode first).length) : first = second := by
  obtain ⟨rest, rfl⟩ := hstart
  rw [encode_append, List.length_append] at hlength
  have hnone : rest = [] := by
    by_contra hne
    have := length_encode_pos hne
    omega
  rw [hnone, List.append_nil]

/-! ### Names that are taken as they are -/

/-- In a path, the text means nothing but itself. -/
structure IsPlain (name : List Char) : Prop where
  marks : ∀ c ∈ name, c ≠ '?' ∧ c ≠ '#' ∧ c ≠ '\\'
  place : Path.isRelative name = false
  escapes : HasNoEscapes name

theorem meant_of_hasNoEscapes {name : List Char} (hname : HasNoEscapes name) :
    meant name = Utf8.encode name :=
  (unescape_encode_eq_iff name).mpr hname

theorem mem_joined_iff {names : List (List Char)} {c : Char} :
    c ∈ joined names ↔ ∃ name ∈ names, c = '/' ∨ c ∈ name := by
  rw [joined, List.mem_flatMap]
  simp only [List.mem_cons]

theorem map_meant_resolve {segments : List (List Char)}
    (hplaces : ∀ segment ∈ segments, Path.isRelative segment = false)
    (hescapes : ∀ segment ∈ segments, HasNoEscapes segment) :
    (Path.resolve [] segments).map meant = segments.map Utf8.encode := by
  rw [resolve_of_not_relative hplaces, List.map_map]
  refine List.map_congr_left ?_
  intro segment hsegment
  exact (meant_escape segment).trans (meant_of_hasNoEscapes (hescapes segment hsegment))

theorem segmentsOf_slash (text : List Char) :
    Path.segmentsOf true (pathOf ('/' :: text)) =
      Path.resolve [] (pieces (Path.isSlash true) (pathOf text)) := by
  rw [pathOf_slash]
  rfl

/-- Names that nothing cuts are the segments of their path. -/
theorem segmentsOf_joined {names : List (List Char)} (hne : names ≠ [])
    (hslash : ∀ name ∈ names, '/' ∉ name)
    (hmarks : ∀ name ∈ names, ∀ c ∈ name, c ≠ '?' ∧ c ≠ '#' ∧ c ≠ '\\')
    (hlast : ∀ c, (joined names).getLast? = some c → ' ' < c) :
    Path.segmentsOf true (pathOf (joined names)) = Path.resolve [] names := by
  have hself : pathOf (joined names) = joined names := by
    rw [pathOf_eq_self_iff]
    refine ⟨?_, hlast⟩
    intro c hc
    obtain ⟨name, hname, rfl | hc⟩ := mem_joined_iff.mp hc
    · decide
    · obtain ⟨hquestion, hnumber, -⟩ := hmarks name hname c hc
      exact ⟨hquestion, hnumber⟩
  have hcut : ∀ name ∈ names, ∀ c ∈ name, Path.isSlash true c = false := by
    intro name hname c hc
    have hbackslash := (hmarks name hname c hc).2.2
    have hne : c ≠ '/' := ne_of_mem_of_not_mem hc (hslash name hname)
    simp [Path.isSlash, hbackslash, hne]
  obtain ⟨first, others, rfl⟩ := List.exists_cons_of_ne_nil hne
  rw [joined_cons, pathOf_slash, List.cons_inj_right] at hself
  rw [joined_cons, segmentsOf_slash, hself, pieces_joined (by decide) hcut]

/-- If what a path means weighs as much as what is written, nothing has been cut off and nothing
understood. -/
theorem whole_of_weight {text : List Char}
    (hweight : weight ((Path.segmentsOf true (pathOf ('/' :: text))).map meant) =
      (Utf8.encode text).length + 1) :
    pathOf text = text ∧
      ∀ segment ∈ pieces (Path.isSlash true) text, ¬ IsUnderstood segment := by
  obtain ⟨hle, hlt⟩ := weight_resolve [] (pieces (Path.isSlash true) (pathOf text))
  rw [← segmentsOf_slash, hweight, List.map_nil, weight_nil, weight_pieces] at hle hlt
  have hwhole : pathOf text = text := eq_of_prefix_of_length (pathOf_isPrefix text) (by omega)
  rw [hwhole] at hlt
  refine ⟨hwhole, ?_⟩
  intro segment hsegment hunderstood
  have := hlt ⟨segment, hsegment, hunderstood⟩
  omega

/-- The path that is put together from names means the places that they name exactly if every name is
taken as it is and no blank or control is lost at the end. -/
theorem resolved_eq_iff {names : List (List Char)} (hne : names ≠ [])
    (hslash : ∀ name ∈ names, '/' ∉ name) :
    (Path.segmentsOf true (pathOf (joined names))).map meant = names.map Utf8.encode ↔
      (∀ name ∈ names, IsPlain name) ∧ ∀ c, (joined names).getLast? = some c → ' ' < c := by
  constructor
  · intro hmeant
    obtain ⟨first, others, rfl⟩ := List.exists_cons_of_ne_nil hne
    have hweight := weight_names (first :: others)
    rw [← hmeant, joined_cons, encode_cons, List.length_append, Nat.add_comm] at hweight
    obtain ⟨hwhole, hnames⟩ := whole_of_weight hweight
    have hself : pathOf (joined (first :: others)) = joined (first :: others) := by
      rw [joined_cons, pathOf_slash, hwhole]
    have hplain : ∀ segment ∈ pieces (Path.isSlash true) (first ++ joined others),
        Path.isRelative segment = false ∧ HasNoEscapes segment := by
      intro segment hsegment
      have hnot := hnames segment hsegment
      rwa [IsUnderstood, not_or, Bool.not_eq_true, not_not] at hnot
    rw [joined_cons, segmentsOf_slash, hwhole,
      map_meant_resolve (fun segment hmem => (hplain segment hmem).1)
        (fun segment hmem => (hplain segment hmem).2)] at hmeant
    have hpieces := List.map_injective_iff.mpr encode_injective hmeant
    obtain ⟨hmarks, hlast⟩ := (pathOf_eq_self_iff _).mp hself
    refine ⟨?_, hlast⟩
    intro name hname
    obtain ⟨hplace, hescapes⟩ := hplain name (hpieces ▸ hname)
    refine ⟨?_, hplace, hescapes⟩
    intro c hc
    obtain ⟨hquestion, hnumber⟩ := hmarks c (mem_joined_iff.mpr ⟨name, hname, .inr hc⟩)
    have hcut := (of_mem_pieces (hpieces ▸ hname) c hc).2
    refine ⟨hquestion, hnumber, ?_⟩
    rintro rfl
    revert hcut
    decide
  · rintro ⟨hplain, hlast⟩
    rw [segmentsOf_joined hne hslash (fun name hname => (hplain name hname).marks) hlast]
    exact map_meant_resolve (fun name hname => (hplain name hname).place)
      (fun name hname => (hplain name hname).escapes)

end BuildHerald.Proofs.ResolvedPaths
