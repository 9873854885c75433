import BuildHerald.Proofs.ResolvedPaths

/-!
What an address means that is a server's with an endpoint after it.

Only the end of the endpoint can be lost, and whatever a path in it means, it means at the root of the
server.
-/

namespace BuildHerald.Proofs.ServerAddresses

open BuildHerald.Http
open BuildHerald.Text
open BuildHerald.Proofs.ResolvedPaths

/-- The characters that are left out wherever they stand in an address. -/
def isKept (c : Char) : Bool :=
  c != '\t' && c != '\n' && c != '\r'

/-- What a text says at the start of an address. -/
def opening (text : List Char) : List Char :=
  (text.dropWhile (· ≤ ' ')).filter isKept

/-- The text names a server, and no place on it. -/
def IsBare (base : List Char) : Prop :=
  ∃ scheme slashes authority, opening base = scheme ++ ':' :: (slashes ++ authority) ∧
    ':' ∉ scheme ∧ (∀ c ∈ slashes, Path.isSlash true c = true) ∧ authority ≠ [] ∧
      ∀ c ∈ authority, Path.isSlash true c = false ∧ c ≠ '?' ∧ c ≠ '#'

theorem cleaned_append {base tail : List Char} (hbase : opening base ≠ [])
    (htail : ∀ c ∈ tail, isKept c = true) :
    Url.cleaned (base ++ '/' :: tail) = opening base ++ '/' :: dropEndWhile (· ≤ ' ') tail := by
  have hstart : (base.dropWhile (· ≤ ' ')).isEmpty = false := by
    rw [List.isEmpty_eq_false_iff]
    intro hnil
    rw [opening, hnil] at hbase
    exact hbase rfl
  have hend : ∀ c ∈ dropEndWhile (· ≤ ' ') tail, isKept c = true := fun c hc =>
    htail c ((List.rdropWhile_prefix (· ≤ ' ') tail).subset hc)
  change (dropEndWhile (· ≤ ' ') ((base ++ '/' :: tail).dropWhile (· ≤ ' '))).filter isKept = _
  rw [List.dropWhile_append, hstart, if_neg Bool.false_ne_true,
    dropEndWhile_append_cons (by decide), List.filter_append, opening,
    List.filter_cons_of_pos (by decide), List.filter_eq_self.mpr hend]

theorem cutAt_fst (separator : Char) (text : List Char) :
    (Url.cutAt separator text).1 = text.takeWhile (· != separator) := by
  rw [takeWhile_eq_splitOnce, Url.cutAt]
  cases splitOnce separator text <;> rfl

/-! ### The server's part -/

theorem mem_of_splitLogin {text : List Char} :
    ∀ c ∈ (Url.splitLogin text).2, c ∈ text := by
  unfold Url.splitLogin
  split
  · next after before hsplit =>
      intro c hc
      rw [← List.mem_reverse, splitOnce_eq_some hsplit, List.mem_append]
      exact .inl (List.mem_reverse.mp hc)
  · exact fun c hc => hc

theorem mem_of_splitPort {inBrackets : Bool} {text digits : List Char}
    (hport : (Url.splitPort inBrackets text).2 = some digits) : ∀ c ∈ digits, c ∈ text := by
  induction text generalizing inBrackets with
  | nil => cases hport
  | cons first rest ih =>
      rw [Url.splitPort] at hport
      split at hport
      · cases hport
        exact fun c hc => List.mem_cons_of_mem _ hc
      · exact fun c hc => List.mem_cons_of_mem _ (ih hport c hc)

/-- Without a backslash, all of the text belongs to the server's part. -/
theorem left_of_authority {scheme text left : List Char} {authority : Authority}
    (hauthority : Url.authority? scheme text = some (authority, left)) (hnone : '\\' ∉ text) :
    left = [] := by
  rcases hlogin : Url.splitLogin text with ⟨before, after⟩
  rcases hport : Url.splitPort false after with ⟨host, port⟩
  simp only [Url.authority?, hlogin, hport, Option.bind_eq_bind, Option.bind_eq_some_iff] at hauthority
  obtain ⟨named, -, number, -, hauthority⟩ := hauthority
  split at hauthority
  · cases hauthority
  · cases hauthority
    cases port with
    | none => rfl
    | some digits =>
        refine List.dropWhile_eq_nil_iff.mpr fun c hc => ?_
        have hafter : c ∈ after := mem_of_splitPort (congrArg Prod.snd hport) c hc
        have hmem : c ∈ text := mem_of_splitLogin c (by rwa [hlogin])
        simpa using ne_of_mem_of_not_mem hmem hnone

theorem path_of_hierarchy {scheme authority rest : List Char} {found : Option Authority × Path}
    (hspecial : Url.isSpecial scheme = true)
    (hplain : ∀ c ∈ authority, Path.isSlash true c = false)
    (hfound : Url.hierarchy? scheme (authority ++ '/' :: rest) = some found) :
    found.2 = .segments (Path.segmentsOf true ('/' :: rest)) := by
  have hserver : (authority ++ '/' :: rest).takeWhile (!Path.isSlash true ·) = authority := by
    rw [List.takeWhile_append_of_pos (fun c hc => by simp [hplain c hc]),
      List.takeWhile_cons_of_neg (by decide), List.append_nil]
  have hplace : (authority ++ '/' :: rest).dropWhile (!Path.isSlash true ·) = '/' :: rest := by
    rw [List.dropWhile_append_of_pos (fun c hc => by simp [hplain c hc]),
      List.dropWhile_cons_of_neg (by decide)]
  have hnone : '\\' ∉ authority := fun hmem => by
    have hslash := hplain _ hmem
    revert hslash
    decide
  unfold Url.hierarchy? at hfound
  rw [hspecial] at hfound
  obtain ⟨⟨named, left⟩, hauthority, hfound⟩ := Option.bind_eq_some_iff.mp hfound
  rw [hserver] at hauthority
  obtain rfl := left_of_authority hauthority hnone
  cases hfound
  rw [hplace]
  rfl

/-! ### Whole addresses -/

theorem isSpecial_of_isWeb {url : Url} (hweb : url.isWeb = true) :
    Url.isSpecial url.scheme = true ∧ Url.isFile url.scheme = false := by
  rw [Url.isWeb, Bool.or_eq_true, beq_iff_eq, beq_iff_eq] at hweb
  obtain hscheme | hscheme := hweb
  · rw [hscheme]
    decide
  · rw [hscheme]
    decide

theorem body_of_ofText {text : String} {url : Url} (hurl : Url.ofText? text = some url) :
    ∃ scheme rest found, splitOnce ':' (Url.cleaned text.toList) = some (scheme, rest) ∧
      Url.body? url.scheme ((rest.takeWhile (· != '#')).takeWhile (· != '?')) = some found ∧
        url.path = found.2 := by
  unfold Url.ofText? at hurl
  obtain ⟨⟨scheme, rest⟩, hsplit, hurl⟩ := Option.bind_eq_some_iff.mp hurl
  rcases hfragment : Url.cutAt '#' rest with ⟨started, fragment⟩
  rcases hquery : Url.cutAt '?' started with ⟨body, query⟩
  simp only [hfragment, hquery, Option.bind_eq_bind] at hurl
  split at hurl
  · cases hurl
  · obtain ⟨found, hfound, hurl⟩ := Option.bind_eq_some_iff.mp hurl
    cases hurl
    refine ⟨scheme, rest, found, hsplit, ?_, rfl⟩
    rw [← cutAt_fst, ← cutAt_fst, hfragment, hquery]
    exact hfound

/-- The path of an address that is a server's with an endpoint after it is that of the endpoint. -/
theorem path_of_bare {base endpoint : String} {tail : List Char} {url : Url}
    (hbare : IsBare base.toList) (hendpoint : endpoint.toList = '/' :: tail)
    (hkept : ∀ c ∈ tail, isKept c = true) (hurl : Url.ofText? (base ++ endpoint) = some url)
    (hweb : url.isWeb = true) :
    url.path = .segments (Path.segmentsOf true (pathOf endpoint.toList)) := by
  obtain ⟨scheme, slashes, authority, hopening, hscheme, hslashes, hne, hplain⟩ := hbare
  obtain ⟨hspecial, hfile⟩ := isSpecial_of_isWeb hweb
  obtain ⟨_, _, found, hsplit, hbody, hpath⟩ := body_of_ofText hurl
  have hopen : opening base.toList ≠ [] := by
    rw [hopening]
    simp
  rw [String.toList_append, hendpoint, cleaned_append hopen hkept, hopening, List.append_assoc,
    List.cons_append, splitOnce_append_cons hscheme] at hsplit
  cases hsplit
  have hmark : ∀ c ∈ slashes ++ authority, (c != '?' && c != '#') = true := by
    intro c hc
    rw [List.mem_append] at hc
    obtain hc | hc := hc
    · have hslash := hslashes c hc
      rw [Path.isSlash, Bool.or_eq_true, Bool.and_eq_true, beq_iff_eq, beq_iff_eq] at hslash
      obtain rfl | ⟨-, rfl⟩ := hslash <;> decide
    · simp [(hplain c hc).2]
  have hcut : ((slashes ++ authority ++ '/' :: dropEndWhile (· ≤ ' ') tail).takeWhile
      (· != '#')).takeWhile (· != '?') = slashes ++ (authority ++ '/' :: pathOf tail) := by
    simp only [List.takeWhile_takeWhile, Bool.decide_and, Bool.decide_eq_true]
    rw [List.takeWhile_append_of_pos hmark, List.takeWhile_cons_of_pos (by decide),
      List.append_assoc, pathOf]
  have hserver : (slashes ++ (authority ++ '/' :: pathOf tail)).dropWhile (Path.isSlash true) =
      authority ++ '/' :: pathOf tail := by
    rw [List.dropWhile_append_of_pos hslashes]
    obtain ⟨first, others, rfl⟩ := List.exists_cons_of_ne_nil hne
    exact List.dropWhile_cons_of_neg (by simp [(hplain first List.mem_cons_self).1])
  rw [hcut, Url.body?, hfile, hspecial, if_neg Bool.false_ne_true, if_pos rfl, hserver] at hbody
  rw [hpath, path_of_hierarchy hspecial (fun c hc => (hplain c hc).1) hbody, hendpoint, pathOf_slash]

end BuildHerald.Proofs.ServerAddresses
