import BuildHerald.Json.Shape
import Mathlib.Data.String.Basic

/-!
What is read of a record.

A record is written as an object or as an array. In an object a field is found by its name, wherever it
stands and whatever else is there. In an array it is found by its place.
-/

namespace BuildHerald.Proofs.RecordShapes

open BuildHerald.Json

/-! ### Fields in a tree -/

/-- The members of an object that have a name. -/
def under (name : String) (members : List (Option String × Tree)) : List (Option String × Tree) :=
  members.filter fun member => member.1 == some name

/-- Whether a tree can be a record with fields of the given names. -/
def IsRecord (names : List String) : Tree → Prop
  | .object _ => True
  | .array items => items.length ≤ names.length
  | _ => False

/-- What a record holds in a field. Of several members of an object with its name the last counts. -/
def field? (names : List String) (name : String) : Tree → Option Tree
  | .object members => (under name members).getLast?.map Prod.snd
  | .array items => items[names.idxOf name]?
  | _ => none

/-- All names in a record can be read, and no field comes twice. -/
def IsPlain (names : List String) : Tree → Prop
  | .object members =>
      (∀ member ∈ members, member.1.isSome = true) ∧ ∀ name ∈ names, (under name members).length ≤ 1
  | _ => True

/-- Whether a field takes what a record holds in it. -/
def Takes (field : Field) : Option Tree → Prop
  | some item => field.admits item = .ok ()
  | none => field.optional = true

/-- What has been read for a field. -/
def held? (record : Record) (name : String) : Option Tree :=
  (record.find? (·.1 == name)).map Prod.snd

theorem under_cons (name other : String) (item : Tree) (members : List (Option String × Tree)) :
    under name ((some other, item) :: members) =
      if other = name then (some other, item) :: under name members else under name members := by
  simp [under, List.filter_cons]

theorem held?_cons (name other : String) (item : Tree) (record : Record) :
    held? ((other, item) :: record) name = if other = name then some item else held? record name := by
  unfold held?
  split
  · next heq => rw [List.find?_cons_of_pos (by simpa using heq)]; rfl
  · next hne => rw [List.find?_cons_of_neg (by simpa using hne)]

theorem any_eq_isSome_held? (record : Record) (name : String) :
    record.any (·.1 == name) = (held? record name).isSome := by
  rw [held?, Option.isSome_map, Bool.eq_iff_iff, List.find?_isSome, List.any_eq_true]

section Fields

variable {fields : List Field} {field : Field} {held record : Record}
  {members : List (Option String × Tree)}

theorem find?_of_mem (hnodup : (fields.map Field.name).Nodup) (hmem : field ∈ fields) :
    fields.find? (·.name == field.name) = some field := by
  induction fields with
  | nil => exact absurd hmem List.not_mem_nil
  | cons first rest ih =>
      rw [List.map_cons, List.nodup_cons] at hnodup
      obtain rfl | hrest := List.mem_cons.mp hmem
      · exact List.find?_cons_of_pos (beq_self_eq_true _)
      · have hne : first.name ≠ field.name := fun heq =>
          hnodup.1 (heq ▸ List.mem_map_of_mem hrest)
        rw [List.find?_cons_of_neg (by simpa using hne)]
        exact ih hnodup.2 hrest

/-- What members come to in a field: what was held stays if none has its name, and its one member is
taken if nothing was held. -/
def Adds (members : List (Option String × Tree)) (field : Field) (before after : Option Tree) : Prop :=
  (under field.name members = [] ∧ after = before) ∨
    ∃ member, under field.name members = [member] ∧ before = none ∧ after = some member.2 ∧
      field.admits member.2 = .ok ()

theorem adds_of_unknown {name : String} {item : Tree} {before after : Option Tree}
    (hunknown : fields.find? (·.name == name) = none) (hfield : field ∈ fields) :
    Adds ((some name, item) :: members) field before after ↔ Adds members field before after := by
  have hne : name ≠ field.name := fun heq =>
    List.find?_eq_none.mp hunknown field hfield (beq_iff_eq.mpr heq.symm)
  unfold Adds
  rw [under_cons, if_neg hne]

/-- A member with a known name adds to its own field alone. -/
theorem adds_of_known {known : Field} {item : Tree} {after : Option Tree}
    (hadmits : known.admits item = .ok ()) (hfresh : held? held known.name = none)
    (hsame : field.name = known.name → field = known) :
    Adds ((some known.name, item) :: members) field (held? held field.name) after ↔
      Adds members field (held? ((known.name, item) :: held) field.name) after := by
  unfold Adds
  rw [under_cons, held?_cons]
  by_cases heq : known.name = field.name
  · obtain rfl := hsame heq.symm
    simp [hfresh, hadmits]
  · rw [if_neg heq, if_neg heq]

theorem eq_of_name_eq {known : Field} (hnodup : (fields.map Field.name).Nodup)
    (hknown : known ∈ fields) (hfield : field ∈ fields) (hname : field.name = known.name) :
    field = known := by
  have hfind := find?_of_mem hnodup hknown
  rw [← hname, find?_of_mem hnodup hfield] at hfind
  exact Option.some.inj hfind

theorem held?_eq_none {name : String} (hfresh : ¬ held.any (·.1 == name) = true) :
    held? held name = none := by
  rw [any_eq_isSome_held?] at hfresh
  exact Option.not_isSome_iff_eq_none.mp hfresh

/-- Reading members adds to each field what stands under its name. -/
theorem adds_of_named (hnodup : (fields.map Field.name).Nodup)
    (hnamed : Record.named fields held members = .ok record) :
    (∀ member ∈ members, member.1.isSome = true) ∧
      ∀ field ∈ fields, Adds members field (held? held field.name) (held? record field.name) := by
  induction members generalizing held with
  | nil =>
      cases hnamed
      exact ⟨List.forall_mem_nil _, fun _ _ => .inl ⟨rfl, rfl⟩⟩
  | cons member rest ih =>
      obtain ⟨_ | name, item⟩ := member
      · cases hnamed
      rw [Record.named] at hnamed
      split at hnamed
      · next hunknown =>
          obtain ⟨hreadable, hadds⟩ := ih hnamed
          exact ⟨List.forall_mem_cons.mpr ⟨rfl, hreadable⟩, fun field hfield =>
            (adds_of_unknown hunknown hfield).mpr (hadds field hfield)⟩
      · next known hknown =>
          obtain rfl : known.name = name := by simpa using List.find?_some hknown
          split at hnamed
          · cases hnamed
          · next hfresh =>
              cases hadmits : known.admits item with
              | error mismatch =>
                  rw [hadmits] at hnamed
                  cases hnamed
              | ok _ =>
                  rw [hadmits] at hnamed
                  obtain ⟨hreadable, hadds⟩ := ih hnamed
                  refine ⟨List.forall_mem_cons.mpr ⟨rfl, hreadable⟩, fun field hfield => ?_⟩
                  exact (adds_of_known hadmits (held?_eq_none hfresh)
                    (eq_of_name_eq hnodup (List.mem_of_find?_eq_some hknown) hfield)).mpr
                      (hadds field hfield)

/-- Members can be read if all names can, and each field takes the one member of its name, if there is
one. -/
theorem exists_named (held : Record) (hnodup : (fields.map Field.name).Nodup)
    (hreadable : ∀ member ∈ members, member.1.isSome = true)
    (hadds : ∀ field ∈ fields, ∃ after, Adds members field (held? held field.name) after) :
    ∃ record, Record.named fields held members = .ok record := by
  induction members generalizing held with
  | nil => exact ⟨held, rfl⟩
  | cons member rest ih =>
      obtain ⟨_ | name, item⟩ := member
      · cases hreadable _ List.mem_cons_self
      rw [List.forall_mem_cons] at hreadable
      rw [Record.named]
      split
      · next hunknown =>
          exact ih held hreadable.2 fun field hfield =>
            (hadds field hfield).imp fun _ => (adds_of_unknown hunknown hfield).mp
      · next known hknown =>
          obtain rfl : known.name = name := by simpa using List.find?_some hknown
          have hmem := List.mem_of_find?_eq_some hknown
          obtain ⟨_, ⟨hnone, -⟩ | ⟨found, hfound, hfresh, -, hadmits⟩⟩ := hadds known hmem
          · rw [under_cons, if_pos rfl] at hnone
            cases hnone
          · obtain rfl : (some known.name, item) = found := by
              rw [under_cons, if_pos rfl] at hfound
              exact (List.cons.inj hfound).1
            have hany : held.any (·.1 == known.name) = false := by
              rw [any_eq_isSome_held?, hfresh]
              rfl
            rw [hany, if_neg Bool.false_ne_true, hadmits]
            exact ih _ hreadable.2 fun field hfield => (hadds field hfield).imp fun _ =>
              (adds_of_known hadmits hfresh (eq_of_name_eq hnodup hmem hfield)).mp

section Positional

variable {title : String} {total length index : Nat} {items : List Tree}

theorem positional_nil_iff :
    Record.positional title total length index fields [] = .ok record ↔
      record = [] ∧ ∀ field ∈ fields, field.optional = true := by
  induction fields generalizing index with
  | nil =>
      constructor
      · intro hread
        cases hread
        exact ⟨rfl, List.forall_mem_nil _⟩
      · rintro ⟨rfl, -⟩
        rfl
  | cons first rest ih =>
      rw [Record.positional, List.forall_mem_cons]
      split
      · next hoptional => simp [ih, hoptional]
      · next hrequired => simp [hrequired]

theorem positional_cons_iff {first : Field} {rest : List Field} {item : Tree} :
    Record.positional title total length index (first :: rest) (item :: items) = .ok record ↔
      first.admits item = .ok () ∧ ∃ others,
        Record.positional title total length (index + 1) rest items = .ok others ∧
          record = (first.name, item) :: others := by
  rw [Record.positional]
  cases hadmits : first.admits item with
  | error mismatch => simp [bind, Except.bind]
  | ok _ =>
      cases hrest : Record.positional title total length (index + 1) rest items with
      | error mismatch => simp [bind, Except.bind]
      | ok others => simp [bind, Except.bind, eq_comm]

/-- In an array each field takes the item in its place. -/
theorem takes_of_positional (hnodup : (fields.map Field.name).Nodup)
    (hpositional : Record.positional title total length index fields items = .ok record) :
    items.length ≤ fields.length ∧ ∀ field ∈ fields,
      held? record field.name = items[(fields.map Field.name).idxOf field.name]? ∧
        Takes field items[(fields.map Field.name).idxOf field.name]? := by
  induction fields generalizing index items record with
  | nil =>
      cases items with
      | nil => exact ⟨le_refl 0, List.forall_mem_nil _⟩
      | cons item items => cases hpositional
  | cons first rest ih =>
      cases items with
      | nil =>
          obtain ⟨rfl, hoptional⟩ := positional_nil_iff.mp hpositional
          exact ⟨Nat.zero_le _, fun field hfield => ⟨rfl, hoptional field hfield⟩⟩
      | cons item items =>
          obtain ⟨hadmits, others, hothers, rfl⟩ := positional_cons_iff.mp hpositional
          rw [List.map_cons, List.nodup_cons] at hnodup
          obtain ⟨hle, htakes⟩ := ih hnodup.2 hothers
          refine ⟨Nat.succ_le_succ hle, List.forall_mem_cons.mpr ⟨?_, fun field hfield => ?_⟩⟩
          · rw [List.map_cons, List.idxOf_cons_self, held?_cons, if_pos rfl]
            exact ⟨rfl, hadmits⟩
          · have hne : first.name ≠ field.name := fun heq =>
              hnodup.1 (heq ▸ List.mem_map_of_mem hfield)
            rw [List.map_cons, List.idxOf_cons_ne _ hne, held?_cons, if_neg hne]
            exact htakes field hfield

theorem exists_positional (hnodup : (fields.map Field.name).Nodup)
    (hle : items.length ≤ fields.length)
    (htakes : ∀ field ∈ fields, Takes field items[(fields.map Field.name).idxOf field.name]?) :
    ∃ record, Record.positional title total length index fields items = .ok record := by
  induction fields generalizing index items with
  | nil =>
      obtain rfl := List.eq_nil_of_length_eq_zero (Nat.le_zero.mp hle)
      exact ⟨[], rfl⟩
  | cons first rest ih =>
      cases items with
      | nil => exact ⟨[], positional_nil_iff.mpr ⟨rfl, htakes⟩⟩
      | cons item items =>
          rw [List.map_cons, List.nodup_cons] at hnodup
          rw [List.forall_mem_cons, List.map_cons, List.idxOf_cons_self] at htakes
          obtain ⟨others, hothers⟩ := ih hnodup.2 (Nat.le_of_succ_le_succ hle)
            fun field hfield => by
              have hne : first.name ≠ field.name := fun heq =>
                hnodup.1 (heq ▸ List.mem_map_of_mem hfield)
              have hfield := htakes.2 field hfield
              rwa [List.idxOf_cons_ne _ hne] at hfield
          exact ⟨_, positional_cons_iff.mpr ⟨htakes.1, others, hothers, rfl⟩⟩

end Positional

theorem adds_none_iff {after : Option Tree} :
    Adds members field none after ↔ (under field.name members).length ≤ 1 ∧
      after = (under field.name members).getLast?.map Prod.snd ∧
        ∀ item ∈ after, field.admits item = .ok () := by
  unfold Adds
  match under field.name members with
  | [] =>
      simp only [true_and, List.nil_eq, reduceCtorEq, false_and, exists_false, or_false]
      constructor
      · rintro rfl
        exact ⟨Nat.zero_le 1, rfl, fun _ hnone => by cases hnone⟩
      · exact fun h => h.2.1
  | [member] =>
      constructor
      · rintro (⟨hnone, -⟩ | ⟨_, hone, -, rfl, hadmits⟩)
        · cases hnone
        · cases hone
          exact ⟨le_refl 1, rfl, fun _ hitem => Option.some.inj hitem ▸ hadmits⟩
      · rintro ⟨-, rfl, hadmits⟩
        exact .inr ⟨member, rfl, rfl, rfl, hadmits _ rfl⟩
  | first :: second :: rest => simp

/-! ### Records -/

section Records

variable {title : String} {tree : Tree}

theorem takes_iff {item? : Option Tree} :
    Takes field item? ↔ (∀ item ∈ item?, field.admits item = .ok ()) ∧
      (field.optional = true ∨ item?.isSome = true) := by
  cases item? with
  | none => simp [Takes]
  | some item => simp [Takes]

theorem missing_eq_none_iff :
    (fields.find? fun field => !field.optional && !record.any (·.1 == field.name)) = none ↔
      ∀ field ∈ fields, field.optional = true ∨ (held? record field.name).isSome = true := by
  rw [List.find?_eq_none]
  apply forall₂_congr
  intro field _
  rw [any_eq_isSome_held?]
  cases field.optional <;> cases held? record field.name <;> simp

theorem ofTree_object_iff :
    Record.ofTree title fields (.object members) = .ok record ↔
      Record.named fields [] members = .ok record ∧
        ∀ field ∈ fields, field.optional = true ∨ (held? record field.name).isSome = true := by
  rw [Record.ofTree]
  cases hnamed : Record.named fields [] members with
  | error mismatch => simp [bind, Except.bind]
  | ok found =>
      simp only [bind, Except.bind, Except.ok.injEq]
      constructor
      · intro hread
        split at hread
        · cases hread
        · next hnone =>
            cases hread
            exact ⟨rfl, missing_eq_none_iff.mp hnone⟩
      · rintro ⟨rfl, hall⟩
        rw [missing_eq_none_iff.mpr hall]

/-- What is read of a record is what it holds in each of its fields. -/
theorem takes_of_ofTree (hnodup : (fields.map Field.name).Nodup)
    (hread : Record.ofTree title fields tree = .ok record) :
    IsRecord (fields.map Field.name) tree ∧ IsPlain (fields.map Field.name) tree ∧
      ∀ field ∈ fields, held? record field.name = field? (fields.map Field.name) field.name tree ∧
        Takes field (field? (fields.map Field.name) field.name tree) := by
  cases tree with
  | array items =>
      obtain ⟨hle, htakes⟩ := takes_of_positional hnodup hread
      exact ⟨hle.trans_eq (List.length_map _).symm, trivial, htakes⟩
  | object members =>
      obtain ⟨hnamed, hgiven⟩ := ofTree_object_iff.mp hread
      obtain ⟨hreadable, hadds⟩ := adds_of_named hnodup hnamed
      refine ⟨trivial, ⟨hreadable, ?_⟩, fun field hfield => ?_⟩
      · intro name hname
        obtain ⟨field, hfield, rfl⟩ := List.mem_map.mp hname
        exact (adds_none_iff.mp (hadds field hfield)).1
      · obtain ⟨-, hheld, hadmits⟩ := adds_none_iff.mp (hadds field hfield)
        refine ⟨hheld, ?_⟩
        rw [show field? (fields.map Field.name) field.name (.object members) =
          held? record field.name from hheld.symm]
        exact takes_iff.mpr ⟨hadmits, hgiven field hfield⟩
  | _ => cases hread

/-- A record can be read if each of its fields takes what the record holds in it. -/
theorem exists_ofTree (title : String) (hnodup : (fields.map Field.name).Nodup)
    (hrecord : IsRecord (fields.map Field.name) tree)
    (hplain : IsPlain (fields.map Field.name) tree)
    (htakes : ∀ field ∈ fields, Takes field (field? (fields.map Field.name) field.name tree)) :
    ∃ record, Record.ofTree title fields tree = .ok record := by
  cases tree with
  | array items =>
      exact exists_positional hnodup (hrecord.trans_eq (List.length_map _)) htakes
  | object members =>
      obtain ⟨record, hnamed⟩ := exists_named [] hnodup hplain.1 fun field hfield =>
        ⟨_, adds_none_iff.mpr ⟨hplain.2 field.name (List.mem_map_of_mem hfield), rfl,
          (takes_iff.mp (htakes field hfield)).1⟩⟩
      refine ⟨record, ofTree_object_iff.mpr ⟨hnamed, fun field hfield => ?_⟩⟩
      obtain ⟨-, hheld, -⟩ := adds_none_iff.mp ((adds_of_named hnodup hnamed).2 field hfield)
      rw [hheld]
      exact (takes_iff.mp (htakes field hfield)).2
  | _ => exact hrecord.elim

theorem bind_eq_ok_iff {α β : Type} {first : Except Mismatch α} {next : α → Except Mismatch β}
    {result : β} :
    first.bind next = .ok result ↔ ∃ value, first = .ok value ∧ next value = .ok result := by
  cases first with
  | error mismatch => simp [Except.bind]
  | ok value => simp [Except.bind]

theorem bind_pair_eq_ok_iff {α β γ : Type} {first : Except Mismatch α} {second : Except Mismatch β}
    {make : α → β → γ} (hmake : Function.Injective2 make) {a : α} {b : β} :
    (first.bind fun a => second.bind fun b => .ok (make a b)) = .ok (make a b) ↔
      first = .ok a ∧ second = .ok b := by
  simp only [bind_eq_ok_iff, Except.ok.injEq]
  constructor
  · rintro ⟨a', hfirst, b', hsecond, heq⟩
    obtain ⟨rfl, rfl⟩ := hmake heq
    exact ⟨hfirst, hsecond⟩
  · rintro ⟨hfirst, hsecond⟩
    exact ⟨a, hfirst, b, hsecond, rfl⟩

/-- What is made of a record depends on what it holds in its fields. -/
theorem bind_ofTree_eq_ok_iff {β : Type} (fields : List Field)
    {next : Record → Except Mismatch β} {result : β} {holds : Prop}
    (hnodup : (fields.map Field.name).Nodup)
    (hnext : ∀ record, (∀ field ∈ fields,
      held? record field.name = field? (fields.map Field.name) field.name tree) →
        (next record = .ok result ↔ holds))
    (htakes : holds → ∀ field ∈ fields,
      Takes field (field? (fields.map Field.name) field.name tree)) :
    (Record.ofTree title fields tree).bind next = .ok result ↔
      IsRecord (fields.map Field.name) tree ∧ IsPlain (fields.map Field.name) tree ∧ holds := by
  rw [bind_eq_ok_iff]
  constructor
  · rintro ⟨record, hread, hresult⟩
    obtain ⟨hrecord, hplain, hheld⟩ := takes_of_ofTree hnodup hread
    exact ⟨hrecord, hplain, (hnext record fun field hfield => (hheld field hfield).1).mp hresult⟩
  · rintro ⟨hrecord, hplain, hholds⟩
    obtain ⟨record, hread⟩ := exists_ofTree title hnodup hrecord hplain (htakes hholds)
    have hheld := (takes_of_ofTree hnodup hread).2.2
    exact ⟨record, hread, (hnext record fun field hfield => (hheld field hfield).1).mpr hholds⟩

end Records

end Fields

/-! ### Values of fields -/

section Values

variable {α β : Type} {record : Record} {name : String} {shape : Shape α} {default value : α}
  {item? : Option Tree}

/-- A field holds a value of a shape. -/
def Yields (shape : Shape α) (item? : Option Tree) (value : α) : Prop :=
  ∃ item, item? = some item ∧ shape item = .ok value

/-- A field holds a value of a shape, or is left out and so holds the default. -/
def YieldsOr (default : α) (shape : Shape α) (item? : Option Tree) (value : α) : Prop :=
  (item? = none ∧ value = default) ∨ Yields shape item? value

theorem yields_some_iff {item : Tree} : Yields shape (some item) value ↔ shape item = .ok value := by
  simp [Yields]

theorem yieldsOr_some_iff {item : Tree} :
    YieldsOr default shape (some item) value ↔ shape item = .ok value := by
  simp [YieldsOr, Yields]

theorem yieldsOr_none_iff : YieldsOr default shape none value ↔ value = default := by
  simp [YieldsOr, Yields]

theorem get_eq_ok_iff : record.get name shape = .ok value ↔ Yields shape (held? record name) value := by
  rw [Record.get, held?]
  cases record.find? (·.1 == name) <;> simp [Yields]

theorem getD_eq_ok_iff :
    record.getD name shape default = .ok value ↔ YieldsOr default shape (held? record name) value := by
  rw [Record.getD, held?]
  cases record.find? (·.1 == name) <;> simp [Yields, YieldsOr, eq_comm]

theorem map_eq_ok_iff {result : Except Mismatch α} {f : α → β} {image : β} :
    result.map f = .ok image ↔ ∃ value, result = .ok value ∧ f value = image := by
  cases result <;> simp [Except.map]

theorem takes_required_iff :
    Takes (.required name shape) item? ↔ ∃ value, Yields shape item? value := by
  cases item? with
  | none => simp [Takes, Yields, Field.required]
  | some item => simp [Takes, Yields, Field.required, map_eq_ok_iff]

theorem takes_allowed_iff (default : α) :
    Takes (.allowed name shape) item? ↔ ∃ value, YieldsOr default shape item? value := by
  cases item? with
  | none => simp [Takes, YieldsOr, Yields, Field.allowed]
  | some item => simp [Takes, YieldsOr, Yields, Field.allowed, map_eq_ok_iff]

end Values

/-! ### Kept values -/

theorem valueWithin_eq_some_iff {outer : Nat} {tree : Tree} {value : Value} :
    tree.valueWithin? outer = some value ↔
      outer + tree.depth ≤ Tree.depthLimit ∧ tree.value? = some value := by
  unfold Tree.valueWithin?
  split
  · next hle => exact (and_iff_right hle).symm
  · next hgt => exact ⟨nofun, fun hsome => absurd hsome.1 hgt⟩

/-- What an object of readable parts holds under a name. -/
def valueUnder (name : String) (members : List (String × Value)) : Option Value :=
  (members.find? (·.1 == name)).map Prod.snd

theorem valueUnder_cons (name other : String) (value : Value) (members : List (String × Value)) :
    valueUnder name ((other, value) :: members) =
      if other = name then some value else valueUnder name members := by
  unfold valueUnder
  split
  · next heq => rw [List.find?_cons_of_pos (by simpa using heq)]; rfl
  · next hne => rw [List.find?_cons_of_neg (by simpa using hne)]

/-- The names of members ascend. -/
def Ascends (members : List (String × Value)) : Prop :=
  members.Pairwise fun first second => first.1 < second.1

theorem valueUnder_insertMember (name other : String) (value : Value)
    (members : List (String × Value)) :
    valueUnder name (insertMember other value members) =
      if other = name then some value else valueUnder name members := by
  induction members with
  | nil => rw [insertMember, valueUnder_cons]
  | cons member rest ih =>
      obtain ⟨first, held⟩ := member
      rw [insertMember]
      split
      · rw [valueUnder_cons]
      · split
        · next heq =>
            rw [valueUnder_cons, valueUnder_cons, heq]
            split <;> rfl
        · next hne =>
            rw [valueUnder_cons, ih, valueUnder_cons]
            split
            · next heq => rw [if_neg (heq ▸ hne)]
            · rfl

theorem fst_of_mem_insertMember {name : String} {value : Value} {members : List (String × Value)}
    {member : String × Value} (hmem : member ∈ insertMember name value members) :
    member.1 = name ∨ member ∈ members := by
  induction members with
  | nil =>
      obtain rfl := List.mem_singleton.mp hmem
      exact .inl rfl
  | cons first rest ih =>
      obtain ⟨other, held⟩ := first
      rw [insertMember] at hmem
      split at hmem
      · obtain rfl | hold := List.mem_cons.mp hmem
        · exact .inl rfl
        · exact .inr hold
      · split at hmem
        · obtain rfl | hold := List.mem_cons.mp hmem
          · exact .inl rfl
          · exact .inr (List.mem_cons_of_mem _ hold)
        · obtain rfl | hrest := List.mem_cons.mp hmem
          · exact .inr List.mem_cons_self
          · exact (ih hrest).imp_right (List.mem_cons_of_mem _)

theorem ascends_insertMember (name : String) (value : Value) {members : List (String × Value)}
    (hascends : Ascends members) : Ascends (insertMember name value members) := by
  induction members with
  | nil => exact List.pairwise_singleton _ _
  | cons first rest ih =>
      obtain ⟨other, held⟩ := first
      obtain ⟨hfirst, hrest⟩ := List.pairwise_cons.mp hascends
      rw [insertMember]
      split
      · next hlt =>
          refine List.pairwise_cons.mpr ⟨?_, hascends⟩
          exact List.forall_mem_cons.mpr ⟨hlt, fun member hmem => hlt.trans (hfirst member hmem)⟩
      · next hle =>
          split
          · next heq =>
              subst heq
              exact List.pairwise_cons.mpr ⟨hfirst, hrest⟩
          · next hne =>
              refine List.pairwise_cons.mpr ⟨fun member hmem => ?_, ih hrest⟩
              obtain hname | hold := fst_of_mem_insertMember hmem
              · exact hname ▸ lt_of_le_of_ne (not_lt.mp hle) (Ne.symm hne)
              · exact hfirst member hold

/-- What is kept where a tree stands, and where none does. -/
inductive Kept (before : Option Value) : Option Tree → Option Value → Prop
  | none : Kept before none before
  | some {item : Tree} {value : Value} (hvalue : item.value? = some value) :
      Kept before (some item) (some value)

theorem memberValues_cons_iff {held kept : List (String × Value)} {name : String} {item : Tree}
    {rest : List (Option String × Tree)} :
    Tree.memberValues? held ((some name, item) :: rest) = some kept ↔
      ∃ value, item.value? = some value ∧
        Tree.memberValues? (insertMember name value held) rest = some kept := by
  rw [Tree.memberValues?]
  cases item.value? <;> simp

section Members

variable {members : List (Option String × Tree)} {held kept : List (String × Value)}

theorem ascends_memberValues (hheld : Ascends held)
    (hkept : Tree.memberValues? held members = some kept) : Ascends kept := by
  induction members generalizing held with
  | nil =>
      obtain rfl := Option.some.inj hkept
      exact hheld
  | cons member rest ih =>
      obtain ⟨_ | name, item⟩ := member
      · cases hkept
      obtain ⟨value, -, hrest⟩ := memberValues_cons_iff.mp hkept
      exact ih (ascends_insertMember name value hheld) hrest

/-- Of several members of one name the last is kept. -/
theorem kept_of_memberValues (name : String) (hkept : Tree.memberValues? held members = some kept) :
    Kept (valueUnder name held) ((under name members).getLast?.map Prod.snd)
      (valueUnder name kept) := by
  induction members generalizing held with
  | nil =>
      obtain rfl := Option.some.inj hkept
      exact .none
  | cons member rest ih =>
      obtain ⟨_ | other, item⟩ := member
      · cases hkept
      obtain ⟨value, hvalue, hrest⟩ := memberValues_cons_iff.mp hkept
      have hlater := ih hrest
      rw [valueUnder_insertMember] at hlater
      rw [under_cons]
      split at hlater
      · next heq =>
          rw [if_pos heq, List.getLast?_cons]
          generalize valueUnder name kept = result at hlater ⊢
          cases hunder : (under name rest).getLast? with
          | none =>
              rw [hunder] at hlater
              cases hlater
              exact .some hvalue
          | some last =>
              rw [hunder] at hlater
              cases hlater with
              | some hlast => exact .some hlast
      · next hne =>
          rw [if_neg hne]
          exact hlater

theorem under_memberTrees (name : String) (hascends : Ascends kept) :
    under name (Value.memberTrees kept) =
      ((valueUnder name kept).map fun value => (some name, value.tree)).toList := by
  induction kept with
  | nil => rfl
  | cons member rest ih =>
      obtain ⟨other, value⟩ := member
      obtain ⟨hfirst, hrest⟩ := List.pairwise_cons.mp hascends
      rw [Value.memberTrees, under_cons, valueUnder_cons, ih hrest]
      split
      · next heq =>
          have hnone : valueUnder name rest = none := by
            rw [valueUnder, Option.map_eq_none_iff, List.find?_eq_none]
            intro later hlater
            simpa [← heq] using (hfirst later hlater).ne'
          rw [hnone, heq]
          rfl
      · rfl

end Members

theorem itemTrees_eq_map (values : List Value) : Value.itemTrees values = values.map Value.tree := by
  induction values with
  | nil => rfl
  | cons value rest ih => rw [Value.itemTrees, ih, List.map_cons]

theorem itemValues_cons_iff {item : Tree} {rest : List Tree} {values : List Value} :
    Tree.itemValues? (item :: rest) = some values ↔ ∃ value others,
      item.value? = some value ∧ Tree.itemValues? rest = some others ∧ values = value :: others := by
  rw [Tree.itemValues?]
  cases item.value? <;> cases Tree.itemValues? rest <;> simp [eq_comm]

theorem kept_of_itemValues {items : List Tree} {values : List Value}
    (hvalues : Tree.itemValues? items = some values) :
    items.length = values.length ∧ ∀ index : Nat, Kept none items[index]? values[index]? := by
  induction items generalizing values with
  | nil =>
      obtain rfl := Option.some.inj hvalues
      exact ⟨rfl, fun _ => .none⟩
  | cons item rest ih =>
      obtain ⟨value, others, hvalue, hothers, rfl⟩ := itemValues_cons_iff.mp hvalues
      obtain ⟨hlength, hkept⟩ := ih hothers
      refine ⟨congrArg Nat.succ hlength, fun index => ?_⟩
      cases index with
      | zero => exact .some hvalue
      | succ index => exact hkept index

theorem isSome_of_mem_memberTrees {kept : List (String × Value)} :
    ∀ member ∈ Value.memberTrees kept, member.1.isSome = true := by
  induction kept with
  | nil => exact List.forall_mem_nil _
  | cons first rest ih => exact List.forall_mem_cons.mpr ⟨rfl, ih⟩

/-- A tree and the value that is kept of it. Other than objects and arrays are kept as they are. -/
inductive IsKept : Tree → Value → Prop
  | object {members : List (Option String × Tree)} {kept : List (String × Value)}
      (hkept : Tree.memberValues? [] members = some kept) : IsKept (.object members) (.object kept)
  | array {items : List Tree} {values : List Value}
      (hvalues : Tree.itemValues? items = some values) : IsKept (.array items) (.array values)
  | scalar (value : Value) (hscalar : value.depth = 0) : IsKept value.tree value

section Trees

variable {names : List String} {tree : Tree} {value : Value}

theorem isKept_of_value (hvalue : tree.value? = some value) : IsKept tree value := by
  cases tree with
  | null =>
      obtain rfl := Option.some.inj hvalue
      exact .scalar .null rfl
  | bool bit =>
      obtain rfl := Option.some.inj hvalue
      exact .scalar (.bool bit) rfl
  | number number =>
      rw [Tree.value?, Option.map_eq_some_iff] at hvalue
      obtain ⟨number, rfl, rfl⟩ := hvalue
      exact .scalar (.number number) rfl
  | string text =>
      rw [Tree.value?, Option.map_eq_some_iff] at hvalue
      obtain ⟨text, rfl, rfl⟩ := hvalue
      exact .scalar (.string text) rfl
  | array items =>
      rw [Tree.value?, Option.map_eq_some_iff] at hvalue
      obtain ⟨values, hvalues, rfl⟩ := hvalue
      exact .array hvalues
  | object members =>
      rw [Tree.value?, Option.map_eq_some_iff] at hvalue
      obtain ⟨kept, hkept, rfl⟩ := hvalue
      exact .object hkept

theorem field?_scalar (name : String) (hscalar : value.depth = 0) :
    field? names name value.tree = none := by
  cases value with
  | array items => cases hscalar
  | object members => cases hscalar
  | _ => rfl

theorem ascends_of_object {members : List (Option String × Tree)} {kept : List (String × Value)}
    (hkept : Tree.memberValues? [] members = some kept) : Ascends kept :=
  ascends_memberValues List.Pairwise.nil hkept

theorem isPlain_tree (hvalue : tree.value? = some value) : IsPlain names value.tree := by
  cases isKept_of_value hvalue with
  | object hkept =>
      refine ⟨isSome_of_mem_memberTrees, fun name _ => ?_⟩
      rw [under_memberTrees name (ascends_of_object hkept)]
      exact Option.length_toList_le
  | array => trivial
  | scalar => cases value <;> trivial

theorem isRecord_tree (hvalue : tree.value? = some value) :
    IsRecord names value.tree ↔ IsRecord names tree := by
  cases isKept_of_value hvalue with
  | object => exact Iff.rfl
  | array hvalues =>
      have hlength := (kept_of_itemValues hvalues).1
      simp only [IsRecord, Value.tree, itemTrees_eq_map, List.length_map, hlength]
  | scalar => exact Iff.rfl

/-- A value holds in a field what is kept of what its tree holds there. -/
theorem kept_field (names : List String) (name : String) (hvalue : tree.value? = some value) :
    ∃ kept, Kept none (field? names name tree) kept ∧
      field? names name value.tree = kept.map Value.tree := by
  cases isKept_of_value hvalue with
  | @object members kept hkept =>
      refine ⟨valueUnder name kept, kept_of_memberValues name hkept, ?_⟩
      rw [Value.tree, field?, under_memberTrees name (ascends_of_object hkept)]
      cases valueUnder name kept <;> rfl
  | @array items values hvalues =>
      refine ⟨values[names.idxOf name]?, (kept_of_itemValues hvalues).2 _, ?_⟩
      rw [Value.tree, field?, itemTrees_eq_map, List.getElem?_map]
  | scalar _ hscalar =>
      rw [field?_scalar name hscalar]
      exact ⟨none, .none, rfl⟩

theorem exists_value_of_field {name : String} {item : Tree} (hvalue : tree.value? = some value)
    (hfield : field? names name tree = some item) : ∃ kept, item.value? = some kept := by
  obtain ⟨_, hkept, -⟩ := kept_field names name hvalue
  rw [hfield] at hkept
  cases hkept with
  | some hitem => exact ⟨_, hitem⟩

end Trees

end BuildHerald.Proofs.RecordShapes
