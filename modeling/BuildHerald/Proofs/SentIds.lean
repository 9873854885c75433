import BuildHerald.Proofs.RecordShapes
import BuildHerald.Telegram.Bot
import Mathlib.Algebra.Group.Int.Defs

/-!
Which id the server tells of a message that it takes.

The answer is a JSON document. The id stands in its member `result`, there in the member `message_id`,
and is an integer with sign of 64 bits. It is not found if the document has a part that cannot be read,
wherever that part stands.
-/

namespace BuildHerald.Proofs.SentIds

open BuildHerald.Http
open BuildHerald.Json
open BuildHerald.Telegram
open BuildHerald.Proofs.RecordShapes

/-! ### Answers -/

/-- Every string of a tree has a text, and every number a value. -/
inductive IsReadable : Tree → Prop
  | null : IsReadable .null
  | bool (value : Bool) : IsReadable (.bool value)
  | number (value : Number) : IsReadable (.number (some value))
  | string (text : String) : IsReadable (.string (some text))
  | array {items : List Tree} (hitems : ∀ item ∈ items, IsReadable item) : IsReadable (.array items)
  | object {members : List (Option String × Tree)}
      (hnames : ∀ member ∈ members, member.1.isSome = true)
      (hmembers : ∀ member ∈ members, IsReadable member.2) : IsReadable (.object members)

/-- What an object holds under a name. Of several members with the name the last counts. -/
def member? (name : String) : Tree → Option Tree
  | .object members => (under name members).getLast?.map Prod.snd
  | _ => none

/-- A document in which the server tells an id. -/
structure IsAnswer (document : Tree) (id : Int) : Prop where
  readable : IsReadable document
  shallow : document.depth ≤ Tree.depthLimit
  told : ∃ result, member? "result" document = some result ∧
    member? "message_id" result = some (.number (some (.int id)))
  inRange : -2 ^ 63 ≤ id ∧ id < 2 ^ 63

/-- A response tells an id: its whole body has arrived, and is a document that does. -/
def TellsId (response : Response) (id : Int) : Prop :=
  response.complete = true ∧
    ∃ document, Json.ofBytes? response.body.flatten = some document ∧ IsAnswer document id

/-! ### What can be read of a tree -/

mutual

theorem value?_isSome_iff (tree : Tree) : tree.value?.isSome = true ↔ IsReadable tree := by
  cases tree with
  | null => exact ⟨fun _ => .null, fun _ => rfl⟩
  | bool value => exact ⟨fun _ => .bool value, fun _ => rfl⟩
  | number value =>
      cases value with
      | none => exact ⟨nofun, nofun⟩
      | some value => exact ⟨fun _ => .number value, fun _ => rfl⟩
  | string text =>
      cases text with
      | none => exact ⟨nofun, nofun⟩
      | some text => exact ⟨fun _ => .string text, fun _ => rfl⟩
  | array items =>
      rw [Tree.value?, Option.isSome_map, itemValues?_isSome_iff items]
      constructor
      · exact .array
      · rintro ⟨⟩
        assumption
  | object members =>
      rw [Tree.value?, Option.isSome_map, memberValues?_isSome_iff [] members]
      constructor
      · intro hmembers
        exact .object (fun member hmem => (hmembers member hmem).1) fun member hmem =>
          (hmembers member hmem).2
      · rintro (_ | _ | _ | _ | _ | ⟨hnames, hmembers⟩)
        exact fun member hmem => ⟨hnames member hmem, hmembers member hmem⟩

theorem itemValues?_isSome_iff (items : List Tree) :
    (Tree.itemValues? items).isSome = true ↔ ∀ item ∈ items, IsReadable item := by
  cases items with
  | nil => exact ⟨fun _ => List.forall_mem_nil _, fun _ => rfl⟩
  | cons item rest =>
      rw [List.forall_mem_cons, ← value?_isSome_iff item, ← itemValues?_isSome_iff rest,
        Tree.itemValues?]
      cases item.value? <;> cases Tree.itemValues? rest <;> simp

theorem memberValues?_isSome_iff (held : List (String × Value))
    (members : List (Option String × Tree)) :
    (Tree.memberValues? held members).isSome = true ↔
      ∀ member ∈ members, member.1.isSome = true ∧ IsReadable member.2 := by
  match members with
  | [] => exact ⟨fun _ => List.forall_mem_nil _, fun _ => rfl⟩
  | (none, item) :: rest => simp [Tree.memberValues?]
  | (some name, item) :: rest =>
      rw [List.forall_mem_cons, ← value?_isSome_iff item, Tree.memberValues?]
      cases hvalue : item.value? with
      | none => simp
      | some value =>
          have hrest := memberValues?_isSome_iff (insertMember name value held) rest
          simp [hrest]

end

section Kept

variable {tree : Tree} {value held : Value} {name : String} {id : Int}

/-- A value holds under a name what is kept of what its tree holds there. -/
theorem kept_member (name : String) (hvalue : tree.value? = some value) :
    Kept none (member? name tree) (value.get? name) := by
  cases isKept_of_value hvalue with
  | object hkept => exact kept_of_memberValues name hkept
  | array => exact .none
  | scalar value hscalar =>
      cases value with
      | object members => cases hscalar
      | _ => exact .none

theorem get?_eq_some_iff (hvalue : tree.value? = some value) :
    value.get? name = some held ↔ ∃ item, member? name tree = some item ∧ item.value? = some held := by
  have hkept := kept_member name hvalue
  generalize member? name tree = item? at hkept ⊢
  generalize value.get? name = held? at hkept ⊢
  cases hkept with
  | none => simp
  | some hitem => simp [hitem]

theorem exists_value_of_member {item : Tree} (hvalue : tree.value? = some value)
    (hmember : member? name tree = some item) : ∃ kept, item.value? = some kept := by
  have hkept := kept_member name hvalue
  rw [hmember] at hkept
  generalize value.get? name = held? at hkept
  cases hkept with
  | some hitem => exact ⟨_, hitem⟩

theorem value_eq_int_iff : tree.value? = some (.number (.int id)) ↔ tree = .number (some (.int id)) := by
  cases tree <;> simp [Tree.value?]

theorem int64?_eq_some_iff :
    value.int64? = some id ↔ value = .number (.int id) ∧ -2 ^ 63 ≤ id ∧ id < 2 ^ 63 := by
  unfold Value.int64?
  split
  · next found =>
      rw [Option.ite_none_right_eq_some, Option.some.injEq]
      constructor
      · rintro ⟨hrange, rfl⟩
        exact ⟨rfl, hrange⟩
      · rintro ⟨hfound, hrange⟩
        cases hfound
        exact ⟨hrange, rfl⟩
  · next hother => exact ⟨nofun, fun hint => absurd hint.1 (hother id)⟩

end Kept

theorem value?_eq_some_iff {response : Response} {value : Value} :
    response.value? = some value ↔
      response.complete = true ∧ ∃ document, Json.ofBytes? response.body.flatten = some document ∧
        document.depth ≤ Tree.depthLimit ∧ document.value? = some value := by
  have hany (document : Tree) : (Shape.any 0 document).toOption = document.valueWithin? 0 := by
    unfold Shape.any
    split <;> simp [*, Except.toOption]
  simp [Response.value?, Response.read?, Response.bytes?, Option.bind_eq_some_iff, hany,
    valueWithin_eq_some_iff, and_assoc]

/-- The id that is found is the one that the server tells. -/
theorem sentId?_eq_some_iff {response : Response} {id : Int} :
    Bot.sentId? response = some id ↔ TellsId response id := by
  simp only [Bot.sentId?, Option.bind_eq_bind, Option.bind_eq_some_iff]
  constructor
  · rintro ⟨answer, hanswer, result, hresult, held, hheld, hid⟩
    obtain ⟨hcomplete, document, hdocument, hshallow, hvalue⟩ := value?_eq_some_iff.mp hanswer
    obtain ⟨tree, htree, htreeValue⟩ := (get?_eq_some_iff hvalue).mp hresult
    obtain ⟨item, hitem, hitemValue⟩ := (get?_eq_some_iff htreeValue).mp hheld
    obtain ⟨rfl, hrange⟩ := int64?_eq_some_iff.mp hid
    obtain rfl := value_eq_int_iff.mp hitemValue
    exact ⟨hcomplete, document, hdocument, (value?_isSome_iff document).mp
      (Option.isSome_of_eq_some hvalue), hshallow, ⟨tree, htree, hitem⟩, hrange⟩
  · rintro ⟨hcomplete, document, hdocument, hreadable, hshallow, ⟨tree, htree, hitem⟩, hrange⟩
    obtain ⟨answer, hvalue⟩ :=
      Option.isSome_iff_exists.mp ((value?_isSome_iff document).mpr hreadable)
    obtain ⟨result, htreeValue⟩ := exists_value_of_member hvalue htree
    exact ⟨answer, value?_eq_some_iff.mpr ⟨hcomplete, document, hdocument, hshallow, hvalue⟩,
      result, (get?_eq_some_iff hvalue).mpr ⟨tree, htree, htreeValue⟩,
      .number (.int id), (get?_eq_some_iff htreeValue).mpr ⟨_, hitem, value_eq_int_iff.mpr rfl⟩,
      int64?_eq_some_iff.mpr ⟨rfl, hrange⟩⟩

end BuildHerald.Proofs.SentIds
