import BuildHerald.EventStream.Event
import BuildHerald.Proofs.RecordShapes
import Mathlib.Algebra.Group.Int.Defs

/-!
What an envelope carries, and what is read of it.

An envelope gives the kind of an event and data in the form of that kind. The data are described here on
the text as it was sent: fields may come in any order and with others between them, and of a field given
several times in the data the last counts.
-/

namespace BuildHerald.Proofs.EventEnvelopes

open BuildHerald.Json
open BuildHerald.EventStream
open BuildHerald.EventStream.Event
open BuildHerald.Proofs.RecordShapes

/-! ### What data carry -/

def kindOf : Event → String
  | .prepare .. => "initialize-task"
  | .start => "start-task"
  | .log _ => "log"
  | .error _ => "error"
  | .finish _ => "finish-task"

/-- The kinds of the events that transcripts are made from. -/
def kinds : List String :=
  ["initialize-task", "start-task", "log", "error", "finish-task"]

def textTree (text : String) : Tree :=
  .string (some text)

/-- A field holds a text. An empty text may be left out. -/
def HoldsText : Option Tree → String → Prop
  | some item, text => item = textTree text
  | none, text => text = ""

/-- A field holds several texts. If there are none, they may be left out. -/
def HoldsTexts : Option Tree → List String → Prop
  | some item, texts => item = .array (texts.map textTree)
  | none, texts => texts = []

/-- The fields of the command line of a task. -/
def commandNames : List String :=
  ["path", "args"]

/-- Data that carry an event. -/
inductive Carries : Tree → Event → Prop
  | prepare {data config run : Tree} {path : String} {args : List String}
      (hdata : IsRecord ["config"] data) (hconfig : field? ["config"] "config" data = some config)
      (hrecord : IsRecord ["run"] config) (hrun : field? ["run"] "run" config = some run)
      (hcommand : IsRecord commandNames run)
      (hpath : field? commandNames "path" run = some (textTree path))
      (hargs : HoldsTexts (field? commandNames "args" run) args) : Carries data (.prepare path args)
  | start (data : Tree) : Carries data .start
  | log {data : Tree} {text : String} (hdata : IsRecord ["payload"] data)
      (htext : HoldsText (field? ["payload"] "payload" data) text) : Carries data (.log text)
  | error {data : Tree} {message : String} (hdata : IsRecord ["message"] data)
      (hmessage : HoldsText (field? ["message"] "message" data) message) :
      Carries data (.error message)
  | finish {data : Tree} {status : Int} (hdata : IsRecord ["exit_status"] data)
      (hstatus : field? ["exit_status"] "exit_status" data = some (.number (some (.int status))))
      (hleast : -2 ^ 31 ≤ status) (hgreatest : status < 2 ^ 31) : Carries data (.finish status)

/-! ### Envelopes -/

def envelopeNames : List String :=
  ["event", "data"]

/-- A tree that is an envelope of some kind with some data, which are null if they are left out. No field
of an envelope is given twice. -/
structure IsEnvelope (tree : Tree) (kind : String) (data : Tree) : Prop where
  isRecord : IsRecord envelopeNames tree
  isPlain : IsPlain envelopeNames tree
  kind_eq : field? envelopeNames "event" tree = some (textTree kind)
  data_eq : (field? envelopeNames "data" tree).getD .null = data
  readable : (data.valueWithin? 1).isSome = true

/-- A text in which an envelope can be read. -/
def Encloses (text : String) (kind : String) (data : Tree) : Prop :=
  ∃ tree, ofText? text = some tree ∧ IsEnvelope tree kind data

/-! ### Shapes of records -/

section Shapes

variable {α : Type} {title name : String} {shape : Shape α} {tree : Tree}

theorem soleField_eq_ok_iff {value : α} :
    soleField title name shape tree = .ok value ↔ IsRecord [name] tree ∧ IsPlain [name] tree ∧
      Yields shape (field? [name] name tree) value := by
  refine bind_ofTree_eq_ok_iff [.required name shape] (List.pairwise_singleton _ _) ?_ ?_
  · intro record hheld
    have hname : held? record name = field? [name] name tree := hheld _ List.mem_cons_self
    rw [get_eq_ok_iff, hname]
  · intro hyields
    exact List.forall_mem_singleton.mpr (takes_required_iff.mpr ⟨value, hyields⟩)

theorem soleText_eq_ok_iff {text : String} :
    soleText title name tree = .ok text ↔ IsRecord [name] tree ∧ IsPlain [name] tree ∧
      YieldsOr "" Shape.text (field? [name] name tree) text := by
  refine bind_ofTree_eq_ok_iff [.allowed name Shape.text] (List.pairwise_singleton _ _) ?_ ?_
  · intro record hheld
    have hname : held? record name = field? [name] name tree := hheld _ List.mem_cons_self
    rw [getD_eq_ok_iff, hname]
  · intro hyields
    exact List.forall_mem_singleton.mpr ((takes_allowed_iff "").mpr ⟨text, hyields⟩)

theorem commandShape_eq_ok_iff {path : String} {args : List String} :
    commandShape tree = .ok (path, args) ↔
      IsRecord commandNames tree ∧ IsPlain commandNames tree ∧
        Yields Shape.text (field? commandNames "path" tree) path ∧
          YieldsOr [] (Shape.list Shape.text) (field? commandNames "args" tree) args := by
  refine bind_ofTree_eq_ok_iff _ (by decide) ?_ ?_
  · intro record hheld
    have hpath : held? record "path" = field? commandNames "path" tree :=
      hheld _ List.mem_cons_self
    have hargs : held? record "args" = field? commandNames "args" tree :=
      hheld _ (List.mem_cons_of_mem _ List.mem_cons_self)
    rw [← hpath, ← hargs, ← get_eq_ok_iff, ← getD_eq_ok_iff]
    exact bind_pair_eq_ok_iff fun _ _ _ _ heq => Prod.mk.inj heq
  · rintro ⟨hpath, hargs⟩
    rw [List.forall_mem_cons, List.forall_mem_singleton]
    exact ⟨takes_required_iff.mpr ⟨path, hpath⟩, (takes_allowed_iff []).mpr ⟨args, hargs⟩⟩

theorem envelopeShape_eq_ok_iff {kind : String} {value : Value} :
    envelopeShape tree = .ok ⟨kind, value⟩ ↔
      IsRecord envelopeNames tree ∧ IsPlain envelopeNames tree ∧
        Yields Shape.text (field? envelopeNames "event" tree) kind ∧
          YieldsOr .null (Shape.any 1) (field? envelopeNames "data" tree) value := by
  refine bind_ofTree_eq_ok_iff _ (by decide) ?_ ?_
  · intro record hheld
    have hkind : held? record "event" = field? envelopeNames "event" tree :=
      hheld _ List.mem_cons_self
    have hvalue : held? record "data" = field? envelopeNames "data" tree :=
      hheld _ (List.mem_cons_of_mem _ List.mem_cons_self)
    rw [← hkind, ← hvalue, ← get_eq_ok_iff, ← getD_eq_ok_iff]
    exact bind_pair_eq_ok_iff fun _ _ _ _ heq => Envelope.mk.inj heq
  · rintro ⟨hkind, hvalue⟩
    rw [envelopeFields, List.forall_mem_cons, List.forall_mem_singleton]
    exact ⟨takes_required_iff.mpr ⟨kind, hkind⟩, (takes_allowed_iff .null).mpr ⟨value, hvalue⟩⟩

end Shapes

/-! ### What is kept of data -/

section Kept

variable {α : Type} {item : Tree} {item? : Option Tree} {kept? : Option Value} {value : Value}

theorem tree_eq_iff {scalar : Tree} (hscalar : scalar.depth = 0) (hvalue : item.value? = some value) :
    value.tree = scalar ↔ item = scalar := by
  cases isKept_of_value hvalue with
  | object hkept =>
      constructor
      · rintro rfl
        cases hscalar
      · rintro rfl
        cases hscalar
  | array hvalues =>
      constructor
      · rintro rfl
        cases hscalar
      · rintro rfl
        cases hscalar
  | scalar => exact Iff.rfl

theorem text_eq_ok_iff {tree : Tree} {text : String} :
    Shape.text tree = .ok text ↔ tree = textTree text := by
  rw [textTree]
  constructor
  · intro hread
    unfold Shape.text at hread
    split at hread
    · rw [Except.ok.inj hread]
    · cases hread
    · cases hread
  · rintro rfl
    rfl

theorem text_eq_ok_iff_of_value {text : String} (hvalue : item.value? = some value) :
    Shape.text value.tree = .ok text ↔ item = textTree text := by
  rw [text_eq_ok_iff, textTree, tree_eq_iff rfl hvalue]

theorem mapM_text_eq_ok_iff {items : List Tree} {values : List Value} {texts : List String}
    (hvalues : Tree.itemValues? items = some values) :
    (Value.itemTrees values).mapM Shape.text = .ok texts ↔ items = texts.map textTree := by
  induction items generalizing values texts with
  | nil =>
      obtain rfl := Option.some.inj hvalues
      cases texts <;> simp [Value.itemTrees, pure, Except.pure]
  | cons item rest ih =>
      obtain ⟨value, others, hvalue, hothers, rfl⟩ := itemValues_cons_iff.mp hvalues
      rw [Value.itemTrees, List.mapM_cons]
      cases texts with
      | nil =>
          constructor
          · intro hread
            obtain ⟨_, -, hread⟩ := bind_eq_ok_iff.mp hread
            obtain ⟨_, -, hread⟩ := bind_eq_ok_iff.mp hread
            cases hread
          · intro hnone
            cases hnone
      | cons text texts =>
          rw [List.map_cons, List.cons.injEq, ← ih hothers, ← text_eq_ok_iff_of_value hvalue]
          exact bind_pair_eq_ok_iff fun _ _ _ _ heq => List.cons.inj heq

theorem texts_eq_ok_iff_of_value {texts : List String} (hvalue : item.value? = some value) :
    Shape.list Shape.text value.tree = .ok texts ↔ item = .array (texts.map textTree) := by
  cases isKept_of_value hvalue with
  | object => simp [Shape.list, Value.tree]
  | array hvalues =>
      rw [Value.tree, Json.array.injEq]
      exact mapM_text_eq_ok_iff hvalues
  | scalar _ hscalar =>
      cases value with
      | array => cases hscalar
      | object => cases hscalar
      | _ => simp [Shape.list, Value.tree]

theorem int_eq_ok_iff {tree : Tree} {least greatest number : Int} {wanted : String} :
    Shape.int least greatest wanted tree = .ok number ↔
      tree = .number (some (.int number)) ∧ least ≤ number ∧ number ≤ greatest := by
  constructor
  · intro hread
    unfold Shape.int at hread
    split at hread
    · split at hread
      · next hrange =>
          obtain rfl := Except.ok.inj hread
          exact ⟨rfl, hrange⟩
      · cases hread
    · cases hread
    · cases hread
  · rintro ⟨rfl, hrange⟩
    exact if_pos hrange

theorem yields_text_iff {text : String} (hkept : Kept none item? kept?) :
    Yields Shape.text (kept?.map Value.tree) text ↔ item? = some (textTree text) := by
  cases hkept with
  | none => simp [Yields]
  | some hvalue =>
      rw [Option.some.injEq, ← text_eq_ok_iff_of_value hvalue]
      exact yields_some_iff

theorem yields_int_iff {least greatest number : Int} {wanted : String}
    (hkept : Kept none item? kept?) :
    Yields (Shape.int least greatest wanted) (kept?.map Value.tree) number ↔
      item? = some (.number (some (.int number))) ∧ least ≤ number ∧ number ≤ greatest := by
  cases hkept with
  | none => simp [Yields]
  | some hvalue =>
      rw [Option.some.injEq, ← tree_eq_iff rfl hvalue, ← int_eq_ok_iff]
      exact yields_some_iff

theorem holdsText_iff {text : String} (hkept : Kept none item? kept?) :
    YieldsOr "" Shape.text (kept?.map Value.tree) text ↔ HoldsText item? text := by
  cases hkept with
  | none => exact yieldsOr_none_iff
  | some hvalue => exact yieldsOr_some_iff.trans (text_eq_ok_iff_of_value hvalue)

theorem holdsTexts_iff {texts : List String} (hkept : Kept none item? kept?) :
    YieldsOr [] (Shape.list Shape.text) (kept?.map Value.tree) texts ↔ HoldsTexts item? texts := by
  cases hkept with
  | none => exact yieldsOr_none_iff
  | some hvalue => exact yieldsOr_some_iff.trans (texts_eq_ok_iff_of_value hvalue)

theorem yields_kept_iff {shape : Shape α} {a : α} (hkept : Kept none item? kept?) :
    Yields shape (kept?.map Value.tree) a ↔
      ∃ item value, item? = some item ∧ item.value? = some value ∧ shape value.tree = .ok a := by
  cases hkept with
  | none => simp [Yields]
  | some hvalue => simp [Yields, hvalue]

end Kept

/-! ### What is read of data -/

section Data

variable {tree : Tree} {value : Value} {event : Event}

theorem soleText_iff {title name text : String} (hvalue : tree.value? = some value) :
    soleText title name value.tree = .ok text ↔
      IsRecord [name] tree ∧ HoldsText (field? [name] name tree) text := by
  obtain ⟨kept, hkept, hfield⟩ := kept_field [name] name hvalue
  rw [soleText_eq_ok_iff, isRecord_tree hvalue, hfield, holdsText_iff hkept]
  simp [isPlain_tree hvalue]

theorem soleField_iff {α : Type} {title name : String} {shape : Shape α} {a : α}
    (hvalue : tree.value? = some value) :
    soleField title name shape value.tree = .ok a ↔ IsRecord [name] tree ∧
      ∃ item kept, field? [name] name tree = some item ∧ item.value? = some kept ∧
        shape kept.tree = .ok a := by
  obtain ⟨kept, hkept, hfield⟩ := kept_field [name] name hvalue
  rw [soleField_eq_ok_iff, isRecord_tree hvalue, hfield, yields_kept_iff hkept]
  simp [isPlain_tree hvalue]

theorem commandShape_iff {path : String} {args : List String} (hvalue : tree.value? = some value) :
    commandShape value.tree = .ok (path, args) ↔ IsRecord commandNames tree ∧
      field? commandNames "path" tree = some (textTree path) ∧
        HoldsTexts (field? commandNames "args" tree) args := by
  obtain ⟨_, hpath, hpathField⟩ := kept_field commandNames "path" hvalue
  obtain ⟨_, hargs, hargsField⟩ := kept_field commandNames "args" hvalue
  rw [commandShape_eq_ok_iff, isRecord_tree hvalue, hpathField, hargsField, holdsTexts_iff hargs,
    yields_text_iff hpath]
  simp [isPlain_tree hvalue]

theorem prepareShape_iff (hvalue : tree.value? = some value) :
    prepareShape value.tree = .ok event ↔ kindOf event = "initialize-task" ∧ Carries tree event := by
  rw [prepareShape, map_eq_ok_iff]
  constructor
  · rintro ⟨⟨path, args⟩, hread, rfl⟩
    obtain ⟨hdata, config, keptConfig, hconfig, hconfigValue, hread⟩ := (soleField_iff hvalue).mp hread
    obtain ⟨hrecord, run, keptRun, hrun, hrunValue, hread⟩ := (soleField_iff hconfigValue).mp hread
    obtain ⟨hcommand, hpath, hargs⟩ := (commandShape_iff hrunValue).mp hread
    exact ⟨rfl, .prepare hdata hconfig hrecord hrun hcommand hpath hargs⟩
  · rintro ⟨hkind, hcarries⟩
    cases hcarries with
    | @prepare config run path args hdata hconfig hrecord hrun hcommand hpath hargs =>
        obtain ⟨keptConfig, hconfigValue⟩ := exists_value_of_field hvalue hconfig
        obtain ⟨keptRun, hrunValue⟩ := exists_value_of_field hconfigValue hrun
        have hread := (commandShape_iff hrunValue).mpr ⟨hcommand, hpath, hargs⟩
        refine ⟨(path, args), (soleField_iff hvalue).mpr ?_, rfl⟩
        refine ⟨hdata, config, keptConfig, hconfig, hconfigValue, ?_⟩
        exact (soleField_iff hconfigValue).mpr ⟨hrecord, _, _, hrun, hrunValue, hread⟩
    | _ => simp [kindOf] at hkind

theorem logShape_iff (hvalue : tree.value? = some value) :
    logShape value.tree = .ok event ↔ kindOf event = "log" ∧ Carries tree event := by
  rw [logShape, map_eq_ok_iff]
  constructor
  · rintro ⟨text, hread, rfl⟩
    obtain ⟨hdata, htext⟩ := (soleText_iff hvalue).mp hread
    exact ⟨rfl, .log hdata htext⟩
  · rintro ⟨hkind, hcarries⟩
    cases hcarries with
    | log hdata htext => exact ⟨_, (soleText_iff hvalue).mpr ⟨hdata, htext⟩, rfl⟩
    | _ => simp [kindOf] at hkind

theorem errorShape_iff (hvalue : tree.value? = some value) :
    errorShape value.tree = .ok event ↔ kindOf event = "error" ∧ Carries tree event := by
  rw [errorShape, map_eq_ok_iff]
  constructor
  · rintro ⟨message, hread, rfl⟩
    obtain ⟨hdata, hmessage⟩ := (soleText_iff hvalue).mp hread
    exact ⟨rfl, .error hdata hmessage⟩
  · rintro ⟨hkind, hcarries⟩
    cases hcarries with
    | error hdata hmessage => exact ⟨_, (soleText_iff hvalue).mpr ⟨hdata, hmessage⟩, rfl⟩
    | _ => simp [kindOf] at hkind

theorem finishShape_iff (hvalue : tree.value? = some value) :
    finishShape value.tree = .ok event ↔ kindOf event = "finish-task" ∧ Carries tree event := by
  obtain ⟨_, hkept, hfield⟩ := kept_field ["exit_status"] "exit_status" hvalue
  have hgreatest (status : Int) : status ≤ Int.pow 2 31 - 1 ↔ status < 2 ^ 31 := Int.le_sub_one_iff
  rw [finishShape, map_eq_ok_iff]
  simp only [soleField_eq_ok_iff, hfield, yields_int_iff hkept, isRecord_tree hvalue,
    isPlain_tree hvalue, true_and, hgreatest]
  constructor
  · rintro ⟨status, ⟨hdata, hstatus, hleast, hgreatest⟩, rfl⟩
    exact ⟨rfl, .finish hdata hstatus hleast hgreatest⟩
  · rintro ⟨hkind, hcarries⟩
    cases hcarries with
    | finish hdata hstatus hleast hgreatest =>
        exact ⟨_, ⟨hdata, hstatus, hleast, hgreatest⟩, rfl⟩
    | _ => simp [kindOf] at hkind

/-- Data are read in the shape of their kind exactly as the event that they carry. -/
theorem shape_iff_carries {kind : String} {shape : Shape Event} (hshape : shapeOf? kind = some shape)
    (hvalue : tree.value? = some value) :
    shape value.tree = .ok event ↔ kindOf event = kind ∧ Carries tree event := by
  unfold shapeOf? at hshape
  split at hshape
  · cases hshape
    exact prepareShape_iff hvalue
  · cases hshape
    constructor
    · intro hstart
      cases hstart
      exact ⟨rfl, .start tree⟩
    · rintro ⟨hkind, hcarries⟩
      cases hcarries with
      | start => rfl
      | _ => simp [kindOf] at hkind
  · cases hshape
    exact logShape_iff hvalue
  · cases hshape
    exact errorShape_iff hvalue
  · cases hshape
    exact finishShape_iff hvalue
  · cases hshape

end Data

theorem kindOf_mem_kinds (event : Event) : kindOf event ∈ kinds := by
  cases event <;> simp [kindOf, kinds]

theorem shapeOf?_isSome_iff {kind : String} : (shapeOf? kind).isSome = true ↔ kind ∈ kinds := by
  unfold shapeOf? kinds
  split <;> simp_all

/-! ### What is read of a text -/

theorem yieldsOr_any_iff {item? : Option Tree} {value : Value} :
    YieldsOr .null (Shape.any 1) item? value ↔ (item?.getD .null).valueWithin? 1 = some value := by
  cases item? with
  | none => exact yieldsOr_none_iff.trans (eq_comm.trans (Option.some.injEq .null value).symm.to_iff)
  | some item =>
      rw [yieldsOr_some_iff, Shape.any, Option.getD_some]
      cases item.valueWithin? 1 <;> simp

theorem envelopeShape_iff {tree : Tree} {kind : String} {value : Value} :
    envelopeShape tree = .ok ⟨kind, value⟩ ↔
      ∃ data, IsEnvelope tree kind data ∧ data.valueWithin? 1 = some value := by
  rw [envelopeShape_eq_ok_iff, yieldsOr_any_iff]
  constructor
  · rintro ⟨hrecord, hplain, ⟨item, hitem, hkind⟩, hvalue⟩
    rw [text_eq_ok_iff.mp hkind] at hitem
    exact ⟨_, ⟨hrecord, hplain, hitem, rfl, Option.isSome_of_eq_some hvalue⟩, hvalue⟩
  · rintro ⟨data, ⟨hrecord, hplain, hkind, rfl, -⟩, hvalue⟩
    exact ⟨hrecord, hplain, ⟨_, hkind, text_eq_ok_iff.mpr rfl⟩, hvalue⟩

section Decode

variable {text kind : String} {data : Tree}

theorem decode_of_encloses (hencloses : Encloses text kind data) :
    ∃ value, data.value? = some value ∧ decode text = ofEnvelope ⟨kind, value⟩ := by
  obtain ⟨tree, htree, henvelope⟩ := hencloses
  obtain ⟨value, hvalue⟩ := Option.isSome_iff_exists.mp henvelope.readable
  refine ⟨value, (valueWithin_eq_some_iff.mp hvalue).2, ?_⟩
  have hshape := envelopeShape_iff.mpr ⟨data, henvelope, hvalue⟩
  simp only [decode, htree, hshape]

theorem encloses_of_decode (hdecode : decode text ≠ .error .unreadableEnvelope) :
    ∃ kind data, Encloses text kind data := by
  unfold decode at hdecode
  split at hdecode
  · exact absurd rfl hdecode
  · next tree htree =>
      split at hdecode
      · next envelope henvelope =>
          obtain ⟨data, hdata, -⟩ := envelopeShape_iff.mp henvelope
          exact ⟨envelope.kind, data, tree, htree, hdata⟩
      · exact absurd rfl hdecode

theorem decode_of_carries (hencloses : Encloses text kind data) {event : Event}
    (hkind : kindOf event = kind) (hcarries : Carries data event) :
    decode text = .ok (some event) := by
  obtain ⟨value, hvalue, hdecode⟩ := decode_of_encloses hencloses
  obtain ⟨shape, hshape⟩ := Option.isSome_iff_exists.mp
    (shapeOf?_isSome_iff.mpr (hkind ▸ kindOf_mem_kinds event))
  simp only [hdecode, ofEnvelope, hshape, (shape_iff_carries hshape hvalue).mpr ⟨hkind, hcarries⟩]

/-- The three ways in which an envelope can be read. -/
theorem decode_cases (hencloses : Encloses text kind data) :
    (∃ event, decode text = .ok (some event) ∧ kindOf event = kind ∧ Carries data event) ∨
      (kind ∈ kinds ∧ ∃ reason, decode text = .error (.malformedEvent (kind ++ ": " ++ reason))) ∨
      (kind ∉ kinds ∧ decode text = .ok none) := by
  obtain ⟨value, hvalue, hdecode⟩ := decode_of_encloses hencloses
  rw [hdecode, ← shapeOf?_isSome_iff]
  cases hshape : shapeOf? kind with
  | none => exact .inr (.inr ⟨Bool.false_ne_true, by simp only [ofEnvelope, hshape]⟩)
  | some shape =>
      simp only [ofEnvelope, hshape]
      cases hread : shape value.tree with
      | ok event => exact .inl ⟨event, rfl, (shape_iff_carries hshape hvalue).mp hread⟩
      | error mismatch => exact .inr (.inl ⟨rfl, mismatch.message, rfl⟩)

theorem decode_eq_some_iff (hencloses : Encloses text kind data) {event : Event} :
    decode text = .ok (some event) ↔ kindOf event = kind ∧ Carries data event := by
  constructor
  · intro hevent
    obtain ⟨other, hdecode, hother⟩ | ⟨-, _, hdecode⟩ | ⟨-, hdecode⟩ := decode_cases hencloses
    · rw [hdecode] at hevent
      cases hevent
      exact hother
    · rw [hdecode] at hevent
      cases hevent
    · rw [hdecode] at hevent
      cases hevent
  · rintro ⟨hkind, hcarries⟩
    exact decode_of_carries hencloses hkind hcarries

theorem decode_eq_none_iff (hencloses : Encloses text kind data) :
    decode text = .ok none ↔ kind ∉ kinds := by
  obtain ⟨event, hdecode, rfl, -⟩ | ⟨hkind, _, hdecode⟩ | ⟨hkind, hdecode⟩ :=
    decode_cases hencloses
  · simp [hdecode, kindOf_mem_kinds event]
  · simp [hdecode, hkind]
  · simp [hdecode, hkind]

/-- Data that do not carry an event of their kind are an error that names the kind. -/
theorem decode_of_misfit (hencloses : Encloses text kind data) (hkind : kind ∈ kinds)
    (hmisfit : ∀ event, kindOf event = kind → ¬ Carries data event) :
    ∃ reason, decode text = .error (.malformedEvent (kind ++ ": " ++ reason)) := by
  obtain ⟨event, -, hevent, hcarries⟩ | ⟨-, herror⟩ | ⟨hother, -⟩ := decode_cases hencloses
  · exact absurd hcarries (hmisfit event hevent)
  · exact herror
  · exact absurd hkind hother

theorem decode_ne_unreadable (hencloses : Encloses text kind data) :
    decode text ≠ .error .unreadableEnvelope := by
  obtain ⟨event, hdecode, -⟩ | ⟨-, reason, hdecode⟩ | ⟨-, hdecode⟩ := decode_cases hencloses <;>
    simp [hdecode]

end Decode

/-- An envelope is read as the event that its data carry. One of another kind is passed over, and data
that carry no event of their kind are an error that names the kind. -/
theorem decoded_as_carried (text : String) :
    (∀ kind data, Encloses text kind data →
      (∀ event, decode text = .ok (some event) ↔ kindOf event = kind ∧ Carries data event) ∧
      (decode text = .ok none ↔ kind ∉ kinds) ∧
      (kind ∈ kinds → (∀ event, kindOf event = kind → ¬ Carries data event) →
        ∃ reason, decode text = .error (.malformedEvent (kind ++ ": " ++ reason)))) ∧
      ((∃ kind data, Encloses text kind data) ↔ decode text ≠ .error .unreadableEnvelope) := by
  refine ⟨fun kind data hencloses => ?_, ?_, encloses_of_decode⟩
  · exact ⟨fun event => decode_eq_some_iff hencloses, decode_eq_none_iff hencloses,
      decode_of_misfit hencloses⟩
  · rintro ⟨kind, data, hencloses⟩
    exact decode_ne_unreadable hencloses

theorem ofText?_ofList (text : List Char) :
    ofText? (String.ofList text) = Reader.document? (text.map some) := by
  rw [ofText?, String.toList_ofList]

/-- An envelope in an unusual order, with members that tell nothing. One of them is no readable text. -/
def crowdedEnvelope : String :=
  "\x7b\"note\": \"\\ud800\", \"data\": \x7b\"origin\": [1], \"payload\": \"a\\n\"\x7d, \"event\": \"log\"\x7d"

def crowdedData : Tree :=
  .object [(some "origin", .array [.number (some (.int 1))]), (some "payload", textTree "a\n")]

theorem encloses_crowdedEnvelope : Encloses crowdedEnvelope "log" crowdedData := by
  refine ⟨.object [(some "note", .string none), (some "data", crowdedData),
    (some "event", textTree "log")], (ofText?_ofList _).trans rfl, trivial, ⟨?_, ?_⟩, rfl, rfl, ?_⟩
  · simp
  · decide
  · decide +kernel

/-- An exit status that has no 32 bits. -/
def strayStatus : String :=
  "\x7b\"event\": \"finish-task\", \"data\": \x7b\"exit_status\": 2147483648\x7d\x7d"

def strayData : Tree :=
  .object [(some "exit_status", .number (some (.int 2147483648)))]

theorem encloses_strayStatus : Encloses strayStatus "finish-task" strayData := by
  refine ⟨.object [(some "event", textTree "finish-task"), (some "data", strayData)],
    (ofText?_ofList _).trans rfl, trivial, ⟨?_, ?_⟩, rfl, rfl, ?_⟩
  · simp
  · decide
  · decide +kernel

theorem not_carries_strayData (event : Event) (hkind : kindOf event = "finish-task") :
    ¬ Carries strayData event := by
  intro hcarries
  cases hcarries with
  | finish _ hstatus _ hgreatest =>
      cases hstatus
      exact absurd hgreatest (by decide)
  | _ => simp [kindOf] at hkind

/-- The log message of a crowded envelope is read, and an exit status out of range is an error. -/
theorem crowdedEnvelope_decoded :
    Encloses crowdedEnvelope "log" crowdedData ∧ Carries crowdedData (.log "a\n") ∧
      decode crowdedEnvelope = .ok (some (.log "a\n")) ∧
      Encloses strayStatus "finish-task" strayData ∧
      (∀ event, kindOf event = "finish-task" → ¬ Carries strayData event) ∧
      ∃ reason, decode strayStatus = .error (.malformedEvent ("finish-task" ++ ": " ++ reason)) := by
  have hcarries : Carries crowdedData (.log "a\n") := .log trivial rfl
  obtain ⟨hevent, -, -⟩ :=
    (decoded_as_carried crowdedEnvelope).1 "log" crowdedData encloses_crowdedEnvelope
  obtain ⟨-, -, herror⟩ :=
    (decoded_as_carried strayStatus).1 "finish-task" strayData encloses_strayStatus
  exact ⟨encloses_crowdedEnvelope, hcarries, (hevent _).mpr ⟨rfl, hcarries⟩, encloses_strayStatus,
    not_carries_strayData, herror (by decide) not_carries_strayData⟩

end BuildHerald.Proofs.EventEnvelopes
