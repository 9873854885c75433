import BuildHerald.Proofs.DecodedStream
import BuildHerald.Transcript
import Mathlib.Logic.Relation

/-!
Noise in the event stream of a build.

A transcript is told by the events of the frames before the first end frame. Comments and frames
without an event can come between, and anything at all after the end frame.
-/

namespace BuildHerald.Proofs.StreamNoise

open BuildHerald.EventStream
open BuildHerald.Proofs.Framing
open BuildHerald.Proofs.DecodedStream

/-! ### What bytes tell -/

/-- The events of the frames before the first end frame. -/
def eventsOf (frames : List Frame) : List Event :=
  (itemsBeforeEnd frames).filterMap Except.toOption

/-- The text that the events in bytes make. -/
def told (bytes : List UInt8) : String :=
  ((eventsOf (framesOf bytes)).foldl Transcript.record .blank).text

theorem filterMap_toOption_yielded (frames : List Frame) (failure : Option String) :
    (yielded frames failure).filterMap Except.toOption = eventsOf frames := by
  have hbroken : (broken failure).filterMap Except.toOption = [] := by cases failure <;> rfl
  rw [yielded, List.filterMap_append, eventsOf]
  split
  · exact List.append_nil _
  · rw [hbroken, List.append_nil]

theorem eventsOf_append_of_end {first : List Frame} (hend : ∃ frame ∈ first, IsEnd frame)
    (second : List Frame) : eventsOf (first ++ second) = eventsOf first := by
  rw [← filterMap_toOption_yielded (first ++ second) none, ← filterMap_toOption_yielded first none,
    yielded_append_of_end hend]

theorem eventsOf_insert {frame : Frame} (hend : ¬ IsEnd frame)
    (hitems : frame.items.filterMap Except.toOption = []) (before after : List Frame) :
    eventsOf (before ++ frame :: after) = eventsOf (before ++ after) := by
  unfold eventsOf
  induction before with
  | nil =>
      rw [List.nil_append, itemsBeforeEnd_cons_of_not_end hend, List.filterMap_append, hitems]
      rfl
  | cons other before ih =>
      rw [List.cons_append, List.cons_append]
      by_cases hother : IsEnd other
      · rw [itemsBeforeEnd_cons_of_end hother, itemsBeforeEnd_cons_of_end hother]
      · rw [itemsBeforeEnd_cons_of_not_end hother, itemsBeforeEnd_cons_of_not_end hother,
          List.filterMap_append, ih, ← List.filterMap_append]

theorem foldl_recordItem (items : List Item) (transcript : Transcript) :
    items.foldl Transcript.recordItem transcript =
      (items.filterMap Except.toOption).foldl Transcript.record transcript := by
  induction items generalizing transcript with
  | nil => rfl
  | cons item items ih => cases item <;> apply ih

theorem ofItems_eq_told (body : List Chunk) :
    Transcript.ofItems (items body) = told (received body) := by
  rw [Transcript.ofItems, foldl_recordItem, items_eq_yielded, filterMap_toOption_yielded, told]

/-! ### Streams that keep one waiting -/

/-- All the items come by the deadline, and then the stream ends. -/
inductive Arrives (deadline : Nat) : Nat → List Item → List Transcript.Delivery → Prop
  | nil (now : Nat) : Arrives deadline now [] []
  | item {now : Nat} {items : List Item} {rest : List Transcript.Delivery} (item : Item)
      (hrest : Arrives deadline now items rest) :
      Arrives deadline now (item :: items) (.item item :: rest)
  | wait {now millis : Nat} {items : List Item} {rest : List Transcript.Delivery}
      (hle : now + millis ≤ deadline) (hrest : Arrives deadline (now + millis) items rest) :
      Arrives deadline now items (.wait millis :: rest)

theorem recordUntil_of_arrives {deadline now : Nat} {items : List Item}
    {deliveries : List Transcript.Delivery} (harrives : Arrives deadline now items deliveries)
    (transcript : Transcript) :
    (transcript.recordUntil deadline now deliveries).1 =
      items.foldl Transcript.recordItem transcript := by
  induction harrives generalizing transcript with
  | nil now => rfl
  | item item hrest ih => exact ih _
  | wait hle hrest ih =>
      rw [Transcript.recordUntil, if_pos hle]
      exact ih _

theorem ofSource_of_arrives {items : List Item} {deliveries : List Transcript.Delivery}
    (harrives : Arrives Transcript.timeLimit 0 items deliveries) :
    (Transcript.ofSource (.stream deliveries)).1 = Transcript.ofItems items := by
  change (Transcript.blank.recordUntil Transcript.timeLimit 0 deliveries).1.text = _
  rw [recordUntil_of_arrives harrives, Transcript.ofItems]

/-! ### Noise -/

def envelope? (data : String) : Option Event.Envelope :=
  (Json.ofText? data).bind fun tree => (Event.envelopeShape tree).toOption

/-- The frames that tell nothing and end nothing. -/
inductive Noise : Frame → Prop
  | name {frame : Frame} (hevent : frame.name ≠ "event") (hend : frame.name ≠ "end") : Noise frame
  | envelope {data : String} (hnone : envelope? data = none) : Noise ⟨"event", data⟩
  | kind {data : String} {envelope : Event.Envelope} (hsome : envelope? data = some envelope)
      (hkind : envelope.kind ∉ ["initialize-task", "start-task", "log", "error", "finish-task"]) :
      Noise ⟨"event", data⟩
  | misfit {data : String} {envelope : Event.Envelope} {shape : Json.Shape Event}
      (hsome : envelope? data = some envelope) (hshape : Event.shapeOf? envelope.kind = some shape)
      (hmisfit : ∀ event, shape envelope.data.tree ≠ .ok event) : Noise ⟨"event", data⟩

theorem shapeOf?_eq_none {kind : String}
    (hkind : kind ∉ ["initialize-task", "start-task", "log", "error", "finish-task"]) :
    Event.shapeOf? kind = none := by
  unfold Event.shapeOf?
  split <;> simp at hkind ⊢

theorem exists_envelope_of_decode {data : String} {event : Event}
    (hdecode : Event.decode data = .ok (some event)) :
    ∃ envelope shape, envelope? data = some envelope ∧
      Event.shapeOf? envelope.kind = some shape ∧ shape envelope.data.tree = .ok event := by
  unfold Event.decode at hdecode
  split at hdecode
  · cases hdecode
  · next tree htree =>
      split at hdecode
      · next envelope henvelope =>
          unfold Event.ofEnvelope at hdecode
          split at hdecode
          · cases hdecode
          · next shape hshape =>
              refine ⟨envelope, shape, ?_, hshape, ?_⟩
              · rw [envelope?, htree, Option.bind_some, henvelope]
                rfl
              · split at hdecode
                · next event' hevent =>
                    cases hdecode
                    exact hevent
                · cases hdecode
      · cases hdecode

theorem decode_of_noise {frame : Frame} (hnoise : Noise frame) (hname : frame.name = "event")
    (event : Event) : Event.decode frame.data ≠ .ok (some event) := by
  intro hdecode
  obtain ⟨envelope, shape, hsome, hshape, hevent⟩ := exists_envelope_of_decode hdecode
  cases hnoise with
  | name hother hend => exact hother hname
  | envelope hnone => exact absurd (hnone.symm.trans hsome) (Option.some_ne_none _).symm
  | kind hkindly hkind =>
      obtain rfl := Option.some.inj (hkindly.symm.trans hsome)
      exact absurd ((shapeOf?_eq_none hkind).symm.trans hshape) (Option.some_ne_none _).symm
  | misfit hmisfitting hfit hmisfit =>
      obtain rfl := Option.some.inj (hmisfitting.symm.trans hsome)
      obtain rfl := Option.some.inj (hfit.symm.trans hshape)
      exact hmisfit event hevent

theorem items_of_noise {frame : Frame} (hnoise : Noise frame) :
    frame.items.filterMap Except.toOption = [] := by
  unfold Frame.items
  split
  · next hname =>
      split
      · next event hdecode => exact absurd hdecode (decode_of_noise hnoise hname event)
      · rfl
      · rfl
  · rfl

theorem not_end_of_noise {frame : Frame} (hnoise : Noise frame) : ¬ IsEnd frame := by
  have hname : "event" ≠ "end" := by decide
  cases hnoise with
  | name hevent hend => exact hend
  | envelope | kind | misfit => exact hname

/-- The bytes of a stream with a disturbance put in, or with what follows an end frame left out. -/
inductive Disturbed : List UInt8 → List UInt8 → Prop
  | comment {first text : List UInt8} (hfirst : Whole 10 first) (htext : 10 ∉ text)
      (second : List UInt8) : Disturbed (first ++ second) (first ++ 58 :: text ++ 10 :: second)
  | frame {first noise : List UInt8} {frame : Frame} (hfirst : Closed first)
      (hclosed : Closed noise) (hframe : framesOf noise = [frame]) (hnoise : Noise frame)
      (second : List UInt8) : Disturbed (first ++ second) (first ++ noise ++ second)
  | cut {first : List UInt8} (hend : ∃ frame ∈ framesOf first, IsEnd frame)
      (second : List UInt8) : Disturbed (first ++ second) first

theorem told_of_disturbed {bytes other : List UInt8} (hdisturbed : Disturbed bytes other) :
    told other = told bytes := by
  unfold told
  cases hdisturbed with
  | comment hfirst htext second => rw [framesOf_insert_comment hfirst htext]
  | frame hfirst hclosed hframe hnoise second =>
      rw [List.append_assoc, framesOf_append_of_closed hfirst, framesOf_append_of_closed hfirst,
        framesOf_append_of_closed hclosed, hframe, List.singleton_append,
        eventsOf_insert (not_end_of_noise hnoise) (items_of_noise hnoise)]
  | cut hend second =>
      obtain ⟨more, hmore⟩ := framesOf_append other second
      rw [hmore, eventsOf_append_of_end hend]

theorem told_of_disturbances {bytes other : List UInt8}
    (hdisturbed : Relation.ReflTransGen Disturbed bytes other) : told other = told bytes := by
  induction hdisturbed with
  | refl => rfl
  | tail _ hstep ih => exact (told_of_disturbed hstep).trans ih

/-- However a body and a disturbed copy of it are cut into pieces, and however long the items of the
copy take within the time limit, the transcript is what the bytes of the first tell. -/
theorem disturbed_tells_same {body other : List Chunk}
    (hdisturbed : Relation.ReflTransGen Disturbed (received body) (received other)) :
    Transcript.ofItems (items body) = told (received body) ∧
      Transcript.ofItems (items other) = told (received body) ∧
      ∀ deliveries, Arrives Transcript.timeLimit 0 (items other) deliveries →
        (Transcript.ofSource (.stream deliveries)).1 = told (received body) := by
  have hother : Transcript.ofItems (items other) = told (received body) := by
    rw [ofItems_eq_told, told_of_disturbances hdisturbed]
  refine ⟨ofItems_eq_told body, hother, ?_⟩
  intro deliveries harrives
  rw [ofSource_of_arrives harrives, hother]

/-! A log event and an end frame, then once more with a comment inside the first frame, an unreadable
event after it and no late frame. -/

def nameLine : List UInt8 :=
  Text.Utf8.ofString "event: event\n"

def logLines : List UInt8 :=
  Text.Utf8.ofString "data: \x7b\"event\":\"log\",\"data\":\x7b\"payload\":\"hi\"\x7d\x7d\n\n"

def endFrame : List UInt8 :=
  Text.Utf8.ofString "event: end\n\n"

def lateFrame : List UInt8 :=
  Text.Utf8.ofString "event: end\ndata: late\n\n"

def unreadableFrame : List UInt8 :=
  Text.Utf8.ofString "event: event\ndata: gibberish\n\n"

def note : List UInt8 :=
  Text.Utf8.ofString " note"

def calmBody : List Chunk :=
  [.ok (nameLine ++ logLines), .ok endFrame, .ok lateFrame]

def noisyBody : List Chunk :=
  [.ok nameLine, .ok (58 :: note), .ok (10 :: logLines ++ unreadableFrame), .ok endFrame]

theorem noisyBody_disturbed :
    Relation.ReflTransGen Disturbed (received calmBody) (received noisyBody) := by
  have hunreadable : Noise ⟨"event", "gibberish"⟩ :=
    .envelope (Option.isNone_iff_eq_none.mp (by decide +kernel))
  have hcut : Disturbed (nameLine ++ logLines ++ endFrame ++ lateFrame)
      (nameLine ++ logLines ++ endFrame) :=
    .cut ⟨⟨"end", ""⟩, by decide +kernel, rfl⟩ lateFrame
  have hframe : Disturbed (nameLine ++ logLines ++ endFrame)
      (nameLine ++ logLines ++ unreadableFrame ++ endFrame) := by
    refine .frame ⟨.inr ?_, .inr ?_⟩ ⟨.inr ?_, .inr ?_⟩ ?_ hunreadable endFrame <;> decide +kernel
  have hcomment : Disturbed (nameLine ++ (logLines ++ unreadableFrame ++ endFrame))
      (nameLine ++ 58 :: note ++ 10 :: (logLines ++ unreadableFrame ++ endFrame)) := by
    refine .comment (.inr ?_) ?_ _ <;> decide +kernel
  rw [← List.append_assoc, ← List.append_assoc] at hcomment
  have hall := ((Relation.ReflTransGen.single hcut).tail hframe).tail hcomment
  simpa [received, calmBody, noisyBody] using hall

theorem noisyBody_told :
    Relation.ReflTransGen Disturbed (received calmBody) (received noisyBody) ∧
      Transcript.ofItems (items noisyBody) = "hi" := by
  have htold : told (received calmBody) = "hi" := by decide +kernel
  exact ⟨noisyBody_disturbed, (disturbed_tells_same noisyBody_disturbed).2.1.trans htold⟩

end BuildHerald.Proofs.StreamNoise
