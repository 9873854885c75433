import BuildHerald.EventStream.Items
import BuildHerald.Proofs.Framing
import Mathlib.Data.List.Forall2

/-!
What an event stream yields, whatever the pieces are that the body comes in.

The items wait in a queue while the body is taken in piece by piece. All of them come in the end, and
they are those of the frames in the bytes.
-/

namespace BuildHerald.Proofs.DecodedStream

open BuildHerald.EventStream
open BuildHerald.Proofs.Framing

/-! ### Draining the queue -/

theorem drain_of_next?_eq_none {decoder : Decoder} {body : List Chunk}
    (hnext : decoder.next? body = none) : decoder.drain body = [] := by
  rw [Decoder.drain]
  split
  · rfl
  · next hsome => exact absurd (hnext.symm.trans hsome) (Option.some_ne_none _).symm

theorem drain_of_next?_eq_some {decoder later : Decoder} {body rest : List Chunk} {item : Item}
    (hnext : decoder.next? body = some (item, later, rest)) :
    decoder.drain body = item :: later.drain rest := by
  rw [Decoder.drain]
  split
  · next hnone => exact absurd (hnone.symm.trans hnext) (Option.some_ne_none _).symm
  · next hsome =>
      cases hnext.symm.trans hsome
      rfl

theorem drain_waiting (framer : Framer) (waiting : List Item) (ended : Bool) (body : List Chunk) :
    Decoder.drain ⟨framer, waiting, ended⟩ body =
      waiting ++ Decoder.drain ⟨framer, [], ended⟩ body := by
  induction waiting with
  | nil => rfl
  | cons item waiting ih =>
      rw [drain_of_next?_eq_some (Decoder.next?_cons framer waiting ended item body), ih]
      rfl

theorem drain_ended (framer : Framer) (waiting : List Item) (body : List Chunk) :
    Decoder.drain ⟨framer, waiting, true⟩ body = waiting := by
  rw [drain_waiting, drain_of_next?_eq_none (Decoder.next?_ended framer body), List.append_nil]

theorem drain_cons (framer : Framer) (chunk : Chunk) (body : List Chunk) :
    Decoder.drain ⟨framer, [], false⟩ (chunk :: body) =
      (Decoder.takeChunk ⟨framer, [], false⟩ chunk).drain body := by
  have hnext : Decoder.next? ⟨framer, [], false⟩ (chunk :: body) =
      (Decoder.takeChunk ⟨framer, [], false⟩ chunk).next? body := rfl
  cases hlater : (Decoder.takeChunk ⟨framer, [], false⟩ chunk).next? body with
  | none => rw [drain_of_next?_eq_none hlater, drain_of_next?_eq_none (hnext.trans hlater)]
  | some found =>
      obtain ⟨item, later, rest⟩ := found
      rw [drain_of_next?_eq_some hlater, drain_of_next?_eq_some (hnext.trans hlater)]

/-! ### What frames and bodies come to -/

def IsEnd (frame : Frame) : Prop :=
  frame.name = "end"

instance (frame : Frame) : Decidable (IsEnd frame) :=
  inferInstanceAs (Decidable (frame.name = "end"))

/-- What a frame comes to. An event comes to what its data say, or to why they do not say it; of an
event that is of no interest, and of any other frame, nothing comes. -/
inductive Gives : Frame → List Item → Prop
  | event {data : String} {event : Event} :
      Event.decode data = .ok (some event) → Gives ⟨"event", data⟩ [.ok event]
  | unwanted {data : String} : Event.decode data = .ok none → Gives ⟨"event", data⟩ []
  | misread {data : String} {fault : ServerFault} :
      Event.decode data = .error fault → Gives ⟨"event", data⟩ [.error fault]
  | other {frame : Frame} : frame.name ≠ "event" → Gives frame []

/-- What the frames before the first end frame come to, each for itself. -/
def GivesBeforeEnd (frames : List Frame) (parts : List (List Item)) : Prop :=
  List.Forall₂ Gives (frames.takeWhile fun frame => ¬ IsEnd frame) parts

/-- The items of the frames before the first end frame. -/
def itemsBeforeEnd (frames : List Frame) : List Item :=
  (frames.takeWhile fun frame => ¬ IsEnd frame).flatMap Frame.items

/-- The bytes of a body up to the first failure. -/
def received : List Chunk → List UInt8
  | [] => []
  | .error _ :: _ => []
  | .ok bytes :: rest => bytes ++ received rest

/-- The reason of the first failure. -/
def failure? : List Chunk → Option String
  | [] => none
  | .error reason :: _ => some reason
  | .ok _ :: rest => failure? rest

/-- The item of a failure, if there is one. -/
def broken (failure : Option String) : List Item :=
  failure.toList.map fun reason => .error (.requestFailed "build events" reason)

/-- What comes of frames and of the failure after them. -/
def yielded (frames : List Frame) (failure : Option String) : List Item :=
  itemsBeforeEnd frames ++ if ∃ frame ∈ frames, IsEnd frame then [] else broken failure

/-- What comes of frames and of the failure after them, told frame by frame. -/
def Yields (frames : List Frame) (failure : Option String) (found : List Item) : Prop :=
  ∃ parts, GivesBeforeEnd frames parts ∧
    found = parts.flatten ++ if ∃ frame ∈ frames, IsEnd frame then [] else broken failure

theorem gives_items (frame : Frame) : Gives frame frame.items := by
  obtain ⟨name, data⟩ := frame
  unfold Frame.items
  split
  · next hname =>
      obtain rfl : name = "event" := hname
      split
      · next event hdecode => exact .event hdecode
      · next hdecode => exact .unwanted hdecode
      · next fault hdecode => exact .misread hdecode
  · next hname => exact .other hname

theorem items_of_gives {frame : Frame} {found : List Item} (hgives : Gives frame found) :
    frame.items = found := by
  cases hgives with
  | event hdecode | unwanted hdecode | misread hdecode =>
      simp only [Frame.items, if_true, hdecode]
  | other hname => rw [Frame.items, if_neg hname]

theorem gives_iff {frame : Frame} {found : List Item} :
    Gives frame found ↔ frame.items = found :=
  ⟨items_of_gives, fun hitems => hitems ▸ gives_items frame⟩

theorem givesBeforeEnd_iff {frames : List Frame} {parts : List (List Item)} :
    GivesBeforeEnd frames parts ↔
      (frames.takeWhile fun frame => ¬ IsEnd frame).map Frame.items = parts := by
  rw [GivesBeforeEnd, ← List.forall₂_eq_eq_eq, List.forall₂_map_left_iff]
  constructor
  · exact fun hparts => hparts.imp fun _ _ => items_of_gives
  · exact fun hparts => hparts.imp fun _ _ => gives_iff.mpr

theorem flatten_of_givesBeforeEnd {frames : List Frame} {parts : List (List Item)}
    (hparts : GivesBeforeEnd frames parts) : parts.flatten = itemsBeforeEnd frames := by
  rw [← givesBeforeEnd_iff.mp hparts, itemsBeforeEnd, List.flatMap_def]

theorem yields_iff {frames : List Frame} {failure : Option String} {found : List Item} :
    Yields frames failure found ↔ yielded frames failure = found := by
  constructor
  · rintro ⟨parts, hparts, rfl⟩
    rw [yielded, flatten_of_givesBeforeEnd hparts]
  · rintro rfl
    have hparts : GivesBeforeEnd frames _ := givesBeforeEnd_iff.mpr rfl
    exact ⟨_, hparts, by rw [yielded, flatten_of_givesBeforeEnd hparts]⟩

theorem itemsBeforeEnd_cons_of_end {frame : Frame} (hend : IsEnd frame) (frames : List Frame) :
    itemsBeforeEnd (frame :: frames) = [] := by
  rw [itemsBeforeEnd, List.takeWhile_cons_of_neg (by simpa using hend), List.flatMap_nil]

theorem itemsBeforeEnd_cons_of_not_end {frame : Frame} (hend : ¬ IsEnd frame)
    (frames : List Frame) :
    itemsBeforeEnd (frame :: frames) = frame.items ++ itemsBeforeEnd frames := by
  rw [itemsBeforeEnd, List.takeWhile_cons_of_pos (by simpa using hend), List.flatMap_cons,
    itemsBeforeEnd]

theorem yielded_nil (failure : Option String) : yielded [] failure = broken failure := by
  rw [yielded, if_neg (by simp)]
  rfl

theorem yielded_cons_of_end {frame : Frame} (hend : IsEnd frame) (frames : List Frame)
    (failure : Option String) : yielded (frame :: frames) failure = [] := by
  rw [yielded, itemsBeforeEnd_cons_of_end hend, if_pos ⟨frame, List.mem_cons_self, hend⟩,
    List.nil_append]

theorem yielded_cons_of_not_end {frame : Frame} (hend : ¬ IsEnd frame) (frames : List Frame)
    (failure : Option String) :
    yielded (frame :: frames) failure = frame.items ++ yielded frames failure := by
  have hiff : (∃ other ∈ frame :: frames, IsEnd other) ↔ ∃ other ∈ frames, IsEnd other := by
    simp [hend]
  unfold yielded
  rw [itemsBeforeEnd_cons_of_not_end hend, List.append_assoc]
  simp only [hiff]

theorem yielded_append_of_end {first : List Frame} (hend : ∃ frame ∈ first, IsEnd frame)
    (second : List Frame) (failure failure' : Option String) :
    yielded (first ++ second) failure = yielded first failure' := by
  induction first with
  | nil => simp at hend
  | cons frame first ih =>
      rw [List.cons_append]
      by_cases hfirst : IsEnd frame
      · rw [yielded_cons_of_end hfirst, yielded_cons_of_end hfirst]
      · have hrest : ∃ other ∈ first, IsEnd other := by simpa [hfirst] using hend
        rw [yielded_cons_of_not_end hfirst, yielded_cons_of_not_end hfirst, ih hrest]

theorem itemsBeforeEnd_prefix (first second : List Frame) (failure : Option String) :
    itemsBeforeEnd first <+: yielded (first ++ second) failure := by
  induction first with
  | nil => exact List.nil_prefix
  | cons frame first ih =>
      rw [List.cons_append]
      by_cases hfirst : IsEnd frame
      · rw [itemsBeforeEnd_cons_of_end hfirst]
        exact List.nil_prefix
      · rw [itemsBeforeEnd_cons_of_not_end hfirst, yielded_cons_of_not_end hfirst]
        exact (List.prefix_append_right_inj frame.items).mpr ih

/-! ### The whole stream -/

/-- Frames join the queue, and what the rest of the body comes to follows unless one is an end. -/
theorem drain_takeFrames {framer : Framer} {body : List Chunk} {later : List Frame}
    {failure : Option String} (hrest : Decoder.drain ⟨framer, [], false⟩ body = yielded later failure)
    (waiting : List Item) (frames : List Frame) :
    (Decoder.takeFrames ⟨framer, waiting, false⟩ frames).drain body =
      waiting ++ yielded (frames ++ later) failure := by
  -- What the rest of the body comes to is a hypothesis, so that only the frames are inducted on.
  induction frames generalizing waiting with
  | nil =>
      rw [Decoder.takeFrames, drain_waiting, hrest, List.nil_append]
  | cons frame frames ih =>
      change (if IsEnd frame then (⟨framer, waiting, true⟩ : Decoder)
        else Decoder.takeFrames ⟨framer, waiting ++ frame.items, false⟩ frames).drain body = _
      rw [List.cons_append]
      by_cases hend : IsEnd frame
      · rw [if_pos hend, drain_ended, yielded_cons_of_end hend, List.append_nil]
      · rw [if_neg hend, ih, yielded_cons_of_not_end hend, List.append_assoc]

theorem drain_eq_yielded (framer : Framer) (body : List Chunk) :
    Decoder.drain ⟨framer, [], false⟩ body =
      yielded (framer.take (received body)).2 (failure? body) := by
  induction body generalizing framer with
  | nil =>
      rw [drain_of_next?_eq_none rfl]
      exact (yielded_nil none).symm
  | cons chunk body ih =>
      rw [drain_cons]
      cases chunk with
      | error reason =>
          rw [Decoder.takeChunk, drain_ended]
          exact (yielded_nil (some reason)).symm
      | ok bytes =>
          rw [Decoder.takeChunk, received, failure?, take_append]
          exact drain_takeFrames (ih (framer.take bytes).1) [] (framer.take bytes).2

theorem items_eq_yielded (body : List Chunk) :
    items body = yielded (framesOf (received body)) (failure? body) := by
  rw [← frames_take]
  exact drain_eq_yielded .fresh body

theorem received_append (body rest : List Chunk) :
    ∃ more, received (body ++ rest) = received body ++ more := by
  induction body with
  | nil => exact ⟨received rest, rfl⟩
  | cons chunk body ih =>
      cases chunk with
      | error reason => exact ⟨[], rfl⟩
      | ok bytes =>
          obtain ⟨more, hmore⟩ := ih
          refine ⟨more, ?_⟩
          rw [List.cons_append, received, received, hmore, List.append_assoc]

theorem append_of_failure {body : List Chunk} (hfailure : failure? body ≠ none)
    (rest : List Chunk) :
    received (body ++ rest) = received body ∧ failure? (body ++ rest) = failure? body := by
  induction body with
  | nil => exact absurd rfl hfailure
  | cons chunk body ih =>
      cases chunk with
      | error reason => exact ⟨rfl, rfl⟩
      | ok bytes =>
          obtain ⟨hreceived, hsame⟩ := ih hfailure
          refine ⟨?_, hsame⟩
          rw [List.cons_append, received, received, hreceived]

theorem framesOf_append (first second : List UInt8) :
    ∃ more, framesOf (first ++ second) = framesOf first ++ more := by
  refine ⟨((Framer.fresh.take first).1.take second).2, ?_⟩
  rw [← frames_take, ← frames_take, take_append]

theorem exists_framesOf_received (body rest : List Chunk) :
    ∃ more, framesOf (received (body ++ rest)) = framesOf (received body) ++ more := by
  obtain ⟨bytes, hbytes⟩ := received_append body rest
  rw [hbytes]
  exact framesOf_append _ _

/-- What a body yields goes by its bytes, and by the failure if there is one before an end frame. -/
theorem yielded_by_bytes (body : List Chunk) :
    (∀ found, items body = found ↔ Yields (framesOf (received body)) (failure? body) found) ∧
      (∀ other, received other = received body → failure? other = failure? body →
        items other = items body) ∧
      (∀ rest, (∃ frame ∈ framesOf (received body), IsEnd frame) ∨ failure? body ≠ none →
        items (body ++ rest) = items body) ∧
      ∀ parts, GivesBeforeEnd (framesOf (received body)) parts →
        ∀ rest, parts.flatten <+: items (body ++ rest) := by
  refine ⟨?_, ?_, ?_, ?_⟩
  · intro found
    rw [items_eq_yielded, yields_iff]
  · intro other hreceived hfailure
    rw [items_eq_yielded, items_eq_yielded, hreceived, hfailure]
  · rintro rest (hend | hfailure)
    · obtain ⟨more, hmore⟩ := exists_framesOf_received body rest
      rw [items_eq_yielded, items_eq_yielded, hmore]
      exact yielded_append_of_end hend more _ _
    · obtain ⟨hreceived, hsame⟩ := append_of_failure hfailure rest
      rw [items_eq_yielded, items_eq_yielded, hreceived, hsame]
  · intro parts hparts rest
    obtain ⟨more, hmore⟩ := exists_framesOf_received body rest
    rw [flatten_of_givesBeforeEnd hparts, items_eq_yielded, hmore]
    exact itemsBeforeEnd_prefix _ _ _

/-! A log entry, an event of no interest, two that are misread, another frame and an open one, all cut
somewhere, before the body breaks off; and a body that goes on after its end. -/

def logData : String :=
  "\x7b\"event\":\"log\",\"data\":\x7b\"payload\":\"hi\"\x7d\x7d"

def statusData : String :=
  "\x7b\"event\":\"status\"\x7d"

def finishData : String :=
  "\x7b\"event\":\"finish-task\",\"data\":\x7b\"exit_status\":\"0\"\x7d\x7d"

def finishFault : ServerFault :=
  .malformedEvent "finish-task: invalid type: string \"0\", expected i32"

def startData : String :=
  "\x7b\"event\":\"start-task\"\x7d"

def brokenBody : List Chunk :=
  [.ok (Text.Utf8.ofString "event: ev"),
    .ok (Text.Utf8.ofString ("ent\ndata: " ++ logData ++ "\n\nevent: event\r\ndata: " ++ statusData)),
    .ok (Text.Utf8.ofString "\r\n\r\n: note\nevent: event\ndata: gibberish\n\nevent: ping\n\n"),
    .ok (Text.Utf8.ofString ("data: " ++ finishData ++ "\nevent: event\n\nevent: event\ndata: half")),
    .error "reset"]

/-- The same in two pieces. -/
def wholeBody : List Chunk :=
  [.ok (received brokenBody), .error "reset"]

def endedBody : List Chunk :=
  [.ok (Text.Utf8.ofString ("event: event\ndata: " ++ startData ++ "\n")),
    .ok (Text.Utf8.ofString "\nevent: end\n\nevent: event\ndata: gibberish\n\n"), .error "reset"]

theorem brokenBody_yielded :
    items brokenBody = [.ok (.log "hi"), .error .unreadableEnvelope, .error finishFault,
        .error (.requestFailed "build events" "reset")] ∧
      received wholeBody = received brokenBody ∧ items wholeBody = items brokenBody ∧
      failure? brokenBody ≠ none ∧ items (brokenBody ++ endedBody) = items brokenBody ∧
      (∃ frame ∈ framesOf (received endedBody), IsEnd frame) ∧ items endedBody = [.ok .start] ∧
      items (endedBody ++ brokenBody) = items endedBody := by
  have hbroken : (framesOf (received brokenBody)).takeWhile (fun frame => ¬ IsEnd frame) =
      [⟨"event", logData⟩, ⟨"event", statusData⟩, ⟨"event", "gibberish"⟩, ⟨"ping", ""⟩,
        ⟨"event", finishData⟩] := by decide +kernel
  have hopen : ¬ ∃ frame ∈ framesOf (received brokenBody), IsEnd frame := by decide +kernel
  have hended : (framesOf (received endedBody)).takeWhile (fun frame => ¬ IsEnd frame) =
      [⟨"event", startData⟩] := by decide +kernel
  have hend : ∃ frame ∈ framesOf (received endedBody), IsEnd frame := by decide +kernel
  have hfailure : failure? brokenBody ≠ none := by decide
  have hwhole : received wholeBody = received brokenBody := List.append_nil _
  obtain ⟨hyields, hother, hrest, -⟩ := yielded_by_bytes brokenBody
  obtain ⟨hyieldsEnded, -, hrestEnded, -⟩ := yielded_by_bytes endedBody
  refine ⟨(hyields _).mpr ?_, hwhole, hother wholeBody hwhole rfl, hfailure,
    hrest _ (.inr hfailure), hend, (hyieldsEnded _).mpr ?_, hrestEnded _ (.inl hend)⟩
  · refine ⟨[[.ok (.log "hi")], [], [.error .unreadableEnvelope], [], [.error finishFault]], ?_, ?_⟩
    · rw [GivesBeforeEnd, hbroken]
      refine .cons (.event ?_) (.cons (.unwanted ?_) (.cons (.misread ?_) (.cons (.other ?_)
        (.cons (.misread ?_) .nil)))) <;> decide +kernel
    · rw [if_neg hopen]
      rfl
  · refine ⟨[[.ok .start]], ?_, ?_⟩
    · rw [GivesBeforeEnd, hended]
      refine .cons (.event ?_) .nil
      decide +kernel
    · rw [if_pos hend]
      rfl

end BuildHerald.Proofs.DecodedStream
