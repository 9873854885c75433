import BuildHerald.Proofs.StreamNoise
import Mathlib.Order.Nat

/-!
A transcript and its deadline.

What a source delivers is laid out in time. The transcript is made from the events that are there by the
deadline, and all that is waited for has this one deadline: the answer, the items, and the end.
-/

namespace BuildHerald.Proofs.TimedTranscripts

open BuildHerald.EventStream
open BuildHerald.Transcript

/-! ### What events tell -/

/-- The command line of the task that an event initializes. -/
def command? : Event → Option (List String)
  | .prepare path args => some (path :: args)
  | _ => none

/-- The command line of the task that was initialized last. -/
def latestCommand (events : List Event) : List String :=
  (events.filterMap command?).getLast?.getD []

/-- The text of an event that comes after others. -/
def textOf (before : List Event) : Event → String
  | .prepare .. => ""
  | .start => "command: " ++ String.intercalate " " (latestCommand before) ++ "\n"
  | .log text => text
  | .error message => message ++ "\n"
  | .finish exitStatus => "\nexit code " ++ toString exitStatus

def textsAfter (before : List Event) : List Event → List String
  | [] => []
  | event :: rest => textOf before event :: textsAfter (before ++ [event]) rest

/-- The text of events in their order. -/
def told (events : List Event) : String :=
  String.join (textsAfter [] events)

theorem textsAfter_append (before first second : List Event) :
    textsAfter before (first ++ second) =
      textsAfter before first ++ textsAfter (before ++ first) second := by
  induction first generalizing before with
  | nil => rw [List.append_nil]; rfl
  | cons event first ih =>
      rw [List.cons_append, textsAfter, ih, List.append_assoc]
      rfl

theorem told_append (first second : List Event) :
    told (first ++ second) = told first ++ String.join (textsAfter first second) := by
  rw [told, textsAfter_append, String.join_append, List.nil_append, told]

theorem latestCommand_concat (events : List Event) (event : Event) :
    latestCommand (events ++ [event]) = (command? event).getD (latestCommand events) := by
  rw [latestCommand, List.filterMap_append]
  cases event <;> simp [command?, latestCommand]

/-- A transcript that knows the latest command line adds the text of an event, and still knows it. -/
theorem record_of_command {transcript : Transcript} {before : List Event}
    (hcommand : transcript.command = latestCommand before) (event : Event) :
    (transcript.record event).text = transcript.text ++ textOf before event ∧
      (transcript.record event).command = latestCommand (before ++ [event]) := by
  rw [latestCommand_concat]
  cases event with
  | prepare path args => exact ⟨String.append_empty.symm, rfl⟩
  | start => exact ⟨by rw [textOf, ← hcommand]; rfl, hcommand⟩
  | log text => exact ⟨rfl, hcommand⟩
  | error message => exact ⟨rfl, hcommand⟩
  | finish exitStatus => exact ⟨rfl, hcommand⟩

theorem text_foldl_record {transcript : Transcript} {before : List Event}
    (hcommand : transcript.command = latestCommand before) (events : List Event) :
    (events.foldl record transcript).text =
      transcript.text ++ String.join (textsAfter before events) := by
  induction events generalizing transcript before with
  | nil => exact String.append_empty.symm
  | cons event rest ih =>
      obtain ⟨htext, hnext⟩ := record_of_command hcommand event
      rw [List.foldl_cons, ih hnext, htext, textsAfter, String.join_cons, String.append_assoc]

/-! ### Deliveries in time -/

/-- The items that are delivered, with the times at which they are there. -/
def arrivals (now : Nat) : List Delivery → List (Nat × Item)
  | [] => []
  | .item item :: rest => (now, item) :: arrivals now rest
  | .wait millis :: rest => arrivals (now + millis) rest
  | .stall :: _ => []

/-- The time at which deliveries end, if they do. -/
def end? (now : Nat) : List Delivery → Option Nat
  | [] => some now
  | .item _ :: rest => end? now rest
  | .wait millis :: rest => end? (now + millis) rest
  | .stall :: _ => none

/-- The items that are there by a deadline. -/
def itemsBy (deadline : Nat) (arrived : List (Nat × Item)) : List Item :=
  (arrived.filter fun arrival => arrival.1 ≤ deadline).map Prod.snd

/-- The earlier of an end, if there is one, and a deadline. -/
def earlier (ending : Option Nat) (deadline : Nat) : Nat :=
  (ending.map (min deadline)).getD deadline

section Deliveries

variable {deadline later now time : Nat} {deliveries : List Delivery} {arrived : List (Nat × Item)}

theorem le_of_mem_arrivals {arrival : Nat × Item} (hmem : arrival ∈ arrivals now deliveries) :
    now ≤ arrival.1 := by
  induction deliveries generalizing now with
  | nil => cases hmem
  | cons delivery rest ih =>
      cases delivery with
      | item item =>
          obtain rfl | hrest := List.mem_cons.mp hmem
          · exact le_refl now
          · exact ih hrest
      | wait millis => exact (Nat.le_add_right now millis).trans (ih hmem)
      | stall => cases hmem

theorem arrivals_pairwise (now : Nat) (deliveries : List Delivery) :
    (arrivals now deliveries).Pairwise fun first second => first.1 ≤ second.1 := by
  induction deliveries generalizing now with
  | nil => exact List.Pairwise.nil
  | cons delivery rest ih =>
      cases delivery with
      | item item => exact List.pairwise_cons.mpr ⟨fun _ hmem => le_of_mem_arrivals hmem, ih now⟩
      | wait millis => exact ih (now + millis)
      | stall => exact List.Pairwise.nil

theorem le_of_end (hend : end? now deliveries = some time) : now ≤ time := by
  induction deliveries generalizing now with
  | nil => exact (Option.some.inj hend).le
  | cons delivery rest ih =>
      cases delivery with
      | item item => exact ih hend
      | wait millis => exact (Nat.le_add_right now millis).trans (ih hend)
      | stall => cases hend

theorem itemsBy_eq_nil (hlate : ∀ arrival ∈ arrived, deadline < arrival.1) :
    itemsBy deadline arrived = [] := by
  rw [itemsBy, List.map_eq_nil_iff, List.filter_eq_nil_iff]
  intro arrival hmem
  simpa using hlate arrival hmem

theorem earlier_eq_deadline {ending : Option Nat}
    (hlate : ∀ time, ending = some time → deadline < time) : earlier ending deadline = deadline := by
  cases ending with
  | none => rfl
  | some time => exact min_eq_left (hlate time rfl).le

/-- Of arrivals in order, those by an earlier deadline are the first of those by a later one. -/
theorem itemsBy_isPrefix (hle : deadline ≤ later)
    (hascending : arrived.Pairwise fun first second => first.1 ≤ second.1) :
    itemsBy deadline arrived <+: itemsBy later arrived := by
  induction arrived with
  | nil => exact List.prefix_refl []
  | cons arrival rest ih =>
      obtain ⟨hfirst, hrest⟩ := List.pairwise_cons.mp hascending
      by_cases hdeadline : arrival.1 ≤ deadline
      · have hlater : arrival.1 ≤ later := hdeadline.trans hle
        have hsame := (List.prefix_cons_inj arrival.2).mpr (ih hrest)
        simpa [itemsBy, hdeadline, hlater] using hsame
      · have hnone : itemsBy deadline (arrival :: rest) = [] := by
          have hlate := not_le.mp hdeadline
          exact itemsBy_eq_nil (List.forall_mem_cons.mpr
            ⟨hlate, fun other hother => hlate.trans_le (hfirst other hother)⟩)
        rw [hnone]
        exact List.nil_prefix

/-- What is taken in until a deadline are the items that are there by then, and it takes until the end or
the deadline. -/
theorem recordUntil_eq (hnow : now ≤ deadline) (transcript : Transcript) :
    transcript.recordUntil deadline now deliveries =
      ((itemsBy deadline (arrivals now deliveries)).foldl recordItem transcript,
        earlier (end? now deliveries) deadline) := by
  induction deliveries generalizing now transcript with
  | nil => exact Prod.ext rfl (min_eq_right hnow).symm
  | cons delivery rest ih =>
      cases delivery with
      | item item => simp [recordUntil, arrivals, end?, itemsBy, hnow, ih hnow]
      | wait millis =>
          rw [recordUntil, arrivals, end?]
          split
          · next hwait => exact ih hwait transcript
          · next hlate =>
              -- All that comes after this wait comes too late, the end included.
              have hafter := not_le.mp hlate
              rw [itemsBy_eq_nil fun _ hmem => hafter.trans_le (le_of_mem_arrivals hmem),
                earlier_eq_deadline fun _ hend => hafter.trans_le (le_of_end hend)]
              rfl
      | stall => rfl

end Deliveries

/-! ### Sources in time -/

/-- What comes from a source. Its answer is waited for as items are, and if it is no stream nothing
comes. -/
def deliveriesOf : Source → List Delivery
  | .absent => []
  | .silent => [.stall]
  | .fault _ => []
  | .stream deliveries => deliveries
  | .later millis source => .wait millis :: deliveriesOf source

/-- A source answers with a stream after some time. -/
inductive Opens : Source → Nat → Prop
  | stream (deliveries : List Delivery) : Opens (.stream deliveries) 0
  | later {source : Source} {time : Nat} (millis : Nat) (hopens : Opens source time) :
      Opens (.later millis source) (millis + time)

/-- The events of a source that are there by a deadline. -/
def eventsBy (deadline : Nat) (source : Source) : List Event :=
  (itemsBy deadline (arrivals 0 (deliveriesOf source))).filterMap Except.toOption

section Sources

variable {deadline later now : Nat} {source : Source}

theorem heldUntil_eq_recordUntil (deadline now : Nat) (source : Source) :
    source.heldUntil deadline now = blank.recordUntil deadline now (deliveriesOf source) := by
  induction source generalizing now with
  | later millis source ih => rw [Source.heldUntil, ih]; rfl
  | _ => rfl

theorem opens_of_mem_arrivals {arrival : Nat × Item}
    (hmem : arrival ∈ arrivals now (deliveriesOf source)) :
    ∃ time, Opens source time ∧ now + time ≤ arrival.1 := by
  induction source generalizing now with
  | stream deliveries => exact ⟨0, .stream deliveries, le_of_mem_arrivals hmem⟩
  | later millis source ih =>
      obtain ⟨time, hopens, hle⟩ := ih hmem
      exact ⟨millis + time, .later millis hopens, Nat.add_assoc now millis time ▸ hle⟩
  | _ => cases hmem

theorem eventsBy_eq_nil (hlate : ∀ time, Opens source time → deadline < time) :
    eventsBy deadline source = [] := by
  rw [eventsBy, itemsBy_eq_nil]
  · rfl
  · intro arrival hmem
    obtain ⟨time, hopens, hle⟩ := opens_of_mem_arrivals hmem
    exact (hlate time hopens).trans_le ((Nat.zero_add time).ge.trans hle)

theorem eventsBy_isPrefix (hle : deadline ≤ later) (source : Source) :
    eventsBy deadline source <+: eventsBy later source :=
  (itemsBy_isPrefix hle (arrivals_pairwise 0 (deliveriesOf source))).filterMap Except.toOption

theorem heldUntil_eq (deadline : Nat) (source : Source) :
    ((source.heldUntil deadline 0).1.text, (source.heldUntil deadline 0).2) =
      (told (eventsBy deadline source), earlier (end? 0 (deliveriesOf source)) deadline) := by
  have hcommand : blank.command = latestCommand [] := rfl
  rw [heldUntil_eq_recordUntil, recordUntil_eq (Nat.zero_le deadline), StreamNoise.foldl_recordItem,
    text_foldl_record hcommand]
  exact Prod.ext String.empty_append rfl

end Sources

/-- A transcript is told by the events that are there by the deadline, and is had at the end of the stream
or at the deadline. It is empty if no stream is opened by then. An earlier deadline gives a beginning of
what a later one gives. -/
theorem transcript_by_deadline (source : Source) :
    ofSource source =
        (told (eventsBy timeLimit source), earlier (end? 0 (deliveriesOf source)) timeLimit) ∧
      ∀ deadline,
        (source.heldUntil deadline 0).1.text = told (eventsBy deadline source) ∧
        (source.heldUntil deadline 0).2 = earlier (end? 0 (deliveriesOf source)) deadline ∧
        ((∀ time, Opens source time → deadline < time) →
          (source.heldUntil deadline 0).1.text = "") ∧
        ∀ later, deadline ≤ later → ∃ more,
          (source.heldUntil later 0).1.text = (source.heldUntil deadline 0).1.text ++ more := by
  refine ⟨heldUntil_eq timeLimit source, fun deadline => ?_⟩
  have htext (deadline : Nat) :
      (source.heldUntil deadline 0).1.text = told (eventsBy deadline source) :=
    congrArg Prod.fst (heldUntil_eq deadline source)
  refine ⟨htext deadline, congrArg Prod.snd (heldUntil_eq deadline source), fun hlate => ?_,
    fun later hle => ?_⟩
  · rw [htext, eventsBy_eq_nil hlate]
    rfl
  · obtain ⟨events, hevents⟩ := eventsBy_isPrefix hle source
    rw [htext, htext, ← hevents, told_append]
    exact ⟨_, rfl⟩

/-- A source with an answer after a while, an item that is no event, an item at the deadline, and no
end. -/
def lateStream : Source :=
  .later 20000 (.stream [.item (.ok (.prepare "make" ["all"])), .wait 10000,
    .item (.error .unreadableEnvelope), .item (.ok .start), .wait 30000, .item (.ok (.log "done")),
    .wait 1, .item (.ok (.log "lost")), .stall])

theorem lateStream_transcript :
    ofSource lateStream = ("command: make all\ndone", 60000) ∧
      (∃ more,
        (lateStream.heldUntil 60000 0).1.text = (lateStream.heldUntil 59999 0).1.text ++ more) ∧
      (lateStream.heldUntil 59999 0).1.text = "command: make all\n" ∧
      (lateStream.heldUntil 19999 0).1.text = "" := by
  obtain ⟨hsource, hdeadline⟩ := transcript_by_deadline lateStream
  refine ⟨hsource.trans (by decide), (hdeadline 59999).2.2.2 60000 (by decide),
    (hdeadline 59999).1.trans (by decide), (hdeadline 19999).2.2.1 fun time hopens => ?_⟩
  cases hopens with
  | later _ hstream =>
      cases hstream with
      | stream => decide

end BuildHerald.Proofs.TimedTranscripts
