import BuildHerald.EventStream.Event
import BuildHerald.EventStream.Frame

namespace BuildHerald.EventStream

/-- What an event stream yields: an event, or why there is none. -/
abbrev Item := Except ServerFault Event

/-- A piece of the body of a response, or why the body broke off. -/
abbrev Chunk := Except String (List UInt8)

/-- What a frame yields. -/
def Frame.items (frame : Frame) : List Item :=
  if frame.name = "event" then
    match Event.decode frame.data with
    | .ok (some event) => [.ok event]
    | .ok none => []
    | .error fault => [.error fault]
  else []

/-- How far the decoding of a body has got. -/
structure Decoder where
  framer : Framer
  /-- What has been decoded and not been asked for. -/
  waiting : List Item
  /-- Whether no more of the body is wanted. -/
  ended : Bool

namespace Decoder

def fresh : Decoder :=
  ⟨.fresh, [], false⟩

/-- Takes in frames. Those after an end frame are dropped. -/
def takeFrames (decoder : Decoder) : List Frame → Decoder
  | [] => decoder
  | frame :: rest =>
      if frame.name = "end" then { decoder with ended := true }
      else { decoder with waiting := decoder.waiting ++ frame.items }.takeFrames rest

/-- Takes in a piece of the body. A failure is an item, and the last one. -/
def takeChunk (decoder : Decoder) : Chunk → Decoder
  | .ok bytes =>
      let (framer, frames) := decoder.framer.take bytes
      { decoder with framer }.takeFrames frames
  | .error reason =>
      { decoder with
        waiting := decoder.waiting ++ [.error (.requestFailed "build events" reason)]
        ended := true }

/-- The next item, with what is left of the body after it. Pieces of the body are taken in until there
is an item, or no more of them. -/
def next? (decoder : Decoder) (body : List Chunk) : Option (Item × Decoder × List Chunk) :=
  match decoder.waiting with
  | item :: waiting => some (item, { decoder with waiting }, body)
  | [] =>
      if decoder.ended then none
      else
        match body with
        | [] => none
        | chunk :: rest => (decoder.takeChunk chunk).next? rest

theorem next?_cons (framer : Framer) (waiting : List Item) (ended : Bool) (item : Item)
    (body : List Chunk) :
    next? ⟨framer, item :: waiting, ended⟩ body = some (item, ⟨framer, waiting, ended⟩, body) := by
  cases body <;> rfl

theorem next?_ended (framer : Framer) (body : List Chunk) : next? ⟨framer, [], true⟩ body = none := by
  cases body <;> rfl

/-- An item is one of those that wait, or a piece of the body has been taken in for it. -/
theorem next?_eq_some {decoder later : Decoder} {body rest : List Chunk} {item : Item}
    (hnext : decoder.next? body = some (item, later, rest)) :
    rest.length < body.length ∨ rest = body ∧ decoder.waiting = item :: later.waiting := by
  induction body generalizing decoder with
  | nil =>
      obtain ⟨framer, waiting, ended⟩ := decoder
      cases waiting with
      | cons first waiting =>
          rw [next?_cons, Option.some.injEq] at hnext
          cases hnext
          exact .inr ⟨rfl, rfl⟩
      | nil => cases ended <;> exact absurd hnext (Option.some_ne_none _).symm
  | cons chunk body ih =>
      obtain ⟨framer, waiting, ended⟩ := decoder
      cases waiting with
      | cons first waiting =>
          rw [next?_cons, Option.some.injEq] at hnext
          cases hnext
          exact .inr ⟨rfl, rfl⟩
      | nil =>
          left
          cases ended with
          | true => exact absurd hnext (Option.some_ne_none _).symm
          | false =>
              obtain hlt | ⟨rfl, -⟩ := ih hnext
              · exact Nat.lt_succ_of_lt hlt
              · exact Nat.lt_succ_self _

/-- All items that are left. -/
def drain (decoder : Decoder) (body : List Chunk) : List Item :=
  match _hnext : decoder.next? body with
  | none => []
  | some (item, later, rest) => item :: later.drain rest
termination_by (body.length, decoder.waiting.length)
decreasing_by
  obtain hlt | ⟨rfl, hwaiting⟩ := next?_eq_some _hnext
  · exact .left _ _ hlt
  · rw [hwaiting]
    exact .right _ (Nat.lt_succ_self _)

end Decoder

/-- What a body yields. -/
def items (body : List Chunk) : List Item :=
  Decoder.fresh.drain body

end BuildHerald.EventStream
