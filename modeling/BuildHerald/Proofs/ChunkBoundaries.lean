import BuildHerald.Proofs.Framing

/-!
Where bytes are cut into chunks makes no difference to the frames in them.

A chunk joins the bytes of the unfinished line, and what is there then is taken in line by line. Lines
are made into text when they are whole, so a chunk may end anywhere: inside a line, before the line feed
after a carriage return, or inside a character.
-/

namespace BuildHerald.Proofs.ChunkBoundaries

open BuildHerald.EventStream
open BuildHerald.Proofs.Framing

/-! ### Line by line -/

/-- Takes in a buffer: as long as there is a line feed in it, the line before the first is taken out.
What is left is the unfinished line. -/
def emptied (framer : Framer) (buffer : List UInt8) : Framer × List Frame :=
  match _hfound : buffer.findIdx? (· == 10) with
  | none => ({ framer with line := buffer.reverse }, [])
  | some index =>
      let (framer, first) :=
        { framer with line := [] }.takeLine (textOf (buffer.take index))
      let (framer, others) := emptied framer (buffer.drop (index + 1))
      (framer, first ++ others)
termination_by buffer.length
decreasing_by
  have hlt := (List.findIdx?_eq_some_iff_findIdx_eq.mp _hfound).1
  rw [List.length_drop]
  omega

theorem emptied_of_not_mem (framer : Framer) {buffer : List UInt8} (hnone : 10 ∉ buffer) :
    emptied framer buffer = ({ framer with line := buffer.reverse }, []) := by
  have hfound : buffer.findIdx? (· == 10) = none := by
    simpa [List.findIdx?_eq_none_iff] using fun b hb => ne_of_mem_of_not_mem hb hnone
  rw [emptied]
  split
  · rfl
  · next hsome => exact absurd (hfound.symm.trans hsome) (Option.some_ne_none _).symm

theorem findIdx?_append_cons {line : List UInt8} (hline : 10 ∉ line) (rest : List UInt8) :
    (line ++ 10 :: rest).findIdx? (· == 10) = some line.length := by
  have hnone : line.findIdx? (· == 10) = none := by
    simpa [List.findIdx?_eq_none_iff] using fun b hb => ne_of_mem_of_not_mem hb hline
  rw [List.findIdx?_append, hnone, List.findIdx?_cons]
  simp

theorem emptied_append_cons (framer : Framer) {line : List UInt8} (hline : 10 ∉ line)
    (rest : List UInt8) :
    emptied framer (line ++ 10 :: rest) =
      let after := { framer with line := [] }.takeLine (textOf line)
      ((emptied after.1 rest).1, after.2 ++ (emptied after.1 rest).2) := by
  rw [emptied]
  split
  · next hnone =>
      exact absurd (hnone.symm.trans (findIdx?_append_cons hline rest)) (Option.some_ne_none _).symm
  · next index hsome =>
      obtain rfl := Option.some.inj (hsome.symm.trans (findIdx?_append_cons hline rest))
      rw [List.take_left, List.drop_append, List.drop_of_length_le (by omega)]
      simp

theorem take_of_not_mem (framer : Framer) {bytes : List UInt8} (hnone : 10 ∉ bytes) :
    framer.take bytes = ({ framer with line := bytes.reverse ++ framer.line }, []) := by
  induction bytes generalizing framer with
  | nil => rfl
  | cons b rest ih =>
      rw [List.mem_cons, not_or] at hnone
      have hbyte : framer.takeByte b = ({ framer with line := b :: framer.line }, []) :=
        if_neg (Ne.symm hnone.1)
      change (((framer.takeByte b).1.take rest).1,
        (framer.takeByte b).2 ++ ((framer.takeByte b).1.take rest).2) = _
      rw [hbyte, ih _ hnone.2, List.reverse_cons, List.append_assoc]
      rfl

theorem take_append_cons (framer : Framer) {bytes : List UInt8} (hbytes : 10 ∉ bytes)
    (rest : List UInt8) :
    framer.take (bytes ++ 10 :: rest) =
      let after := { framer with line := [] }.takeLine (textOf (framer.line.reverse ++ bytes))
      ((after.1.take rest).1, after.2 ++ (after.1.take rest).2) := by
  rw [take_append, take_of_not_mem framer hbytes, List.nil_append]
  change ((((Framer.takeByte _ 10).1.take rest).1, (Framer.takeByte _ 10).2 ++
    ((Framer.takeByte _ 10).1.take rest).2) : Framer × List Frame) = _
  rw [Framer.takeByte, if_pos rfl, List.reverse_append, List.reverse_reverse]
  rfl

theorem line_dispatch (framer : Framer) : framer.dispatch.1.line = framer.line := by
  unfold Framer.dispatch
  split <;> rfl

theorem line_field (framer : Framer) (name value : List Char) :
    (framer.field name value).line = framer.line := by
  unfold Framer.field
  split
  · rfl
  · split <;> rfl

theorem line_takeLine (framer : Framer) (text : List Char) :
    (framer.takeLine text).1.line = framer.line := by
  unfold Framer.takeLine
  split
  · exact line_dispatch framer
  · rfl
  · exact line_field framer _ _

/-- Taking in bytes one by one comes to the same as joining them to the unfinished line and taking the
lines out of that. -/
theorem take_eq_emptied (framer : Framer) (hline : 10 ∉ framer.line) (bytes : List UInt8) :
    framer.take bytes = emptied framer (framer.line.reverse ++ bytes) := by
  generalize hlength : bytes.length = length
  induction length using Nat.strongRecOn generalizing framer bytes with
  | ind length ih =>
      by_cases hmem : 10 ∈ bytes
      · obtain ⟨piece, rest, rfl, hpiece⟩ := List.eq_append_cons_of_mem hmem
        have hwhole : 10 ∉ framer.line.reverse ++ piece := by simp [hline, hpiece]
        have hlt : rest.length < length := by
          rw [← hlength, List.length_append, List.length_cons]
          omega
        rw [take_append_cons framer hpiece, ← List.append_assoc,
          emptied_append_cons framer hwhole]
        have hempty := line_takeLine { framer with line := [] } (textOf (framer.line.reverse ++ piece))
        dsimp only at hempty ⊢
        rw [ih rest.length hlt _ (by rw [hempty]; exact List.not_mem_nil) rest rfl, hempty]
        rfl
      · have hwhole : 10 ∉ framer.line.reverse ++ bytes := by simp [hline, hmem]
        rw [take_of_not_mem framer hmem, emptied_of_not_mem framer hwhole, List.reverse_append,
          List.reverse_reverse]

/-! ### Chunk by chunk -/

/-- Takes in one chunk after another. -/
def takeAll (framer : Framer) : List (List UInt8) → Framer × List Frame
  | [] => (framer, [])
  | chunk :: rest =>
      let (framer, first) := framer.take chunk
      let (framer, others) := takeAll framer rest
      (framer, first ++ others)

theorem takeAll_eq_take (framer : Framer) (chunks : List (List UInt8)) :
    takeAll framer chunks = framer.take chunks.flatten := by
  induction chunks generalizing framer with
  | nil => rfl
  | cons chunk rest ih =>
      rw [List.flatten_cons, take_append, ← ih]
      rfl

/-- What a framer can have come to. -/
inductive Reached : Framer → Prop
  | fresh : Reached .fresh
  | take {framer : Framer} (hreached : Reached framer) (chunk : List UInt8) :
      Reached (framer.take chunk).1

theorem line_takeByte {framer : Framer} (hline : 10 ∉ framer.line) (b : UInt8) :
    10 ∉ (framer.takeByte b).1.line := by
  unfold Framer.takeByte
  split
  · rw [line_takeLine]
    exact List.not_mem_nil
  · next hb => simp [hline, Ne.symm hb]

theorem line_take {framer : Framer} (hline : 10 ∉ framer.line) (bytes : List UInt8) :
    10 ∉ (framer.take bytes).1.line := by
  induction bytes generalizing framer with
  | nil => exact hline
  | cons b rest ih => exact ih (line_takeByte hline b)

theorem line_of_reached {framer : Framer} (hreached : Reached framer) : 10 ∉ framer.line := by
  induction hreached with
  | fresh => exact List.not_mem_nil
  | take _ chunk ih => exact line_take ih chunk

/-- The frames and the framer that come of some bytes are those of the bytes as a whole, in whatever
chunks they come. The unfinished line has no line feed, so that nothing in it has been missed. -/
theorem chunking_irrelevant {framer : Framer} (hreached : Reached framer) :
    (∀ first second, framer.take (first ++ second) =
      (((framer.take first).1.take second).1,
        (framer.take first).2 ++ ((framer.take first).1.take second).2)) ∧
      (∀ chunks others : List (List UInt8), chunks.flatten = others.flatten →
        takeAll framer chunks = takeAll framer others) ∧
      10 ∉ framer.line ∧
      ∀ bytes, framer.take bytes = emptied framer (framer.line.reverse ++ bytes) := by
  have hline := line_of_reached hreached
  refine ⟨take_append framer, ?_, hline, take_eq_emptied framer hline⟩
  intro chunks others hflatten
  rw [takeAll_eq_take, takeAll_eq_take, hflatten]

/-- The framer inside a character of a data line. -/
def insideCharacter : Framer :=
  (Framer.fresh.take (Text.Utf8.ofString "event: log\r\ndata: caf" ++ [0xc3])).1

/-- The rest of the frame in pieces that end inside a character, in front of a line feed and at none. -/
theorem cut_inside_character :
    Reached insideCharacter ∧ 10 ∉ insideCharacter.line ∧
      takeAll insideCharacter [[0xa9], [], [13], [10, 13], [10]] =
        (.fresh, [⟨"log", "café"⟩]) := by
  have hreached : Reached insideCharacter := .take .fresh _
  obtain ⟨-, hchunks, hline, -⟩ := chunking_irrelevant hreached
  have hwhole : takeAll insideCharacter [[0xa9, 13, 10, 13, 10]] = (.fresh, [⟨"log", "café"⟩]) := by
    decide +kernel
  exact ⟨hreached, hline, (hchunks _ _ rfl).trans hwhole⟩

end BuildHerald.Proofs.ChunkBoundaries
