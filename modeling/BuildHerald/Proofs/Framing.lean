import BuildHerald.EventStream.Frame

/-!
Which frames bytes stand for.

The bytes are cut into lines, and the lines into groups that an empty line ends. What comes after the
last end of a line or of a group does not count. A framer that is given the bytes finds these frames.
-/

namespace BuildHerald.Proofs.Framing

open BuildHerald.EventStream

/-! ### Pieces that have been ended -/

section Finished

variable {α : Type} [BEq α] [LawfulBEq α] {separator : α}

/-- The pieces of a list that are ended by a separator. -/
def finished (separator : α) (list : List α) : List (List α) :=
  (list.splitOn separator).dropLast

theorem finished_of_not_mem {list : List α} (hnone : separator ∉ list) :
    finished separator list = [] := by
  rw [finished, List.splitOn_eq_singleton hnone]
  rfl

theorem finished_append_cons {piece : List α} (hnone : separator ∉ piece) (rest : List α) :
    finished separator (piece ++ separator :: rest) = piece :: finished separator rest := by
  rw [finished, List.splitOn_append_cons_self_of_not_mem hnone,
    List.dropLast_cons_of_ne_nil (List.splitOn_ne_nil _ _), finished]

/-- A list in which no piece is left open. -/
def Whole (separator : α) (list : List α) : Prop :=
  list = [] ∨ list.getLast? = some separator

theorem finished_append_of_whole {first : List α} (hfirst : Whole separator first)
    (second : List α) :
    finished separator (first ++ second) = finished separator first ++ finished separator second := by
  generalize hlength : first.length = length
  induction length using Nat.strongRecOn generalizing first with
  | ind length ih =>
      by_cases hmem : separator ∈ first
      · obtain ⟨piece, rest, rfl, hnone⟩ := List.eq_append_cons_of_mem hmem
        have hrest : Whole separator rest := by
          cases rest with
          | nil => exact .inl rfl
          | cons next rest =>
              right
              have hlast := hfirst.resolve_left (by simp)
              rw [List.getLast?_append, List.getLast?_cons_cons] at hlast
              simpa using hlast
        have hlt : rest.length < length := by
          simp only [List.length_append, List.length_cons] at hlength
          omega
        rw [List.append_assoc, List.cons_append, finished_append_cons hnone,
          finished_append_cons hnone, ih rest.length hlt hrest rfl, List.cons_append]
      · have hnil : first = [] :=
          hfirst.resolve_right fun hlast => hmem (List.mem_of_getLast? hlast)
        rw [hnil]
        rfl

end Finished

/-! ### The frames in bytes -/

/-- The text of a line. -/
def textOf (line : List UInt8) : List Char :=
  Framer.dropReturn (Text.Utf8.lossy line)

def linesOf (bytes : List UInt8) : List (List Char) :=
  (finished 10 bytes).map textOf

/-- The field that a line gives, unless it is a comment. -/
def fieldOf? : List Char → Option (List Char × List Char)
  | ':' :: _ => none
  | text => some (Framer.splitField text)

/-- The values that lines give for a field. -/
def valuesOf (name : String) (lines : List (List Char)) : List String :=
  (lines.filterMap fieldOf?).filterMap fun field =>
    if field.1 = name.toList then some (String.ofList field.2) else none

/-- The frame that a group of lines makes. -/
def frameOf? (group : List (List Char)) : Option Frame :=
  if valuesOf "event" group = [] ∧ valuesOf "data" group = [] then none
  else
    some ⟨(valuesOf "event" group).getLast?.getD "message",
      String.intercalate "\n" (valuesOf "data" group)⟩

/-- The frames in bytes. -/
def framesOf (bytes : List UInt8) : List Frame :=
  (finished [] (linesOf bytes)).filterMap frameOf?

theorem linesOf_of_not_mem {line : List UInt8} (hline : 10 ∉ line) : linesOf line = [] := by
  rw [linesOf, finished_of_not_mem hline]
  rfl

theorem linesOf_append_cons {line : List UInt8} (hline : 10 ∉ line) (rest : List UInt8) :
    linesOf (line ++ 10 :: rest) = textOf line :: linesOf rest := by
  rw [linesOf, finished_append_cons hline, List.map_cons, linesOf]

theorem linesOf_append_of_whole {first : List UInt8} (hfirst : Whole 10 first)
    (second : List UInt8) : linesOf (first ++ second) = linesOf first ++ linesOf second := by
  rw [linesOf, finished_append_of_whole hfirst, List.map_append, linesOf, linesOf]

/-- Bytes that leave no line and no frame open. -/
def Closed (bytes : List UInt8) : Prop :=
  Whole 10 bytes ∧ Whole [] (linesOf bytes)

theorem framesOf_append_of_closed {first : List UInt8} (hfirst : Closed first)
    (second : List UInt8) : framesOf (first ++ second) = framesOf first ++ framesOf second := by
  rw [framesOf, linesOf_append_of_whole hfirst.1, finished_append_of_whole hfirst.2,
    List.filterMap_append, framesOf, framesOf]

/-! ### Comments -/

theorem textOf_colon (rest : List UInt8) : ∃ note, textOf (58 :: rest) = ':' :: note := by
  have hlossy : Text.Utf8.lossy (58 :: rest) = ':' :: Text.Utf8.lossy rest := rfl
  rw [textOf, hlossy, Framer.dropReturn]
  split
  · next hreturn =>
      cases hnote : Text.Utf8.lossy rest with
      | nil =>
          rw [hnote] at hreturn
          exact absurd hreturn (by decide)
      | cons c note => exact ⟨_, rfl⟩
  · exact ⟨_, rfl⟩

theorem frameOf?_insert_comment {text : List Char} (hcomment : fieldOf? text = none)
    (before after : List (List Char)) :
    frameOf? (before ++ text :: after) = frameOf? (before ++ after) := by
  have hvalues (name : String) :
      valuesOf name (before ++ text :: after) = valuesOf name (before ++ after) := by
    rw [valuesOf, List.filterMap_append, List.filterMap_cons_none hcomment,
      ← List.filterMap_append, valuesOf]
  rw [frameOf?, hvalues, hvalues, frameOf?]

theorem frames_insert_comment {text : List Char} (htext : text ≠ [])
    (hcomment : fieldOf? text = none) {group : List (List Char)} (hgroup : [] ∉ group)
    (before after : List (List Char)) :
    (finished [] (group ++ before ++ text :: after)).filterMap frameOf? =
      (finished [] (group ++ before ++ after)).filterMap frameOf? := by
  -- The group that is open goes along, as the comment may come in the middle of one.
  induction before generalizing group with
  | nil =>
      rw [List.append_nil]
      by_cases hafter : [] ∈ after
      · obtain ⟨closing, rest, rfl, hclosing⟩ := List.eq_append_cons_of_mem hafter
        have hwith : [] ∉ group ++ text :: closing := by simp [hgroup, hclosing, Ne.symm htext]
        have hwithout : [] ∉ group ++ closing := by simp [hgroup, hclosing]
        rw [← List.cons_append, ← List.append_assoc, ← List.append_assoc,
          finished_append_cons hwith, finished_append_cons hwithout, List.filterMap_cons,
          List.filterMap_cons, frameOf?_insert_comment hcomment]
      · rw [finished_of_not_mem (by simp [hgroup, hafter, Ne.symm htext]),
          finished_of_not_mem (by simp [hgroup, hafter])]
  | cons line before ih =>
      by_cases hline : line = []
      · have hnil := ih (List.not_mem_nil (a := ([] : List Char)))
        rw [List.nil_append] at hnil
        rw [hline, List.append_assoc, List.append_assoc, List.cons_append, List.cons_append,
          finished_append_cons hgroup, finished_append_cons hgroup, List.filterMap_cons,
          List.filterMap_cons, hnil]
      · have hmore : [] ∉ group ++ [line] := by simp [hgroup, Ne.symm hline]
        have hmoved := ih hmore
        rwa [List.append_assoc group [line] before] at hmoved

/-- A comment line between two lines does not change the frames. -/
theorem framesOf_insert_comment {first text : List UInt8} (hfirst : Whole 10 first)
    (htext : 10 ∉ text) (second : List UInt8) :
    framesOf (first ++ 58 :: text ++ 10 :: second) = framesOf (first ++ second) := by
  obtain ⟨note, hnote⟩ := textOf_colon text
  have hline : 10 ∉ 58 :: text := by simpa using htext
  have hinsert := frames_insert_comment (List.cons_ne_nil ':' note) rfl
    (List.not_mem_nil (a := ([] : List Char))) (linesOf first) (linesOf second)
  rw [framesOf, List.append_assoc, linesOf_append_of_whole hfirst, linesOf_append_cons hline,
    hnote, framesOf, linesOf_append_of_whole hfirst]
  exact hinsert

theorem valuesOf_concat (name : String) (lines : List (List Char)) (text : List Char) :
    valuesOf name (lines ++ [text]) =
      valuesOf name lines ++
        ((fieldOf? text).bind fun field =>
          if field.1 = name.toList then some (String.ofList field.2) else none).toList := by
  rw [valuesOf, List.filterMap_append, List.filterMap_append, valuesOf]
  cases hfield : fieldOf? text with
  | none => rw [List.filterMap_cons_none hfield]; rfl
  | some field =>
      rw [List.filterMap_cons_some hfield, List.filterMap_nil]
      by_cases hname : field.1 = name.toList
      · simp [hname]
      · simp [hname]

/-! ### What a framer finds -/

/-- The framer that has read these lines of a group, and this much of another line. -/
def reading (lines : List (List Char)) (line : List UInt8) : Framer :=
  ⟨line.reverse, (valuesOf "event" lines).getLast?, valuesOf "data" lines⟩

theorem takeByte_of_ne (lines : List (List Char)) (line : List UInt8) {b : UInt8} (hb : b ≠ 10) :
    (reading lines line).takeByte b = (reading lines (line ++ [b]), []) := by
  unfold Framer.takeByte
  rw [if_neg hb, reading, reading, List.reverse_concat]

theorem takeByte_newline (lines : List (List Char)) (line : List UInt8) :
    (reading lines line).takeByte 10 = (reading lines []).takeLine (textOf line) := by
  unfold Framer.takeByte
  rw [if_pos rfl]
  unfold reading textOf
  rw [List.reverse_reverse, List.reverse_nil]

theorem takeLine_nil (lines : List (List Char)) :
    (reading lines []).takeLine [] = (reading [] [], (frameOf? lines).toList) := by
  change (reading lines []).dispatch = _
  by_cases hnone : valuesOf "event" lines = [] ∧ valuesOf "data" lines = []
  · rw [frameOf?, if_pos hnone, reading, hnone.1, hnone.2]
    rfl
  · rw [frameOf?, if_neg hnone, Framer.dispatch, if_neg]
    · rfl
    · intro hempty
      rw [Bool.and_eq_true, Option.isNone_iff_eq_none, List.isEmpty_iff] at hempty
      exact hnone ⟨List.getLast?_eq_none_iff.mp hempty.1, hempty.2⟩

theorem takeLine_of_comment (framer : Framer) {text : List Char} (htext : text ≠ [])
    (hcomment : fieldOf? text = none) : framer.takeLine text = (framer, []) := by
  unfold fieldOf? at hcomment
  split at hcomment
  · rfl
  · exact absurd hcomment (Option.some_ne_none _)

theorem takeLine_of_field (framer : Framer) {text : List Char} {field : List Char × List Char}
    (htext : text ≠ []) (hfield : fieldOf? text = some field) :
    framer.takeLine text = (framer.field field.1 field.2, []) := by
  unfold fieldOf? at hfield
  split at hfield
  · exact absurd hfield (Option.some_ne_none _).symm
  · next hcomment =>
      obtain rfl := Option.some.inj hfield
      unfold Framer.takeLine
      split
      · exact absurd rfl htext
      · exact absurd rfl (hcomment _)
      · rfl

theorem takeLine_of_ne_nil (lines : List (List Char)) {text : List Char} (htext : text ≠ []) :
    (reading lines []).takeLine text = (reading (lines ++ [text]) [], []) := by
  unfold reading
  rw [valuesOf_concat, valuesOf_concat]
  cases hfield : fieldOf? text with
  | none =>
      rw [takeLine_of_comment _ htext hfield]
      simp
  | some field =>
      rw [takeLine_of_field _ htext hfield, Framer.field, Option.bind_some, Option.bind_some]
      by_cases hevent : field.1 = "event".toList
      · simp [hevent]
      · rw [if_neg hevent, if_neg hevent]
        by_cases hdata : field.1 = "data".toList
        · simp [hdata]
        · rw [if_neg hdata, if_neg hdata]
          simp

/-- Taking in bytes goes on from the lines and the part of a line that have been read. -/
theorem frames_take_reading (bytes : List UInt8) {lines : List (List Char)} {line : List UInt8}
    (hlines : [] ∉ lines) (hline : 10 ∉ line) :
    ((reading lines line).take bytes).2 =
      (finished [] (lines ++ linesOf (line ++ bytes))).filterMap frameOf? := by
  induction bytes generalizing lines line with
  | nil =>
      rw [List.append_nil, linesOf_of_not_mem hline, List.append_nil, finished_of_not_mem hlines]
      rfl
  | cons b rest ih =>
      change ((reading lines line).takeByte b).2 ++
        (((reading lines line).takeByte b).1.take rest).2 = _
      by_cases hb : b = 10
      · rw [hb, takeByte_newline, linesOf_append_cons hline]
        by_cases htext : textOf line = []
        · rw [htext, takeLine_nil, ih List.not_mem_nil List.not_mem_nil,
            finished_append_cons hlines, List.nil_append, List.nil_append]
          cases hframe : frameOf? lines with
          | none => rw [List.filterMap_cons_none hframe]; rfl
          | some frame => rw [List.filterMap_cons_some hframe]; rfl
        · have hmore : [] ∉ lines ++ [textOf line] := by
            simp [hlines, Ne.symm htext]
          rw [takeLine_of_ne_nil lines htext, ih hmore List.not_mem_nil, List.nil_append,
            List.nil_append, List.append_assoc]
          rfl
      · have hmore : 10 ∉ line ++ [b] := by simp [hline, Ne.symm hb]
        rw [takeByte_of_ne lines line hb, ih hlines hmore, List.nil_append, List.append_assoc]
        rfl

/-- A fresh framer finds the frames in the bytes. -/
theorem frames_take (bytes : List UInt8) : (Framer.fresh.take bytes).2 = framesOf bytes :=
  frames_take_reading bytes List.not_mem_nil List.not_mem_nil

example :
    (Framer.fresh.take
      (Text.Utf8.ofString "event: end\r\ndata: a\ndata:b\n\n: note\n\nid: 1")).2 =
        [⟨"end", "a\nb"⟩] := by
  decide +kernel

theorem take_append (framer : Framer) (first second : List UInt8) :
    framer.take (first ++ second) =
      (((framer.take first).1.take second).1,
        (framer.take first).2 ++ ((framer.take first).1.take second).2) := by
  induction first generalizing framer with
  | nil => rfl
  | cons b first ih =>
      change ((((framer.takeByte b).1.take (first ++ second)).1,
        (framer.takeByte b).2 ++ ((framer.takeByte b).1.take (first ++ second)).2) :
          Framer × List Frame) = _
      rw [ih, ← List.append_assoc]
      rfl

end BuildHerald.Proofs.Framing
