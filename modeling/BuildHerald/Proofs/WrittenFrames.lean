import BuildHerald.Proofs.ChunkBoundaries
import BuildHerald.Proofs.EncodedText

/-!
Frames in writing, and that they are read back.

A frame is written as a line with its name, a line for each line of its data and an empty line. All
lines end in a line feed, or all in a carriage return and a line feed, and other lines that tell nothing
may come in between.
-/

namespace BuildHerald.Proofs.WrittenFrames

open BuildHerald.EventStream
open BuildHerald.Proofs.ChunkBoundaries
open BuildHerald.Proofs.EncodedText
open BuildHerald.Proofs.Framing (textOf)

/-! ### Lines in writing -/

/-- What ends each line of a stream. -/
inductive LineEnd
  | feed
  | returnAndFeed

namespace LineEnd

def text : LineEnd → List Char
  | feed => ['\n']
  | returnAndFeed => ['\r', '\n']

/-- What is read of a line. A carriage return in front of the line feed always counts as part of the line
end. -/
def read : LineEnd → List Char → List Char
  | feed, line => Framer.dropReturn line
  | returnAndFeed, line => line

end LineEnd

/-- Lines as they are sent. -/
def written (ending : LineEnd) (lines : List (List Char)) : List UInt8 :=
  Text.Utf8.encode (lines.flatMap fun line => line ++ ending.text)

theorem exists_written_cons (ending : LineEnd) {line : List Char} (hline : '\n' ∉ line)
    (lines : List (List Char)) :
    ∃ bytes, 10 ∉ bytes ∧ textOf bytes = ending.read line ∧
      written ending (line :: lines) = bytes ++ 10 :: written ending lines := by
  have hfeed : Text.Utf8.encode ['\n'] = [10] := by decide
  have hmem (text : List Char) : 10 ∈ Text.Utf8.encode text ↔ '\n' ∈ text :=
    mem_encode_iff (by decide)
  cases ending with
  | feed =>
      refine ⟨Text.Utf8.encode line, (hmem line).not.mpr hline, ?_, ?_⟩
      · rw [textOf, lossy_encode]
        rfl
      · rw [written, List.flatMap_cons, encode_append, encode_append, LineEnd.text, hfeed,
          List.append_assoc]
        rfl
  | returnAndFeed =>
      have hreturn : '\n' ∉ line ++ ['\r'] := by simp [hline]
      refine ⟨Text.Utf8.encode (line ++ ['\r']), (hmem _).not.mpr hreturn, ?_, ?_⟩
      · rw [textOf, lossy_encode, Framer.dropReturn, if_pos List.getLast?_concat,
          List.dropLast_concat]
        rfl
      · have htext : LineEnd.returnAndFeed.text = ['\r'] ++ ['\n'] := rfl
        rw [written, List.flatMap_cons, htext, ← List.append_assoc line, encode_append,
          encode_append, hfeed, List.append_assoc]
        rfl

/-- Takes in whole lines. -/
def takeLines (framer : Framer) : List (List Char) → Framer × List Frame
  | [] => (framer, [])
  | line :: rest =>
      let (framer, first) := framer.takeLine line
      let (framer, others) := takeLines framer rest
      (framer, first ++ others)

theorem takeLines_cons (framer : Framer) (line : List Char) (rest : List (List Char)) :
    takeLines framer (line :: rest) =
      ((takeLines (framer.takeLine line).1 rest).1,
        (framer.takeLine line).2 ++ (takeLines (framer.takeLine line).1 rest).2) :=
  rfl

theorem takeLines_append (framer : Framer) (first second : List (List Char)) :
    takeLines framer (first ++ second) =
      ((takeLines (takeLines framer first).1 second).1,
        (takeLines framer first).2 ++ (takeLines (takeLines framer first).1 second).2) := by
  induction first generalizing framer with
  | nil => rfl
  | cons line first ih =>
      rw [List.cons_append, takeLines_cons, ih, takeLines_cons, List.append_assoc]

/-- The bytes of lines are taken in as the lines that are read of them. -/
theorem take_written (ending : LineEnd) {lines : List (List Char)}
    (hlines : ∀ line ∈ lines, '\n' ∉ line) {framer : Framer} (hempty : framer.line = []) :
    framer.take (written ending lines) = takeLines framer (lines.map ending.read) := by
  induction lines generalizing framer with
  | nil => rfl
  | cons line lines ih =>
      rw [List.forall_mem_cons] at hlines
      obtain ⟨bytes, hbytes, htext, hwritten⟩ := exists_written_cons ending hlines.1 lines
      have hsame : { framer with line := [] } = framer := by rw [← hempty]
      have hafter : (framer.takeLine (ending.read line)).1.line = [] := by
        rw [line_takeLine, hempty]
      rw [hwritten, take_append_cons framer hbytes, hsame, hempty, List.reverse_nil,
        List.nil_append, htext, List.map_cons, takeLines_cons, ← ih hlines.2 hafter]

/-! ### Lines that tell nothing -/

/-- A line that is a comment, or gives another field than the name and the data. -/
def IsAside (line : List Char) : Prop :=
  line ≠ [] ∧ (line.head? = some ':' ∨
    line.takeWhile (· != ':') ∉ ["event".toList, "data".toList])

instance (line : List Char) : Decidable (IsAside line) :=
  inferInstanceAs (Decidable (_ ∧ _))

theorem splitField_fst (line : List Char) :
    (Framer.splitField line).1 = line.takeWhile (· != ':') := by
  rw [Text.takeWhile_eq_splitOnce, Framer.splitField]
  split <;> simp [*]

theorem takeLine_of_isAside (framer : Framer) {line : List Char} (haside : IsAside line) :
    framer.takeLine line = (framer, []) := by
  obtain ⟨hne, haside⟩ := haside
  unfold Framer.takeLine
  split
  · exact absurd rfl hne
  · rfl
  · next hcomment =>
      have hfield : line.takeWhile (· != ':') ∉ ["event".toList, "data".toList] := by
        refine haside.resolve_left ?_
        intro hhead
        obtain ⟨rest, rfl⟩ := List.head?_eq_some_iff.mp hhead
        exact hcomment rest rfl
      rw [List.mem_cons, List.mem_singleton, not_or] at hfield
      rw [splitField_fst, Framer.field, if_neg hfield.1, if_neg hfield.2]

/-- A list of lines with other lines of some kind put in anywhere. -/
inductive Interspersed (kind : List Char → Prop) : List (List Char) → List (List Char) → Prop
  | nil : Interspersed kind [] []
  | keep {lines text : List (List Char)} (line : List Char) :
      Interspersed kind lines text → Interspersed kind (line :: lines) (line :: text)
  | insert {lines text : List (List Char)} {line : List Char} :
      kind line → Interspersed kind lines text → Interspersed kind lines (line :: text)

theorem takeLines_interspersed {ending : LineEnd} {kind : List Char → Prop}
    (hkind : ∀ line, kind line → IsAside (ending.read line)) {lines text : List (List Char)}
    (hspersed : Interspersed kind lines text) (framer : Framer) :
    takeLines framer (text.map ending.read) = takeLines framer (lines.map ending.read) := by
  induction hspersed generalizing framer with
  | nil => rfl
  | keep line _ ih =>
      rw [List.map_cons, takeLines_cons, ih, List.map_cons, takeLines_cons]
  | @insert lines text line hline _ ih =>
      rw [List.map_cons, takeLines_cons, takeLine_of_isAside framer (hkind line hline), ih,
        List.nil_append]

theorem forall_mem_interspersed {kind holds : List Char → Prop}
    (hkind : ∀ line, kind line → holds line) {lines text : List (List Char)}
    (hspersed : Interspersed kind lines text) (hlines : ∀ line ∈ lines, holds line) :
    ∀ line ∈ text, holds line := by
  induction hspersed with
  | nil => exact hlines
  | keep line _ ih =>
      rw [List.forall_mem_cons] at hlines ⊢
      exact ⟨hlines.1, ih hlines.2⟩
  | insert hline _ ih => exact List.forall_mem_cons.mpr ⟨hkind _ hline, ih hlines⟩

/-! ### Frames in writing -/

/-- The lines of the data of a frame. -/
def dataOf (frame : Frame) : List (List Char) :=
  Text.pieces (· == '\n') frame.data.toList

/-- The lines in which a frame is written. -/
def linesFor (frame : Frame) : List (List Char) :=
  ("event: ".toList ++ frame.name.toList) ::
    ((dataOf frame).map fun line => "data: ".toList ++ line) ++ [[]]

/-- The frame can be written, so that neither its name nor a line of its data is taken for more or for
less than it is. -/
structure IsWritable (frame : Frame) : Prop where
  name : '\n' ∉ frame.name.toList
  name_last : frame.name.toList.getLast? ≠ some '\r'
  data_last : ∀ line ∈ dataOf frame, line.getLast? ≠ some '\r'

theorem intercalate_dataOf (frame : Frame) :
    String.intercalate "\n" ((dataOf frame).map String.ofList) = frame.data := by
  have hback : String.toList ∘ String.ofList = id := funext fun _ => String.toList_ofList
  rw [← String.toList_inj, String.toList_intercalate, List.map_map, hback, List.map_id]
  exact Text.intercalate_pieces '\n' frame.data.toList

theorem takeLine_name (framer : Framer) (name : String) :
    framer.takeLine ("event: ".toList ++ name.toList) = ({ framer with name := some name }, []) := by
  change (framer.field "event".toList name.toList, []) = _
  rw [Framer.field, if_pos rfl, String.ofList_toList]

theorem takeLine_data (framer : Framer) (line : List Char) :
    framer.takeLine ("data: ".toList ++ line) =
      ({ framer with data := framer.data ++ [String.ofList line] }, []) :=
  rfl

theorem takeLines_data (framer : Framer) (lines : List (List Char)) :
    takeLines framer (lines.map fun line => "data: ".toList ++ line) =
      ({ framer with data := framer.data ++ lines.map String.ofList }, []) := by
  induction lines generalizing framer with
  | nil => rw [List.map_nil, List.map_nil, List.append_nil]; rfl
  | cons line lines ih =>
      rw [List.map_cons, takeLines_cons, takeLine_data, ih, List.map_cons, List.append_assoc]
      rfl

theorem takeLines_linesFor (frame : Frame) :
    takeLines .fresh (linesFor frame) = (.fresh, [frame]) := by
  rw [linesFor, List.cons_append, takeLines_cons, takeLine_name, takeLines_append, takeLines_data]
  change (Framer.fresh,
    [(⟨frame.name, String.intercalate "\n" ((dataOf frame).map String.ofList)⟩ : Frame)]) = _
  rw [intercalate_dataOf]

theorem takeLines_frames (frames : List Frame) :
    takeLines .fresh (frames.flatMap linesFor) = (.fresh, frames) := by
  induction frames with
  | nil => rfl
  | cons frame frames ih =>
      rw [List.flatMap_cons, takeLines_append, takeLines_linesFor, ih, List.singleton_append]

theorem read_of_last_ne (ending : LineEnd) {line : List Char} (hlast : line.getLast? ≠ some '\r') :
    ending.read line = line := by
  cases ending with
  | feed => exact if_neg hlast
  | returnAndFeed => rfl

theorem getLast?_labelled {label line : List Char} (hlabel : label.getLast? = some ' ')
    (hlast : line.getLast? ≠ some '\r') : (label ++ line).getLast? ≠ some '\r' := by
  rw [List.getLast?_append, hlabel]
  cases hline : line.getLast? with
  | none => decide
  | some c =>
      rw [hline] at hlast
      exact hlast

theorem mem_linesFor {frame : Frame} (hframe : IsWritable frame) :
    ∀ line ∈ linesFor frame, '\n' ∉ line ∧ line.getLast? ≠ some '\r' := by
  intro line hline
  rw [linesFor, List.cons_append, List.mem_cons, List.mem_append, List.mem_map,
    List.mem_singleton] at hline
  obtain rfl | ⟨data, hdata, rfl⟩ | rfl := hline
  · refine ⟨?_, getLast?_labelled (by decide) hframe.name_last⟩
    rw [List.mem_append, not_or]
    exact ⟨by decide, hframe.name⟩
  · refine ⟨?_, getLast?_labelled (by decide) (hframe.data_last data hdata)⟩
    rw [List.mem_append, not_or]
    refine ⟨by decide, fun hfeed => ?_⟩
    exact absurd (Text.of_mem_pieces hdata _ hfeed).2 (by decide)
  · decide

/-- A line that can be put between those of frames: what is read of it tells nothing. -/
def IsInsertable (ending : LineEnd) (line : List Char) : Prop :=
  '\n' ∉ line ∧ IsAside (ending.read line)

instance (ending : LineEnd) (line : List Char) : Decidable (IsInsertable ending line) :=
  inferInstanceAs (Decidable (_ ∧ _))

/-- Frames are read back from their writing, in whatever chunks it comes, and nothing is left open. -/
theorem written_frames_read_back {ending : LineEnd} {frames : List Frame}
    {text : List (List Char)} {chunks : List (List UInt8)}
    (hframes : ∀ frame ∈ frames, IsWritable frame)
    (hspersed : Interspersed (IsInsertable ending) (frames.flatMap linesFor) text)
    (hchunks : chunks.flatten = written ending text) :
    takeAll .fresh chunks = (.fresh, frames) := by
  have hlines : ∀ line ∈ frames.flatMap linesFor, '\n' ∉ line ∧ line.getLast? ≠ some '\r' := by
    intro line hline
    obtain ⟨frame, hframe, hline⟩ := List.mem_flatMap.mp hline
    exact mem_linesFor (hframes frame hframe) line hline
  have htext : ∀ line ∈ text, '\n' ∉ line :=
    forall_mem_interspersed (fun _ hline => hline.1) hspersed fun line hline => (hlines line hline).1
  have hread : (frames.flatMap linesFor).map ending.read = frames.flatMap linesFor :=
    (List.map_congr_left fun line hline => read_of_last_ne ending (hlines line hline).2).trans
      (List.map_id _)
  rw [takeAll_eq_take, hchunks, take_written ending htext rfl,
    takeLines_interspersed (fun _ hline => hline.2) hspersed, hread, takeLines_frames]

/-- Two frames, the second one empty, with a comment inside the first and a number in front of the
second. -/
def notedFrames : List Frame :=
  [⟨"log", "café\n: x"⟩, ⟨"", ""⟩]

def notedText : List (List Char) :=
  ["event: log", ": note\r", "data: café", "data: : x", "", "id: 1", "event: ", "data: ", ""].map
    String.toList

/-- The frames are read back from two chunks, the first of which ends inside a character. -/
theorem notedFrames_read_back :
    (∀ frame ∈ notedFrames, IsWritable frame) ∧
      Interspersed (IsInsertable .feed) (notedFrames.flatMap linesFor) notedText ∧
      takeAll .fresh [(written .feed notedText).take 29, (written .feed notedText).drop 29] =
        (.fresh, notedFrames) := by
  have hframes : ∀ frame ∈ notedFrames, IsWritable frame := by
    intro frame hframe
    obtain rfl | rfl := List.mem_pair.mp hframe
    · exact ⟨by decide, by decide, by decide⟩
    · exact ⟨by decide, by decide, by decide⟩
  have hspersed : Interspersed (IsInsertable .feed) (notedFrames.flatMap linesFor) notedText :=
    .keep _ (.insert (by decide) (.keep _ (.keep _ (.keep _ (.insert (by decide)
      (.keep _ (.keep _ (.keep _ .nil))))))))
  refine ⟨hframes, hspersed, written_frames_read_back hframes hspersed ?_⟩
  simp

/-- A line that holds nothing but a carriage return ends the frame when a line feed follows. -/
theorem lone_return_ends_frame :
    IsWritable ⟨"a", "b"⟩ ∧
      Interspersed (fun line => '\n' ∉ line ∧ IsAside line) (linesFor ⟨"a", "b"⟩)
        (["event: a", "\r", "data: b", ""].map String.toList) ∧
      (Framer.fresh.take
        (written .feed (["event: a", "\r", "data: b", ""].map String.toList))).2 =
          [⟨"a", ""⟩, ⟨"message", "b"⟩] := by
  refine ⟨⟨by decide, by decide, by decide⟩, ?_, by decide +kernel⟩
  exact .keep _ (.insert (by decide) (.keep _ (.keep _ .nil)))

end BuildHerald.Proofs.WrittenFrames
