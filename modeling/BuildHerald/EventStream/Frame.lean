import BuildHerald.Text.Split
import BuildHerald.Text.Utf8

namespace BuildHerald.EventStream

/-- One server-sent event. -/
structure Frame where
  name : String
  data : String
  deriving DecidableEq, Repr

/-- What has been received of a frame that is not complete. -/
structure Framer where
  /-- The bytes of the unfinished line, last one first. -/
  line : List UInt8
  /-- The name of the event, if it has been given. -/
  name : Option String
  /-- The data lines so far. -/
  data : List String
  deriving DecidableEq, Repr

namespace Framer

def fresh : Framer :=
  ⟨[], none, []⟩

/-- Completes a frame. There is none if neither a name nor data have been given. -/
def dispatch (framer : Framer) : Framer × List Frame :=
  if framer.name.isNone && framer.data.isEmpty then (framer, [])
  else
    ({ framer with name := none, data := [] },
      [⟨framer.name.getD "message", String.intercalate "\n" framer.data⟩])

/-- Takes in a field. Only event names and data count. -/
def field (framer : Framer) (name value : List Char) : Framer :=
  if name = "event".toList then { framer with name := some (String.ofList value) }
  else if name = "data".toList then
    { framer with data := framer.data ++ [String.ofList value] }
  else framer

/-- The name and the value in a line. One space after the colon does not count. -/
def splitField (text : List Char) : List Char × List Char :=
  match Text.splitOnce ':' text with
  | some (name, ' ' :: value) => (name, value)
  | some (name, value) => (name, value)
  | none => (text, [])

/-- Takes in a line. An empty one completes a frame, and one that starts with a colon is a comment. -/
def takeLine (framer : Framer) (text : List Char) : Framer × List Frame :=
  match text with
  | [] => framer.dispatch
  | ':' :: _ => (framer, [])
  | text => (framer.field (splitField text).1 (splitField text).2, [])

/-- A line without the carriage return at its end. -/
def dropReturn (text : List Char) : List Char :=
  if text.getLast? = some '\r' then text.dropLast else text

/-- Takes in a byte. A line feed ends the line. -/
def takeByte (framer : Framer) (b : UInt8) : Framer × List Frame :=
  if b = 10 then
    { framer with line := [] }.takeLine (dropReturn (Text.Utf8.lossy framer.line.reverse))
  else ({ framer with line := b :: framer.line }, [])

/-- Takes in bytes, and gives the frames that they complete. -/
def take (framer : Framer) : List UInt8 → Framer × List Frame
  | [] => (framer, [])
  | b :: rest =>
      let (framer, first) := framer.takeByte b
      let (framer, others) := framer.take rest
      (framer, first ++ others)

end Framer

end BuildHerald.EventStream
