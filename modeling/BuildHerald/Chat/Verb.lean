import BuildHerald.Text.Blank
import BuildHerald.Text.Lowercase

namespace BuildHerald.Chat

/-- What a command asks for. -/
inductive Verb
  | rerun
  | pause
  | unpause
  | mute
  deriving DecidableEq, Repr

namespace Verb

/-- The verb that a name stands for, whatever its case. -/
def ofName? (name : String) : Option Verb :=
  match String.ofList (Text.lower (Text.trim name.toList)) with
  | "rerun" | "try again" | "retry" => some rerun
  | "pause" | "stop" => some pause
  | "unpause" | "play" => some unpause
  | "mute" | "silence" => some mute
  | _ => none

end Verb

end BuildHerald.Chat
