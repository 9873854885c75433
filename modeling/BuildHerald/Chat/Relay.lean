import BuildHerald.Dialogue
import BuildHerald.Fault

namespace BuildHerald.Chat

variable {Question : Type} {Answer : Question → Type}

/-- Sends lines one after the other. One that cannot be sent does not keep the next from being sent. -/
def relay (send : String → Dialogue Question Answer (Except ChatFault Unit)) :
    List String → Dialogue Question Answer Unit
  | [] => .done ()
  | line :: rest => (send line).andThen fun _ => relay send rest

end BuildHerald.Chat
