import BuildHerald.Dialogue
import BuildHerald.Http.Exchange

namespace BuildHerald.Station

/-- What the program does to the world around it. -/
inductive Act
  /-- Send a request and wait for what comes of it. -/
  | request (request : Http.Request)
  /-- Write to the output that is meant for the user. -/
  | print (text : String)
  /-- Write to the output beside it. -/
  | note (text : String)

/-- What comes back from an act. -/
@[reducible] def Act.Answer : Act → Type
  | request _ => Http.Outcome
  | print _ => Unit
  | note _ => Unit

/-- A course of acts. -/
abbrev Work := Dialogue Act Act.Answer

namespace Work

def request (request : Http.Request) : Work Http.Outcome :=
  .ask (.request request) .done

def exchange {α : Type} (exchange : Http.Exchange α) : Work α :=
  exchange.interpret request

def print (text : String) : Work Unit :=
  .ask (.print text) .done

def note (text : String) : Work Unit :=
  .ask (.note text) .done

end Work

end BuildHerald.Station
