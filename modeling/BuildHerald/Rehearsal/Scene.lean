import BuildHerald.Rehearsal.Network
import BuildHerald.Station.Act

namespace BuildHerald.Rehearsal

open BuildHerald.Station

/-- Surroundings in which the program can be watched. -/
structure Scene where
  network : Network
  /-- What was written for the user. -/
  printed : String
  /-- What was written beside it. -/
  noted : String

namespace Scene

def before (network : Network) : Scene :=
  ⟨network, "", ""⟩

/-- What comes of an act. -/
def answer (act : Act) (scene : Scene) : act.Answer × Scene :=
  match act with
  | .request request =>
      let (outcome, network) := scene.network.answer request
      (outcome, { scene with network := network })
  | .print text => ((), { scene with printed := scene.printed ++ text })
  | .note text => ((), { scene with noted := scene.noted ++ text })

/-- Lets a course of acts take place. -/
def play {α : Type} (scene : Scene) (work : Work α) : α × Scene :=
  work.run answer scene

end Scene

end BuildHerald.Rehearsal
