import BuildHerald.Build
import BuildHerald.Json.Shape

namespace BuildHerald

open Json

/-- The shape of a status. -/
def Status.shape : Shape Status :=
  Shape.oneOf (Status.all.map fun status => (status.name, status)) "a status"

namespace Build

/-- The fields of a build as the server writes it. -/
def fields : List Field :=
  [.required "id" Shape.word,
   .allowed "name" Shape.text,
   .required "team_name" Shape.text,
   .allowed "pipeline_name" (Shape.nullable Shape.text),
   .allowed "job_name" (Shape.nullable Shape.text),
   .required "status" Status.shape]

/-- The shape of a build as the server writes it. -/
def shape : Shape Build := fun tree => do
  let record ← Record.ofTree "Build" fields tree
  .ok {
    id := ← record.get "id" Shape.word
    name := ← record.getD "name" Shape.text ""
    team := ← record.get "team_name" Shape.text
    pipeline := ← record.getD "pipeline_name" (Shape.nullable Shape.text) none
    jobName := ← record.getD "job_name" (Shape.nullable Shape.text) none
    status := ← record.get "status" Status.shape }

end Build

end BuildHerald
