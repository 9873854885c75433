import BuildHerald.Text.Split

namespace BuildHerald

/-- A job of a pipeline. What the watch remembers is kept by job. -/
structure Job where
  team : String
  pipeline : String
  name : String
  deriving DecidableEq, Repr

namespace Job

/-- A job in writing: team, pipeline and name with slashes between them. -/
def display (job : Job) : String :=
  job.team ++ "/" ++ job.pipeline ++ "/" ++ job.name

/-- The job that a word names, as `team/pipeline/job`, or as `pipeline/job` in a default team. No part
may be empty. -/
def ofTarget? (defaultTeam target : String) : Option Job :=
  let parts := Text.pieces (· == '/') target.toList
  if parts.any (·.isEmpty) then none
  else
    match parts.map String.ofList with
    | [pipeline, name] => some ⟨defaultTeam, pipeline, name⟩
    | [team, pipeline, name] => some ⟨team, pipeline, name⟩
    | _ => none

end Job

end BuildHerald
