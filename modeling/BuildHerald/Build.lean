import BuildHerald.Job

namespace BuildHerald

/-- How far a build has come. -/
inductive Status
  | pending
  | started
  | succeeded
  | failed
  | errored
  | aborted
  deriving DecidableEq, Repr

namespace Status

/-- Whether the build has not come to an end yet. -/
def isRunning : Status → Bool
  | pending | started => true
  | _ => false

def isFinished (status : Status) : Bool :=
  !status.isRunning

def name : Status → String
  | pending => "pending"
  | started => "started"
  | succeeded => "succeeded"
  | failed => "failed"
  | errored => "errored"
  | aborted => "aborted"

/-- Every status. -/
def all : List Status :=
  [pending, started, succeeded, failed, errored, aborted]

end Status

/-- One execution of a job, or of a task outside any job. -/
structure Build where
  id : Nat
  /-- The number of the build within its job. -/
  name : String
  team : String
  pipeline : Option String
  jobName : Option String
  status : Status
  deriving DecidableEq, Repr

namespace Build

/-- The job of the build. There is none unless pipeline and job have names. -/
def job? (build : Build) : Option Job :=
  match build.pipeline, build.jobName with
  | some pipeline, some name =>
      if pipeline = "" ∨ name = "" then none else some ⟨build.team, pipeline, name⟩
  | _, _ => none

/-- Whether the build belongs to no job. -/
def isOneOff (build : Build) : Bool :=
  build.job?.isNone

/-- Where the page of the build lies on the dashboard. -/
def page (build : Build) : String :=
  match build.job? with
  | some job =>
      "/teams/" ++ job.team ++ "/pipelines/" ++ job.pipeline ++ "/jobs/" ++ job.name ++
        "/builds/" ++ build.name
  | none => "/builds/" ++ toString build.id

end Build

end BuildHerald
