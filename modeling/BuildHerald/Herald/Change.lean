import BuildHerald.Herald.Streak
import BuildHerald.Notification

namespace BuildHerald.Herald

/-- A change in a job's fortune that is worth telling. -/
inductive Change
  /-- The first failure, after a success or as the first build. -/
  | broke
  /-- Another failure in a row. -/
  | staysBroken
  /-- A success after failures. -/
  | recovered
  | errored
  | aborted
  deriving DecidableEq, Repr

namespace Change

/-- The change that a build with status `new` makes after one with status `old`, if it is worth
telling. -/
def between? (old : Option Status) (new : Status) : Option Change :=
  match old, new with
  | none, .failed | some .succeeded, .failed => some broke
  | some .failed, .failed => some staysBroken
  | some .failed, .succeeded => some recovered
  | none, .errored | some .succeeded, .errored | some .failed, .errored
  | some .errored, .errored => some errored
  | none, .aborted | some .succeeded, .aborted | some .failed, .aborted
  | some .errored, .aborted => some aborted
  | _, _ => none

def severity : Change → Severity
  | recovered => .info
  | _ => .error

/-- Whether the transcript of the build belongs to the notification. -/
def showsTranscript : Change → Bool
  | broke | staysBroken => true
  | _ => false

/-- What is told. The streak is the one before the build. -/
def title (change : Change) (job : Job) (streak : Streak) : String :=
  let subject := "Job " ++ job.name ++ " from " ++ job.pipeline
  match change with
  | broke => subject ++ " has failed."
  | staysBroken =>
      subject ++ " is still failing (" ++ toString (streak.failures + 1) ++ " times in a row)."
  | recovered =>
      subject ++ " has recovered after " ++ toString streak.failures ++ " failure(s)."
  | errored => subject ++ " has errored."
  | aborted => subject ++ " was aborted."

/-- The notification of a change made by a build of a job. -/
def notification (change : Change) (dashboard : String) (build : Build) (job : Job)
    (streak : Streak) (transcript : String) : Notification where
  severity := change.severity
  title := change.title job streak
  link := dashboard ++ build.page
  job := job
  output := if change.showsTranscript then transcript else ""

end Change

end BuildHerald.Herald
