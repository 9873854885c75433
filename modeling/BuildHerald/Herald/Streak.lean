import BuildHerald.Build
import BuildHerald.Table

namespace BuildHerald.Herald

/-- What is remembered about the builds of a job. -/
structure Streak where
  /-- Status of the last build; none before the first. -/
  last : Option Status
  /-- How many builds have failed in a row. -/
  failures : Nat
  deriving DecidableEq, Repr

namespace Streak

/-- The streak of a job no build of which has been seen. -/
def none : Streak :=
  ⟨Option.none, 0⟩

/-- Takes in the status of one more build. Any but a failed one ends the run of failures. -/
def record (streak : Streak) (status : Status) : Streak :=
  ⟨some status, if status = .failed then streak.failures + 1 else 0⟩

end Streak

/-- The streaks of all jobs seen so far. -/
abbrev Streaks := Table Job Streak

namespace Streaks

def get (streaks : Streaks) (job : Job) : Streak :=
  (streaks.get? job).getD Streak.none

/-- Takes in a finished build. One without a job is passed over. -/
def record (streaks : Streaks) (build : Build) : Streaks :=
  match build.job? with
  | some job => streaks.put job ((streaks.get job).record build.status)
  | none => streaks

end Streaks

end BuildHerald.Herald
