import BuildHerald.Job
import BuildHerald.Table
import BuildHerald.Time.Instant

namespace BuildHerald.Herald

open BuildHerald.Time

/-- Until when jobs are muted. -/
abbrev Mutes := Table Job Instant

namespace Mutes

/-- Whether a job is muted at an instant. A mute that is over is taken out. -/
def check (mutes : Mutes) (job : Job) (now : Instant) : Bool × Mutes :=
  match mutes.get? job with
  | some expiry => if now.nanos < expiry.nanos then (true, mutes) else (false, mutes.erase job)
  | none => (false, mutes)

end Mutes

end BuildHerald.Herald
