import BuildHerald.Build
import BuildHerald.Json.Shape

namespace BuildHerald

/-- How loud a notification is. -/
inductive Severity
  | info
  | warn
  | error
  deriving DecidableEq, Repr

namespace Severity

def name : Severity → String
  | info => "info"
  | warn => "warn"
  | error => "error"

/-- The sign at the head of a notification. -/
def marker : Severity → String
  | info => "✅"
  | warn => "⚠️"
  | error => "❌"

/-- The shape of a severity. -/
def shape : Json.Shape Severity :=
  Json.Shape.oneOf ([info, warn, error].map fun severity => (severity.name, severity)) "a severity"

end Severity

/-- A message for the chat about a job. -/
structure Notification where
  severity : Severity
  title : String
  /-- Address of the page of the build on the dashboard. -/
  link : String
  job : Job
  /-- Transcript of the build; empty if none was wanted. -/
  output : String
  deriving DecidableEq, Repr

end BuildHerald
