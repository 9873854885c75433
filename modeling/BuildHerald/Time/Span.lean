namespace BuildHerald.Time

/-- A length of time, in nanoseconds. -/
structure Span where
  nanos : Nat
  deriving DecidableEq, Repr

namespace Span

def nanosPerSecond : Nat := 1000000000

def ofSeconds (seconds : Nat) : Span :=
  ⟨seconds * nanosPerSecond⟩

def ofMillis (millis : Nat) : Span :=
  ⟨millis * 1000000⟩

/-- Whole seconds. -/
def seconds (span : Span) : Nat :=
  span.nanos / nanosPerSecond

/-- Nanoseconds beyond the whole seconds. -/
def subsecond (span : Span) : Nat :=
  span.nanos % nanosPerSecond

/-- Whole milliseconds. -/
def millis (span : Span) : Nat :=
  span.nanos / 1000000

end Span

end BuildHerald.Time
