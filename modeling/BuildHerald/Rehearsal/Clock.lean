import BuildHerald.Time.Instant

namespace BuildHerald.Rehearsal

open BuildHerald.Time

/-- A clock that is moved by hand. -/
structure Clock where
  now : Instant
  deriving DecidableEq, Repr

namespace Clock

/-- Moves the clock on. A step longer than the longest one counts as none. -/
def advance (clock : Clock) (span : Span) : Clock :=
  if span.nanos ≤ Instant.longestStep.nanos then ⟨⟨clock.now.nanos + span.nanos⟩⟩ else clock

/-- Sets the clock. -/
def set (_ : Clock) (instant : Instant) : Clock :=
  ⟨instant⟩

end Clock

end BuildHerald.Rehearsal
