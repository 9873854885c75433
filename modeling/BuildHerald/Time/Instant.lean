import BuildHerald.Time.Span

namespace BuildHerald.Time

/-- A point in time, in nanoseconds since the start of 1970 in universal time. -/
structure Instant where
  nanos : Int
  deriving DecidableEq, Repr

namespace Instant

def ofMillis (millis : Int) : Instant :=
  ⟨millis * 1000000⟩

/-- Whole seconds, downwards. -/
def seconds (instant : Instant) : Int :=
  Int.fdiv instant.nanos 1000000000

/-- Nanoseconds beyond the whole seconds. -/
def subsecond (instant : Instant) : Int :=
  Int.fmod instant.nanos 1000000000

/-- A calendar day in the proleptic Gregorian calendar. -/
structure Date where
  year : Int
  month : Nat
  day : Nat
  deriving DecidableEq, Repr

/-- The day that lies a number of days after the start of 1970. Years are counted from March, in
cycles of 400 years, so that a leap day is the last day of its year. -/
def Date.ofDays (days : Int) : Date :=
  let shifted := days + 719468
  let era := Int.fdiv shifted 146097
  let dayOfEra := (Int.fmod shifted 146097).toNat
  let yearOfEra := (dayOfEra - dayOfEra / 1460 + dayOfEra / 36524 - dayOfEra / 146096) / 365
  let dayOfYear := dayOfEra - (365 * yearOfEra + yearOfEra / 4 - yearOfEra / 100)
  let monthFromMarch := (5 * dayOfYear + 2) / 153
  let month := if monthFromMarch < 10 then monthFromMarch + 3 else monthFromMarch - 9
  { year := yearOfEra + era * 400 + (if month ≤ 2 then 1 else 0)
    month := month
    day := dayOfYear - (153 * monthFromMarch + 2) / 5 + 1 }

/-- How many days after the start of 1970 the first day of a year lies. -/
def daysBeforeYear (year : Int) : Int :=
  let past := year - 1
  past * 365 + Int.fdiv past 4 - Int.fdiv past 100 + Int.fdiv past 400 - 719162

/-- The first instant that can be told. -/
def first : Instant :=
  ⟨daysBeforeYear (-262143) * 86400 * 1000000000⟩

/-- The last instant that can be told. -/
def last : Instant :=
  ⟨daysBeforeYear 262143 * 86400 * 1000000000 - 1⟩

/-- Whether an instant lies in the years that can be told. -/
def InRange (instant : Instant) : Prop :=
  first.nanos ≤ instant.nanos ∧ instant.nanos ≤ last.nanos

instance (instant : Instant) : Decidable instant.InRange := by
  unfold InRange
  infer_instance

/-- The longest step in time: as many milliseconds as a signed word of 64 bits can hold. -/
def longestStep : Span :=
  Span.ofMillis (Nat.pow 2 63 - 1)

/-- The instant a length of time later, if the length is no longer than the longest step and the
instant can be told. -/
def later? (instant : Instant) (span : Span) : Option Instant :=
  if span.nanos ≤ longestStep.nanos then
    let reached : Instant := ⟨instant.nanos + span.nanos⟩
    if reached.InRange then some reached else none
  else none

/-- The digits of a number, filled up to a width with zeros at the left. -/
def padded (width n : Nat) : List Char :=
  let digits := Nat.toDigits 10 n
  List.replicate (width - digits.length) '0' ++ digits

/-- A year with at least four digits. Years beyond 9999 and before 0 have a sign. -/
def yearText (year : Int) : List Char :=
  if year < 0 then '-' :: padded 4 year.natAbs
  else if 9999 < year then '+' :: padded 4 year.natAbs
  else padded 4 year.natAbs

/-- Date and time of day in universal time, to the second. -/
def text (instant : Instant) : String :=
  let date := Date.ofDays (Int.fdiv instant.seconds 86400)
  let second := (Int.fmod instant.seconds 86400).toNat
  String.ofList (yearText date.year ++ '-' :: padded 2 date.month ++ '-' :: padded 2 date.day ++
    ' ' :: padded 2 (second / 3600) ++ ':' :: padded 2 (second / 60 % 60) ++
    ':' :: padded 2 (second % 60) ++ [' ', 'U', 'T', 'C'])

end Instant

end BuildHerald.Time
