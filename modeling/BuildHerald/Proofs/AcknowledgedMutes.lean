import BuildHerald.Proofs.MuteWindows
import BuildHerald.Proofs.OwnEntries
import BuildHerald.Proofs.SpanReadings
import BuildHerald.Settings

/-!
Whether a job is muted when it is said to be.

A mute lasts as long as the environment or the command says. It lasts for no time at all if the
environment says zero minutes, or if what the command says is rounded to zero nanoseconds.
-/

namespace BuildHerald.Proofs.AcknowledgedMutes

open BuildHerald.Number
open BuildHerald.Herald
open BuildHerald.Settings
open BuildHerald.Time
open BuildHerald.Time.SpanText
open BuildHerald.Chat
open BuildHerald.Proofs.Announcements (fst_check lasting)
open BuildHerald.Proofs.Conversation
open BuildHerald.Proofs.MuteEntries (spanAsked)
open BuildHerald.Proofs.MuteWindows (runs_muted)
open BuildHerald.Proofs.OwnEntries (muteExpiry_eq_ok_iff)
open BuildHerald.Proofs.RoundedNumbers
open BuildHerald.Proofs.SpanParts
open BuildHerald.Proofs.SpanReadings

/-! ### How long a mute lasts -/

section Environment

variable {environment : Environment} {watch : Watch} {span : Span}

/-- The variable that says how many minutes a mute lasts if the command does not say. -/
def usualLength : String :=
  "BUILDWATCH_DEFAULT_MUTE_MIN"

theorem minutes_of_ofEnvironment (hwatch : Watch.ofEnvironment environment = .ok watch) :
    environment.minutes usualLength 30 = .ok watch.muteSpan := by
  unfold Watch.ofEnvironment at hwatch
  cases hinterval : environment.seconds "BUILDWATCH_POLL_INTERVAL_SECS" 4 with
  | error fault =>
      rw [hinterval] at hwatch
      cases hwatch
  | ok interval =>
      rw [hinterval] at hwatch
      rw [usualLength]
      cases hminutes : environment.minutes "BUILDWATCH_DEFAULT_MUTE_MIN" 30 with
      | error fault =>
          rw [hminutes] at hwatch
          cases hwatch
      | ok span =>
          rw [hminutes] at hwatch
          cases hwatch
          rfl

theorem minutes_nanos_eq_zero_iff {name : String} {default : Nat} (hdefault : 0 < default)
    (hminutes : environment.minutes name default = .ok span) :
    span.nanos = 0 ↔ environment.number? name = .ok (some 0) := by
  unfold Environment.minutes at hminutes
  cases hnumber : environment.number? name with
  | error fault =>
      rw [hnumber] at hminutes
      cases hminutes
  | ok found =>
      rw [hnumber] at hminutes
      cases found with
      | none =>
          cases hminutes
          simp only [Span.ofSeconds, Span.nanosPerSecond, Except.ok.injEq, reduceCtorEq, iff_false]
          omega
      | some n =>
          change (if n * 60 < Text.wordBound then Except.ok (Span.ofSeconds (n * 60)) else _) = _
            at hminutes
          split at hminutes
          · cases hminutes
            simp only [Span.ofSeconds, Span.nanosPerSecond, Except.ok.injEq, Option.some.injEq]
            omega
          · cases hminutes

end Environment

theorem ofMillis?_nanos_eq_zero_iff {total : Binary64} {span : Span}
    (hkept : ofMillis? total = some span) :
    span.nanos = 0 ↔ ∃ units, total = .finite units ∧
      2 * (secondsIn units * Span.nanosPerSecond) ≤ Binary64.one := by
  obtain ⟨units, rfl, -, -, rfl⟩ := ofMillis?_eq_some_iff.mp hkept
  simp only [divideEven_eq_zero_iff binary64_one_pos, Binary64.finite.injEq, exists_eq_left']

/-- The length of time that is asked for comes to nothing. -/
inductive Vanishes (environment : Environment) : List String → Prop
  | usual : environment.number? usualLength = .ok (some 0) → Vanishes environment []
  /-- The sum of the parts, in seconds, is half a nanosecond or less. -/
  | written {arg : String} {others : List String} {parts : List Part} {units : Nat} :
      Tiles Char.isDigit (Text.trim arg.toList) parts → totalMillis parts = .finite units →
        2 * (secondsIn units * Span.nanosPerSecond) ≤ Binary64.one →
          Vanishes environment (arg :: others)

theorem nanos_eq_zero_iff {environment : Environment} {watch : Watch} {dashboard : String}
    {args : List String} {span : Span} (hwatch : Watch.ofEnvironment environment = .ok watch)
    (hspan : spanAsked ⟨dashboard, watch.muteSpan⟩ args = some span) :
    span.nanos = 0 ↔ Vanishes environment args := by
  cases args with
  | nil =>
      obtain rfl : watch.muteSpan = span := Option.some.inj hspan
      rw [minutes_nanos_eq_zero_iff (by decide) (minutes_of_ofEnvironment hwatch)]
      constructor
      · exact .usual
      · rintro ⟨hzero⟩
        exact hzero
  | cons arg others =>
      have hread : Span.ofText? arg.toList = some span := hspan
      obtain ⟨parts, htiles⟩ := exists_tiles_of_isSome (Option.isSome_of_eq_some hread)
      have hparts := readByParts htiles
      rw [hparts.read] at hread
      rw [ofMillis?_nanos_eq_zero_iff hread]
      constructor
      · rintro ⟨units, htotal, hsmall⟩
        exact .written htiles htotal hsmall
      · rintro (_ | ⟨hothers, htotal, hsmall⟩)
        rw [hparts.unique _ (tiles_of_isDigit hothers)] at htotal
        exact ⟨_, htotal, hsmall⟩

/-! ### What is said -/

variable {settings : Herald.Settings} {now expiry : Instant} {job : Job} {ticket : Ticket}

/-- Somebody is told that the job is muted. -/
def Acknowledged (ticket : Ticket) (job : Job) (trace : List Done) : Prop :=
  ∃ rest, said ticket ("Job " ++ job.display ++ " muted until " ++ rest) ∈ trace

theorem nanos_of_later? {span : Span} (hlater : now.later? span = some expiry) :
    expiry.nanos = now.nanos + span.nanos := by
  unfold Instant.later? at hlater
  split at hlater
  · simp only at hlater
    split at hlater
    · exact congrArg Instant.nanos (Option.some.inj hlater).symm
    · cases hlater
  · cases hlater

/-- What is said in place of a mute does not begin as what is said about one. -/
theorem not_acknowledged_of_error {args : List String} {line : String}
    (hrefused : muteExpiry settings now args = .error line) :
    ¬ Acknowledged ticket job [said ticket line, closed ticket] := by
  rintro ⟨rest, hsaid⟩
  obtain rfl : "Job " ++ job.display ++ " muted until " ++ rest = line := by
    simpa [said, closed] using hsaid
  unfold muteExpiry at hrefused
  split at hrefused
  · split at hrefused
    · cases hrefused
    · have hline := congrArg String.toList (Except.error.inj hrefused)
      simp [String.toList_append] at hline
  · split at hrefused
    · cases hrefused
    · have hline := congrArg String.toList (Except.error.inj hrefused)
      simp [String.toList_append] at hline

/-- A job that is said to be muted is entered as muted until some time, and it is muted now exactly if
the length of time that was asked for did not come to nothing. -/
theorem muted_when_acknowledged_iff {environment : Environment} {watch : Watch} {dashboard : String}
    {herald after : Herald} {command : Command} {trace : List Done}
    (hwatch : Watch.ofEnvironment environment = .ok watch)
    (hverb : Verb.ofName? command.name = some .mute) (hjob : command.job = some job)
    (hruns : Runs (herald.handleCommand ⟨dashboard, watch.muteSpan⟩ now ticket command) trace after)
    (hacknowledged : Acknowledged ticket job trace) :
    ∃ expiry, after.mutes.get? job = some expiry ∧
      (now.nanos < expiry.nanos ↔ ¬ Vanishes environment command.args) ∧
      ((after.mutes.check job now).1 = true ↔ ¬ Vanishes environment command.args) := by
  cases commandHandled_of_runs hruns with
  | unknown hother => simp [hverb] at hother
  | untargeted _ hother => simp [hjob] at hother
  | rerun hother => simp [hverb] at hother
  | rerunFailed hother => simp [hverb] at hother
  | @paused _ _ paused _ hother heq =>
      obtain rfl := Option.some.inj (hverb.symm.trans hother)
      cases paused <;> simp at heq
  | muteRefused _ _ hrefused => exact absurd hacknowledged (not_acknowledged_of_error hrefused)
  | @muted other expiry _ hother hexpiry =>
      obtain rfl := Option.some.inj (hjob.symm.trans hother)
      obtain ⟨span, hspan, hlater⟩ := muteExpiry_eq_ok_iff.mp hexpiry
      have hentry : (herald.mutes.put job expiry).get? job = some expiry := Table.get?_put_self ..
      have hlasts : now.nanos < expiry.nanos ↔ ¬ Vanishes environment command.args := by
        rw [← nanos_eq_zero_iff hwatch hspan, nanos_of_later? hlater]
        omega
      refine ⟨expiry, hentry, hlasts, ?_⟩
      rw [← hlasts, fst_check, hentry]
      simp [lasting, Option.filter]

/-! ### A mute of some minutes, and one of no time -/

/-- An environment in which a mute usually lasts 45 minutes. -/
def slowEnvironment : Environment :=
  [(usualLength, Text.Utf8.ofString "45")]

/-- The settings with a mute of so many minutes. -/
def watchWithMinutes (minutes : Nat) : Watch :=
  ⟨.ofSeconds 4, 100, .ofSeconds (minutes * 60), "main"⟩

def unitJob : Job :=
  ⟨"main", "pip", "unit"⟩

theorem acknowledged_of_muteExpiry {args : List String} (herald : Herald) (ticket : Ticket) (job : Job)
    (hasked : muteExpiry settings now args = .ok expiry) : ∃ trace,
      Runs (herald.handleCommand settings now ticket ⟨"mute", args, some job⟩) trace
          { herald with mutes := herald.mutes.put job expiry } ∧
        Acknowledged ticket job trace := by
  have hverb : Verb.ofName? "mute" = some .mute := by decide
  refine ⟨_, runs_muted herald hverb rfl hasked, expiry.text ++ ".", ?_⟩
  rw [← String.append_assoc]
  exact List.mem_cons_self

/-- A mute that is as long as usual. -/
theorem slow_mute_muted :
    Watch.ofEnvironment slowEnvironment = .ok (watchWithMinutes 45) ∧ ∃ trace after,
      Runs (fresh.handleCommand ⟨"http://ci", (watchWithMinutes 45).muteSpan⟩ ⟨0⟩ 1
        ⟨"mute", [], some unitJob⟩) trace after ∧
      Acknowledged 1 unitJob trace ∧ (after.mutes.check unitJob ⟨0⟩).1 = true := by
  have hwatch : Watch.ofEnvironment slowEnvironment = .ok (watchWithMinutes 45) := by
    decide +kernel
  have hasked : muteExpiry ⟨"http://ci", (watchWithMinutes 45).muteSpan⟩ ⟨0⟩ [] =
      .ok ⟨2700 * 1000000000⟩ := by
    decide +kernel
  obtain ⟨trace, hruns, hacknowledged⟩ :=
    acknowledged_of_muteExpiry fresh 1 unitJob hasked
  obtain ⟨expiry, -, -, hmuted⟩ :=
    muted_when_acknowledged_iff hwatch (by decide) rfl hruns hacknowledged
  refine ⟨hwatch, trace, _, hruns, hacknowledged, hmuted.mpr ?_⟩
  rintro ⟨hzero⟩
  have hnumber : slowEnvironment.number? usualLength = .ok (some 45) := by decide +kernel
  rw [hnumber] at hzero
  cases hzero

/-- A mute of a ten-millionth of a millisecond is acknowledged, and the job is not muted. -/
theorem tiny_mute_not_muted :
    Watch.ofEnvironment [] = .ok (watchWithMinutes 30) ∧ ∃ trace after,
      Runs (fresh.handleCommand ⟨"http://ci", (watchWithMinutes 30).muteSpan⟩ ⟨0⟩ 1
        ⟨"mute", ["0.0000001ms"], some unitJob⟩) trace after ∧
      Acknowledged 1 unitJob trace ∧ after.mutes.get? unitJob = some ⟨0⟩ ∧
      (after.mutes.check unitJob ⟨0⟩).1 = false := by
  have hasked : muteExpiry ⟨"http://ci", (watchWithMinutes 30).muteSpan⟩ ⟨0⟩ ["0.0000001ms"] =
      .ok ⟨0⟩ := by
    decide +kernel
  obtain ⟨trace, hruns, hacknowledged⟩ :=
    acknowledged_of_muteExpiry fresh 1 unitJob hasked
  exact ⟨by decide +kernel, trace, _, hruns, hacknowledged, rfl, by decide⟩

end BuildHerald.Proofs.AcknowledgedMutes
