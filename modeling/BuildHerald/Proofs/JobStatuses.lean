import BuildHerald.Proofs.Conversation
import Mathlib.Data.List.Dedup
import Mathlib.Data.List.DropRight
import Mathlib.Data.List.Induction

namespace BuildHerald.Proofs.JobStatuses

open BuildHerald.Herald
open BuildHerald.Time
open BuildHerald.Chat
open BuildHerald.Proofs.Conversation

/-! ### Tables -/

section Table

variable {κ ν : Type} [DecidableEq κ]

theorem get?_put (table : Table κ ν) (key other : κ) (value : ν) :
    (table.put key value).get? other = if key = other then some value else table.get? other := by
  by_cases hother : key = other
  · rw [if_pos hother, ← hother, Table.get?_put_self]
  · rw [if_neg hother, Table.get?_put_of_ne _ _ (Ne.symm hother)]

theorem get?_erase (table : Table κ ν) (key other : κ) :
    (table.erase key).get? other = if key = other then none else table.get? other := by
  by_cases hother : key = other
  · rw [if_pos hother, ← hother, Table.get?_erase_self]
  · rw [if_neg hother, Table.get?_erase_of_ne _ (Ne.symm hother)]

theorem get?_isSome_iff (table : Table κ ν) (key : κ) :
    (table.get? key).isSome ↔ key ∈ table.entries.map Prod.fst := by
  rw [Table.get?, Option.isSome_map, List.find?_isSome, List.mem_map]
  simp only [decide_eq_true_eq]

theorem size_eq_of_get?_isSome_iff {table : Table κ ν} {keys : List κ}
    (hkeys : ∀ key, (table.get? key).isSome ↔ key ∈ keys) :
    table.size = keys.dedup.length := by
  have hperm : (table.entries.map Prod.fst).Perm keys.dedup := by
    rw [List.perm_ext_iff_of_nodup table.nodup keys.nodup_dedup]
    intro key
    rw [← get?_isSome_iff, hkeys, List.mem_dedup]
  rw [Table.size, ← hperm.length_eq, List.length_map]

end Table

/-! ### The statuses of one job -/

/-- How many builds have failed in a row at the end. -/
def failureRun (statuses : List Status) : Nat :=
  (statuses.rtakeWhile fun status => status = .failed).length

theorem failureRun_nil : failureRun [] = 0 :=
  rfl

theorem failureRun_concat (statuses : List Status) (status : Status) :
    failureRun (statuses ++ [status]) =
      if status = .failed then failureRun statuses + 1 else 0 := by
  unfold failureRun
  by_cases hfailed : status = .failed
  · rw [List.rtakeWhile_concat, if_pos (by simpa using hfailed), if_pos hfailed,
      List.length_append, List.length_singleton]
  · rw [List.rtakeWhile_concat, if_neg (by simpa using hfailed), if_neg hfailed]
    rfl

theorem exists_eq_append_failures (statuses : List Status) :
    ∃ earlier, statuses = earlier ++ List.replicate (failureRun statuses) .failed ∧
      earlier.getLast? ≠ some .failed := by
  induction statuses using List.reverseRecOn with
  | nil => exact ⟨[], rfl, by simp⟩
  | append_singleton statuses status ih =>
      rw [failureRun_concat]
      by_cases hfailed : status = .failed
      · obtain ⟨earlier, heq, hlast⟩ := ih
        refine ⟨earlier, ?_, hlast⟩
        rw [if_pos hfailed, List.replicate_succ', ← List.append_assoc, ← heq, hfailed]
      · refine ⟨statuses ++ [status], ?_, ?_⟩
        · rw [if_neg hfailed, List.replicate_zero, List.append_nil]
        · rw [List.getLast?_concat]
          exact fun hlast => hfailed (Option.some.inj hlast)

theorem failureRun_pos_iff (statuses : List Status) :
    0 < failureRun statuses ↔ statuses.getLast? = some .failed := by
  induction statuses using List.reverseRecOn with
  | nil => simp [failureRun_nil]
  | append_singleton statuses status =>
      rw [failureRun_concat, List.getLast?_concat, Option.some.injEq]
      by_cases hfailed : status = .failed
      · simp [hfailed]
      · simp [hfailed]

/-- The streak of a job whose builds had these statuses. -/
def streakOf (statuses : List Status) : Streak :=
  ⟨statuses.getLast?, failureRun statuses⟩

theorem last_streakOf (statuses : List Status) : (streakOf statuses).last = statuses.getLast? :=
  rfl

theorem streakOf_concat (statuses : List Status) (status : Status) :
    streakOf (statuses ++ [status]) = (streakOf statuses).record status := by
  rw [streakOf, List.getLast?_concat, failureRun_concat]
  rfl

theorem streakOf_eq_foldl (statuses : List Status) :
    streakOf statuses = statuses.foldl Streak.record Streak.none := by
  induction statuses using List.reverseRecOn with
  | nil => rfl
  | append_singleton statuses status ih =>
      rw [streakOf_concat, ih, List.foldl_append, List.foldl_cons, List.foldl_nil]

/-! ### The statuses of all jobs -/

/-- The statuses of the builds of a job. -/
def statusesOf (job : Job) (builds : List Build) : List Status :=
  (builds.filter fun build => build.job? = some job).map Build.status

theorem statusesOf_concat (job : Job) (builds : List Build) (build : Build) :
    statusesOf job (builds ++ [build]) =
      if build.job? = some job then statusesOf job builds ++ [build.status]
      else statusesOf job builds := by
  unfold statusesOf
  by_cases hjob : build.job? = some job
  · simp [List.filter_append, hjob]
  · simp [List.filter_append, hjob]

theorem get_record (streaks : Streaks) (build : Build) (job : Job) :
    (streaks.record build).get job =
      if build.job? = some job then (streaks.get job).record build.status
      else streaks.get job := by
  unfold Streaks.record
  cases hjob : build.job? with
  | none => simp
  | some other =>
      simp only [Option.some.injEq]
      by_cases hother : other = job
      · rw [if_pos hother, hother, Streaks.get, get?_put, if_pos rfl]
        rfl
      · rw [if_neg hother, Streaks.get, get?_put, if_neg hother]
        rfl

theorem get?_isSome_record (streaks : Streaks) (build : Build) (job : Job) :
    ((streaks.record build).get? job).isSome ↔
      build.job? = some job ∨ (streaks.get? job).isSome := by
  unfold Streaks.record
  cases hjob : build.job? with
  | none => simp
  | some other =>
      rw [get?_put]
      by_cases hother : other = job
      · simp [hother]
      · simp [hother]

/-- What is remembered once these builds have been taken in. -/
def streaksOf (builds : List Build) : Streaks :=
  builds.foldl Streaks.record .empty

theorem streaksOf_concat (builds : List Build) (build : Build) :
    streaksOf (builds ++ [build]) = (streaksOf builds).record build := by
  rw [streaksOf, List.foldl_append]
  rfl

theorem get_streaksOf (builds : List Build) (job : Job) :
    (streaksOf builds).get job = streakOf (statusesOf job builds) := by
  induction builds using List.reverseRecOn with
  | nil => rfl
  | append_singleton builds build ih =>
      rw [streaksOf_concat, get_record, statusesOf_concat, ih]
      by_cases hjob : build.job? = some job
      · rw [if_pos hjob, if_pos hjob, streakOf_concat]
      · rw [if_neg hjob, if_neg hjob]

theorem get?_isSome_streaksOf (builds : List Build) (job : Job) :
    ((streaksOf builds).get? job).isSome ↔ job ∈ builds.filterMap Build.job? := by
  induction builds using List.reverseRecOn with
  | nil => simp [streaksOf]
  | append_singleton builds build ih =>
      rw [streaksOf_concat, get?_isSome_record, ih, List.filterMap_append, List.mem_append, or_comm]
      simp

theorem size_streaksOf (builds : List Build) :
    (streaksOf builds).size = (builds.filterMap Build.job?).dedup.length :=
  size_eq_of_get?_isSome_iff (get?_isSome_streaksOf builds)

/-- Of each job the run of these builds is remembered, and nothing else. -/
structure Remembers (streaks : Streaks) (builds : List Build) : Prop where
  foldl : ∀ job, streaks.get job = (statusesOf job builds).foldl Streak.record Streak.none
  last : ∀ job, (streaks.get job).last = (statusesOf job builds).getLast?
  failures : ∀ job, ∃ earlier,
    statusesOf job builds = earlier ++ List.replicate (streaks.get job).failures .failed ∧
      earlier.getLast? ≠ some .failed
  failing : ∀ job, (streaks.get job).failures ≠ 0 → (streaks.get job).last = some .failed
  entry : ∀ job, (streaks.get? job).isSome ↔ ∃ build ∈ builds, build.job? = some job
  size : streaks.size = (builds.filterMap Build.job?).dedup.length

theorem remembers_streaksOf (builds : List Build) : Remembers (streaksOf builds) builds where
  foldl job := by rw [get_streaksOf, streakOf_eq_foldl]
  last job := by rw [get_streaksOf, last_streakOf]
  failures job := by
    rw [get_streaksOf]
    exact exists_eq_append_failures _
  failing job hfailures := by
    rw [get_streaksOf] at hfailures ⊢
    exact (failureRun_pos_iff _).mp (Nat.pos_of_ne_zero hfailures)
  entry job := by rw [get?_isSome_streaksOf, List.mem_filterMap]
  size := size_streaksOf builds

/-! ### What a herald remembers -/

variable {settings : Settings} {now : Instant} {herald after : Herald} {trace : List Done}

theorem streaks_of_buildHandled {build : Build}
    (hhandled : BuildHandled settings now herald build trace after) :
    after.streaks = herald.streaks.record build := by
  cases hhandled with
  | reported => rfl
  | passedOver _ hjob => rw [Streaks.record, hjob]
  | muted => rfl
  | quiet => rfl
  | announced => rfl

theorem streaks_of_commandHandled {ticket : Ticket} {command : Command}
    (hhandled : CommandHandled settings now herald ticket command trace after) :
    after.streaks = herald.streaks := by
  cases hhandled with
  | unknown => rfl
  | untargeted => rfl
  | rerun => rfl
  | rerunFailed => rfl
  | paused => rfl
  | muteRefused => rfl
  | muted => rfl

/-- Whatever else happens, the streaks are those of the builds handled. -/
theorem streaks_of_served {past : List Handled} (hserved : Served settings past herald) :
    herald.streaks = streaksOf (buildsIn past) := by
  induction hserved with
  | fresh => rfl
  | @next past herald after handled hserved hruns ih =>
      obtain ⟨now, input, trace⟩ := handled
      rw [buildsIn, List.filterMap_append]
      cases input with
      | build build =>
          rw [streaks_of_buildHandled (buildHandled_of_handle hruns), ih]
          exact (streaksOf_concat _ _).symm
      | command ticket command =>
          rw [streaks_of_commandHandled (commandHandled_of_handle hruns), ih]
          exact congrArg streaksOf (List.append_nil _).symm

end BuildHerald.Proofs.JobStatuses
