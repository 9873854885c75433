import BuildHerald.Proofs.SideBySide
import BuildHerald.Proofs.Waiting
import Mathlib.Data.Set.Lattice
import Mathlib.Order.CompletePartialOrder

/-!
Jobs that do not influence each other.

The inputs about one job, taken out of a run, are a run of their own, and it comes to the same for that
job. So two runs whose inputs about the job are alike come to the same for it too.
-/

namespace BuildHerald.Proofs.Separation

open BuildHerald.Herald
open BuildHerald.Time
open BuildHerald.Chat
open BuildHerald.Proofs.Conversation
open BuildHerald.Proofs.JobStatuses
open BuildHerald.Proofs.Announcements
open BuildHerald.Proofs.Footprints
open BuildHerald.Proofs.Replies
open BuildHerald.Proofs.Waiting
open BuildHerald.Proofs.SideBySide

variable {settings : Settings} {past : List Handled} {herald after : Herald} {handled : Handled}
  {job : Job}

/-! ### The inputs about one job -/

def about (job : Job) (past : List Handled) : List Handled :=
  past.filter fun handled => subject? handled.input = some job

/-- No input about the job has an id that an input about anything else has. -/
def Apart (job : Job) (past : List Handled) : Prop :=
  ∀ mine ∈ past, ∀ other ∈ past, subject? mine.input = some job →
    subject? other.input ≠ some job → List.Disjoint (idsIn mine) (idsIn other)

theorem about_concat_of_eq (hjob : subject? handled.input = some job) :
    about job (past ++ [handled]) = about job past ++ [handled] := by
  rw [about, List.filter_append, List.filter_singleton, decide_eq_true hjob]
  rfl

theorem about_concat_of_ne (hjob : subject? handled.input ≠ some job) :
    about job (past ++ [handled]) = about job past := by
  rw [about, List.filter_append, List.filter_singleton, decide_eq_false hjob]
  exact List.append_nil _

theorem mem_about_iff : handled ∈ about job past ↔
    handled ∈ past ∧ subject? handled.input = some job := by
  rw [about, List.mem_filter, decide_eq_true_eq]

theorem flatMap_about {α : Type} {heard : Handled → List α}
    (hsilent : ∀ handled ∈ past, subject? handled.input ≠ some job → heard handled = []) :
    (about job past).flatMap heard = past.flatMap heard := by
  induction past with
  | nil => rfl
  | cons handled past ih =>
      have hrest := ih fun other hmem => hsilent other (List.mem_cons_of_mem _ hmem)
      by_cases hjob : subject? handled.input = some job
      · have hcons : about job (handled :: past) = handled :: about job past :=
          List.filter_cons_of_pos (decide_eq_true hjob)
        rw [hcons, List.flatMap_cons, List.flatMap_cons, hrest]
      · have hcons : about job (handled :: past) = about job past :=
          List.filter_cons_of_neg (by simpa using hjob)
        rw [hcons, List.flatMap_cons, hsilent handled List.mem_cons_self hjob, hrest,
          List.nil_append]

/-! ### The run of one job -/

/-- The inputs about a job are a run of their own. -/
theorem exists_served_about {ids : Set Nat} (hserved : Served settings past herald)
    (hmine : ∀ handled ∈ past, subject? handled.input = some job → ∀ id ∈ idsIn handled, id ∈ ids)
    (hothers : ∀ handled ∈ past, subject? handled.input ≠ some job →
      ∀ id ∈ ids, id ∉ idsIn handled) :
    ∃ alone, Served settings (about job past) alone ∧ AgreeOn {job} ids herald alone := by
  induction hserved with
  | fresh => exact ⟨.fresh, .fresh, .refl _ _ _⟩
  | @next past herald after handled _ hruns ih =>
      obtain ⟨alone, halone, hagree⟩ := ih
        (fun other hmem => hmine other (List.mem_append_left _ hmem))
        (fun other hmem => hothers other (List.mem_append_left _ hmem))
      have hlast : handled ∈ past ++ [handled] := List.mem_append_right _ List.mem_cons_self
      by_cases hjob : subject? handled.input = some job
      · have hids := hmine handled hlast hjob
        have hjobs : ∀ other, subject? handled.input = some other → other ∈ ({job} : Set Job) :=
          fun other hother => Option.some.inj (hother.symm.trans hjob)
        -- The same answers do for the herald that has seen nothing else, so the trace is kept as it is.
        obtain ⟨next, hnext, hafter⟩ := exists_runs_of_lockstep (lockstep_handle hagree hjobs hids)
          hruns (fitsIn_self hruns hids)
        rw [about_concat_of_eq hjob]
        exact ⟨next, .next halone hnext, hafter⟩
      · rw [about_concat_of_ne hjob]
        refine ⟨alone, halone, ?_⟩
        refine .trans (.symm (agreeOn_of_runs hruns ?_ (hothers handled hlast hjob))) hagree
        rintro _ rfl
        exact hjob

/-! ### Who hears of the inputs about a job -/

def notificationsAbout (job : Job) (past : List Handled) : List Notification :=
  (past.flatMap fun handled => notificationsIn handled.trace).filter fun notification =>
    notification.job = job

theorem notificationsAbout_about (hserved : Served settings past herald) :
    notificationsAbout job (about job past) = notificationsAbout job past := by
  unfold notificationsAbout
  rw [List.filter_flatMap, List.filter_flatMap]
  refine flatMap_about ?_
  intro handled hmem hjob
  obtain ⟨before, after, hruns⟩ := exists_runs_of_mem hserved hmem
  exact notificationsIn_of_not_subject hruns hjob

/-- Whoever has given a command about the job hears nothing of inputs about anything else. -/
theorem messagesIn_of_other {mine other : Handled} {ticket : Ticket}
    (hserved : Served settings past herald) (htickets : (ticketsIn past).Nodup)
    (hapart : Apart job past) (hmine : mine ∈ past) (hissuer : issuer? mine = some ticket)
    (hjob : subject? mine.input = some job) (hmem : other ∈ past)
    (hother : subject? other.input ≠ some job) : messagesIn ticket other.trace = [] := by
  have hsame (handled : Handled) (hmem : handled ∈ past) (hissued : issuer? handled = some ticket) :
      handled = mine :=
    eq_of_issuer htickets hmem hmine hissued hissuer
  obtain ⟨earlier, later, heq⟩ := List.append_of_mem hmem
  have hserved' := heq ▸ hserved
  obtain ⟨before, hearlier, hgoes⟩ := exists_goes_of_served hserved'
  have hticketsBefore : (ticketsIn earlier).Nodup := by
    refine htickets.sublist (List.Sublist.filterMap _ ?_)
    rw [heq]
    exact List.sublist_append_left _ _
  have htracks := tracks_of_served hearlier hticketsBefore
  cases hgoes with
  | step hruns _ =>
      refine messagesIn_of_not_waiting hruns ?_ ?_
      · intro hissued
        rw [hsame other hmem hissued] at hother
        exact hother hjob
      · intro id hid hwaiting
        obtain ⟨origin, horigin, hissued, hids⟩ := htracks.origin id ticket hwaiting
        have hin : origin ∈ past := by
          rw [heq]
          exact List.mem_append_left _ horigin
        rw [hsame origin hin hissued] at hids
        exact hapart mine hmine other hmem hjob hother hids hid

theorem messages_about {mine : Handled} {ticket : Ticket} (hserved : Served settings past herald)
    (htickets : (ticketsIn past).Nodup) (hapart : Apart job past) (hmine : mine ∈ past)
    (hissuer : issuer? mine = some ticket) (hjob : subject? mine.input = some job) :
    messages ticket (about job past) = messages ticket past :=
  flatMap_about fun _ hmem hother =>
    messagesIn_of_other hserved htickets hapart hmine hissuer hjob hmem hother

theorem messages_of_unknown {ticket : Ticket} {command : Command}
    (hserved : Served settings past herald) (htickets : (ticketsIn past).Nodup)
    (hmem : (ticket, command) ∈ commandsIn past) (hverb : Verb.ofName? command.name = none) :
    messages ticket past = [.line ("Unknown command: " ++ command.name), .over] := by
  obtain ⟨⟨now, input, trace⟩, hmem, rfl⟩ := mem_commandsIn_iff.mp hmem
  obtain ⟨earlier, later, rfl⟩ := List.append_of_mem hmem
  obtain ⟨before, after, hbefore, hnew, hruns, hlater, hgoes⟩ :=
    exists_cut hserved htickets rfl
  have hhandled := commandHandled_of_handle hruns
  have hstarts := (told_at_once hhandled (.inl (by simp [hverb]))).1
  have hanswer : messagesIn ticket trace =
      [.line ("Unknown command: " ++ command.name), .over] := by
    change CommandHandled settings now before ticket command trace after at hhandled
    cases hhandled with
    | unknown => rw [messagesIn_answer, if_pos rfl]
    | untargeted hother => simp [hverb] at hother
    | rerun hother => simp [hverb] at hother
    | rerunFailed hother => simp [hverb] at hother
    | paused hother => simp [hverb] at hother
    | muteRefused hother => simp [hverb] at hother
    | muted hother => simp [hverb] at hother
  rw [messages, List.flatMap_append, List.flatMap_cons]
  change messages ticket earlier ++ (messagesIn ticket trace ++ messages ticket later) = _
  rw [hbefore.stranger ticket hnew, silent_of_step hbefore hnew hruns hlater hgoes hstarts,
    hanswer]
  rfl

/-! ### Two runs -/

def notification? : Errand → Option Notification
  | .notify notification => some notification
  | _ => none

theorem notificationsIn_eq_filterMap (trace : List Done) :
    notificationsIn trace = (trace.map Turn.question).filterMap notification? := by
  rw [notificationsIn, List.filterMap_map]
  congr 1
  funext ⟨errand, answer⟩
  cases errand <;> rfl

theorem messagesIn_eq_filterMap (ticket : Ticket) (trace : List Done) :
    messagesIn ticket trace = (trace.map Turn.question).filterMap (messageTo? ticket) := by
  rw [messagesIn, List.filterMap_map]
  rfl

theorem flatMap_eq_of_forall₂ {α : Type} {told : List Done → List α}
    {read : List Errand → List α} {first second : List Handled}
    (htold : ∀ trace, told trace = read (trace.map Turn.question))
    (hsame : List.Forall₂ (fun one other =>
      one.trace.map Turn.question = other.trace.map Turn.question) first second) :
    (first.flatMap fun handled => told handled.trace) =
      second.flatMap fun handled => told handled.trace := by
  induction hsame with
  | nil => rfl
  | cons hquestions _ ih =>
      rw [List.flatMap_cons, List.flatMap_cons, ih, htold, htold, hquestions]

/-- Two runs have come to the same for a job. -/
structure SameFor (job : Job) (first second : List Handled) (herald herald' : Herald) : Prop where
  notifications : notificationsAbout job first = notificationsAbout job second
  streak : herald.streaks.get? job = herald'.streaks.get? job
  mute : herald.mutes.get? job = herald'.mutes.get? job
  replies : ∀ ticket command, command.job = some job → (ticket, command) ∈ commandsIn first →
    (ticket, command) ∈ commandsIn second → messages ticket first = messages ticket second

theorem exists_alone (hserved : Served settings past herald) (hapart : Apart job past) :
    ∃ alone, Served settings (about job past) alone ∧ AgreeOn {job} ∅ herald alone := by
  let ids : Set Nat := {id | ∃ mine ∈ about job past, id ∈ idsIn mine}
  have hmine : ∀ mine ∈ past, subject? mine.input = some job → ∀ id ∈ idsIn mine, id ∈ ids :=
    fun mine hmem hjob id hid => ⟨mine, mem_about_iff.mpr ⟨hmem, hjob⟩, hid⟩
  have hothers : ∀ other ∈ past, subject? other.input ≠ some job →
      ∀ id ∈ ids, id ∉ idsIn other := by
    rintro other hmem hother id ⟨mine, hmine, hid⟩ hids
    obtain ⟨hmine, hjob⟩ := mem_about_iff.mp hmine
    exact hapart mine hmine other hmem hjob hother hid hids
  obtain ⟨alone, halone, hagree⟩ := exists_served_about hserved hmine hothers
  exact ⟨alone, halone, hagree.mono subset_rfl (Set.empty_subset _)⟩

theorem sameFor_of_alike {first second : List Handled} {herald herald' : Herald}
    (hserved : Served settings first herald) (hserved' : Served settings second herald')
    (htickets : (ticketsIn first).Nodup) (htickets' : (ticketsIn second).Nodup)
    (hapart : Apart job first) (hapart' : Apart job second)
    (halike : List.Forall₂ Alike (about job first) (about job second)) :
    SameFor job first second herald herald' := by
  obtain ⟨alone, halone, hagree⟩ := exists_alone hserved hapart
  obtain ⟨alone', halone', hagree'⟩ := exists_alone hserved' hapart'
  obtain ⟨hsame, hquestions⟩ := agreeOn_of_goes (goes_of_served halone) (goes_of_served halone')
    halike (.refl _ _ _)
  have hagreed : AgreeOn {job} ∅ herald herald' :=
    hagree.trans ((hsame.mono (Set.subset_univ _) (Set.empty_subset _)).trans hagree'.symm)
  refine ⟨?_, hagreed.streaks job rfl, hagreed.mutes job rfl, ?_⟩
  · rw [← notificationsAbout_about hserved, ← notificationsAbout_about hserved']
    unfold notificationsAbout
    rw [flatMap_eq_of_forall₂ notificationsIn_eq_filterMap hquestions]
  · intro ticket command hjob hmem hmem'
    cases hverb : Verb.ofName? command.name with
    | none =>
        rw [messages_of_unknown hserved htickets hmem hverb,
          messages_of_unknown hserved' htickets' hmem' hverb]
    | some verb =>
        obtain ⟨one, hone, hinput⟩ := mem_commandsIn_iff.mp hmem
        obtain ⟨other, hother, hinput'⟩ := mem_commandsIn_iff.mp hmem'
        have hsubject : subject? (.command ticket command) = some job := by
          rw [subject?, hverb]
          exact hjob
        rw [← messages_about hserved htickets hapart hone (by simp [issuer?, Handled.command?, hinput])
            (hinput ▸ hsubject),
          ← messages_about hserved' htickets' hapart' hother
            (by simp [issuer?, Handled.command?, hinput']) (hinput' ▸ hsubject)]
        exact flatMap_eq_of_forall₂ (messagesIn_eq_filterMap ticket) hquestions

/-! ### Two inputs in either order -/

def matter (handled : Handled) : Set Job :=
  {job | subject? handled.input = some job}

def marks (handled : Handled) : Set Nat :=
  {id | id ∈ idsIn handled}

/-- Two inputs are about different jobs and have different ids. -/
structure Unrelated (one other : Handled) : Prop where
  jobs : Disjoint (matter one) (matter other)
  ids : Disjoint (marks one) (marks other)

theorem agreeOn_compl
    (hruns : Runs (herald.handle settings handled.now handled.input) handled.trace after) :
    AgreeOn (matter handled)ᶜ (marks handled)ᶜ herald after :=
  agreeOn_of_runs hruns (fun _ hjob => hjob) fun _ hid => hid

theorem agreeOn_of_parts {jobs jobs' : Set Job} {ids ids' : Set Nat} {first second : Herald}
    (hone : AgreeOn jobs ids first second) (hother : AgreeOn jobs' ids' first second)
    (hneither : AgreeOn (jobs ∪ jobs')ᶜ (ids ∪ ids')ᶜ first second) :
    AgreeOn Set.univ Set.univ first second := by
  have hjobs (job : Job) : job ∈ jobs ∨ job ∈ jobs' ∨ job ∈ (jobs ∪ jobs')ᶜ := by
    rw [← or_assoc]
    exact Classical.em (job ∈ jobs ∪ jobs')
  constructor
  · intro job _
    obtain hjob | hjob | hjob := hjobs job
    · exact hone.streaks job hjob
    · exact hother.streaks job hjob
    · exact hneither.streaks job hjob
  · intro job _
    obtain hjob | hjob | hjob := hjobs job
    · exact hone.mutes job hjob
    · exact hother.mutes job hjob
    · exact hneither.mutes job hjob
  · intro id _
    obtain (hid | hid) | hid := Classical.em (id ∈ ids ∪ ids')
    · exact hone.awaited id hid
    · exact hother.awaited id hid
    · exact hneither.awaited id hid

section Swap

variable {one other one' other' : Handled} {middle last herald' middle' last' : Herald}

/-- What an input is about comes to the same, whether an unrelated input is handled after or before. -/
theorem agreeOn_of_overtaken (hunrelated : Unrelated one other)
    (hmatter : matter other' = matter other) (hmarks : marks other' = marks other)
    (hagree : AgreeOn Set.univ Set.univ herald herald')
    (hone : Runs (herald.handle settings one.now one.input) one.trace middle)
    (hother : Runs (middle.handle settings other.now other.input) other.trace last)
    (hother' : Runs (herald'.handle settings other'.now other'.input) other'.trace middle')
    (hone' : Runs (middle'.handle settings one'.now one'.input) one'.trace last')
    (halike : Alike one one') : AgreeOn (matter one) (marks one) last last' := by
  have hjobs : matter one ⊆ (matter other)ᶜ := Set.subset_compl_iff_disjoint_right.mpr hunrelated.jobs
  have hids : marks one ⊆ (marks other)ᶜ := Set.subset_compl_iff_disjoint_right.mpr hunrelated.ids
  have hbefore := agreeOn_compl hother'
  rw [hmatter, hmarks] at hbefore
  have hstart : AgreeOn (matter one) (marks one) herald middle' :=
    (hagree.mono (Set.subset_univ _) (Set.subset_univ _)).trans (hbefore.mono hjobs hids)
  have hend := (agreeOn_of_alike hstart hone hone' halike (fun _ hjob => hjob) fun _ hid => hid).1
  exact ((agreeOn_compl hother).mono hjobs hids).symm.trans hend

theorem agreeOn_of_swapped (hunrelated : Unrelated one other)
    (hagree : AgreeOn Set.univ Set.univ herald herald')
    (hone : Runs (herald.handle settings one.now one.input) one.trace middle)
    (hother : Runs (middle.handle settings other.now other.input) other.trace last)
    (hother' : Runs (herald'.handle settings other'.now other'.input) other'.trace middle')
    (hone' : Runs (middle'.handle settings one'.now one'.input) one'.trace last')
    (halike : Alike one one') (halike' : Alike other other') :
    AgreeOn Set.univ Set.univ last last' := by
  have hmatter : matter one' = matter one := by rw [matter, ← halike.input, matter]
  have hmatter' : matter other' = matter other := by rw [matter, ← halike'.input, matter]
  have hmarks : marks one' = marks one := by
    rw [marks, ← idsIn_eq_of_alike hone hone' halike, marks]
  have hmarks' : marks other' = marks other := by
    rw [marks, ← idsIn_eq_of_alike hother hother' halike', marks]
  have hfirst : AgreeOn (matter one) (marks one) last last' :=
    agreeOn_of_overtaken hunrelated hmatter' hmarks' hagree hone hother hother' hone' halike
  have hsecond : AgreeOn (matter other) (marks other) last last' := by
    rw [← hmatter', ← hmarks']
    refine .symm (agreeOn_of_overtaken ?_ hmatter.symm hmarks.symm hagree.symm hother' hone' hone
      hother halike'.symm)
    constructor
    · rw [hmatter, hmatter']
      exact hunrelated.jobs.symm
    · rw [hmarks, hmarks']
      exact hunrelated.ids.symm
  -- What neither input is about is as it was before them, in either order.
  refine agreeOn_of_parts hfirst hsecond ?_
  have hjobs : (matter one ∪ matter other)ᶜ ⊆ (matter one)ᶜ :=
    Set.compl_subset_compl.mpr Set.subset_union_left
  have hjobs' : (matter one ∪ matter other)ᶜ ⊆ (matter other)ᶜ :=
    Set.compl_subset_compl.mpr Set.subset_union_right
  have hids : (marks one ∪ marks other)ᶜ ⊆ (marks one)ᶜ :=
    Set.compl_subset_compl.mpr Set.subset_union_left
  have hids' : (marks one ∪ marks other)ᶜ ⊆ (marks other)ᶜ :=
    Set.compl_subset_compl.mpr Set.subset_union_right
  have hleft := ((agreeOn_compl hone).mono hjobs hids).trans
    ((agreeOn_compl hother).mono hjobs' hids')
  have houtside := agreeOn_compl hother'
  have hoverall := agreeOn_compl hone'
  rw [hmatter', hmarks'] at houtside
  rw [hmatter, hmarks] at hoverall
  have hright := (houtside.mono hjobs' hids').trans (hoverall.mono hjobs hids)
  exact hleft.symm.trans ((hagree.mono (Set.subset_univ _) (Set.subset_univ _)).trans hright)

end Swap

theorem agreeOn_of_goes_swapped {earlier earlier' later later' : List Handled}
    {one other one' other' : Handled} {herald' : Herald}
    (hserved : Served settings (earlier ++ one :: other :: later) herald)
    (hserved' : Served settings (earlier' ++ other' :: one' :: later') herald')
    (hearlier : List.Forall₂ Alike earlier earlier') (hlater : List.Forall₂ Alike later later')
    (halike : Alike one one') (halike' : Alike other other') (hunrelated : Unrelated one other) :
    AgreeOn Set.univ Set.univ herald herald' := by
  obtain ⟨before, hbefore, hgoes⟩ := exists_goes_of_served hserved
  obtain ⟨before', hbefore', hgoes'⟩ := exists_goes_of_served hserved'
  have hagree := (agreeOn_of_goes (goes_of_served hbefore) (goes_of_served hbefore') hearlier
    (.refl _ _ _)).1
  cases hgoes with
  | step hone hgoes =>
      cases hgoes with
      | step hother hgoes =>
          cases hgoes' with
          | step hother' hgoes' =>
              cases hgoes' with
              | step hone' hgoes' =>
                  have hswapped := agreeOn_of_swapped hunrelated hagree hone hother hother' hone'
                    halike halike'
                  exact (agreeOn_of_goes hgoes hgoes' hlater hswapped).1

/-- Whatever is done about other jobs makes no difference to a job, and neither does the order of two
inputs about different ones. -/
theorem jobs_apart (settings : Settings) :
    (∀ job first second herald herald', Served settings first herald →
      Served settings second herald' → ((commandsIn first).map Prod.fst).Nodup →
        ((commandsIn second).map Prod.fst).Nodup → Apart job first → Apart job second →
          List.Forall₂ Alike (about job first) (about job second) →
            SameFor job first second herald herald') ∧
    ∀ earlier earlier' one one' other other' later later' herald herald',
      Served settings (earlier ++ one :: other :: later) herald →
        Served settings (earlier' ++ other' :: one' :: later') herald' →
          List.Forall₂ Alike earlier earlier' → List.Forall₂ Alike later later' →
            Alike one one' → Alike other other' → Unrelated one other →
              AgreeOn Set.univ Set.univ herald herald' := by
  constructor
  · intro job first second herald herald' hserved hserved' htickets htickets'
    rw [← ticketsIn_eq_map] at htickets htickets'
    exact sameFor_of_alike hserved hserved' htickets htickets'
  · intro earlier earlier' one one' other other' later later' herald herald'
    exact agreeOn_of_goes_swapped

def lintPassed : Handled where
  now := ⟨0⟩
  input := .build { failedBuild 3 "1" with jobName := some "lint", status := .succeeded }
  trace := []

def unitFailed : Handled :=
  ⟨⟨0⟩, .build (failedBuild 7 "6"), [said 1 "Job failed.", closed 1]⟩

theorem exists_served_lint_first :
    ∃ herald, Served webSettings (sharedBuild.take 2 ++ [lintPassed, unitFailed]) herald := by
  have hlint : Served webSettings (sharedBuild.take 2 ++ [lintPassed])
      { heraldAfterReruns with
        streaks := Streaks.record .empty
          { failedBuild 3 "1" with jobName := some "lint", status := .succeeded } } :=
    .next served_reruns (runs_done_iff.mpr ⟨rfl, rfl⟩)
  exact ⟨_, .next hlint (runs_reported _ rfl)⟩

theorem exists_served_lint_last :
    ∃ herald, Served webSettings (sharedBuild.take 2 ++ [unitFailed, lintPassed]) herald := by
  have hlint : Runs (heraldAfterSharedBuild.handle webSettings ⟨0⟩ lintPassed.input) []
      { heraldAfterSharedBuild with
        streaks := heraldAfterSharedBuild.streaks.record
          { failedBuild 3 "1" with jobName := some "lint", status := .succeeded } } :=
    runs_done_iff.mpr ⟨rfl, rfl⟩
  exact ⟨_, .next served_sharedBuild hlint⟩

theorem alike_self_of_mem (hmem : handled ∈ sharedBuild) : Alike handled handled := by
  refine alike_self ?_
  simp only [sharedBuild, List.mem_cons, List.not_mem_nil, or_false] at hmem
  obtain rfl | rfl | rfl := hmem
  · simp [said, begun]
  · simp [said, begun, closed]
  · simp [said, closed]

theorem apart_lint_first :
    Apart unitJob (sharedBuild.take 2 ++ [lintPassed, unitFailed]) := by
  have hunit : ∀ mine ∈ sharedBuild.take 2 ++ [lintPassed, unitFailed],
      subject? mine.input = some unitJob → idsIn mine = [7] := by decide
  have hlint : ∀ other ∈ sharedBuild.take 2 ++ [lintPassed, unitFailed],
      subject? other.input ≠ some unitJob → idsIn other = [3] := by decide
  intro mine hmine other hother hjob hne
  rw [hunit mine hmine hjob, hlint other hother hne]
  exact List.disjoint_singleton.mpr (by decide)

theorem unrelated_lint_unit : Unrelated lintPassed unitFailed := by
  constructor
  · rw [Set.disjoint_left]
    rintro job hlint hunit
    obtain rfl : (⟨"main", "web", "lint"⟩ : Job) = job := Option.some.inj hlint
    exact absurd (Option.some.inj hunit) (by decide)
  · rw [Set.disjoint_left]
    intro id hlint hunit
    obtain rfl : id = 3 := List.mem_singleton.mp hlint
    exact absurd (List.mem_singleton.mp hunit) (by decide)

theorem lint_unrelated_to_unit :
    (∃ herald, Served webSettings (sharedBuild.take 2 ++ [lintPassed, unitFailed]) herald ∧
      SameFor unitJob sharedBuild (sharedBuild.take 2 ++ [lintPassed, unitFailed])
        heraldAfterSharedBuild herald) ∧
    ∃ herald herald',
      Served webSettings (sharedBuild.take 2 ++ [lintPassed, unitFailed]) herald ∧
      Served webSettings (sharedBuild.take 2 ++ [unitFailed, lintPassed]) herald' ∧
      AgreeOn Set.univ Set.univ herald herald' := by
  obtain ⟨herald, hfirst⟩ := exists_served_lint_first
  obtain ⟨herald', hlast⟩ := exists_served_lint_last
  have hunit : ∀ handled ∈ sharedBuild, subject? handled.input = some unitJob := by decide
  have hapart : Apart unitJob sharedBuild := fun _ _ other hmem _ hother =>
    absurd (hunit other hmem) hother
  constructor
  · have halike : List.Forall₂ Alike (about unitJob sharedBuild)
        (about unitJob (sharedBuild.take 2 ++ [lintPassed, unitFailed])) :=
      List.forall₂_same.mpr fun _ hmem => alike_self_of_mem hmem
    exact ⟨herald, hfirst, (jobs_apart webSettings).1 unitJob _ _ _ _ served_sharedBuild hfirst
      (by decide) (by decide) hapart apart_lint_first halike⟩
  · have hearlier : List.Forall₂ Alike (sharedBuild.take 2) (sharedBuild.take 2) :=
      List.forall₂_same.mpr fun _ hmem => alike_self_of_mem (List.mem_of_mem_take hmem)
    exact ⟨herald, herald', hfirst, hlast, (jobs_apart webSettings).2 _ _ lintPassed _ unitFailed _
      [] _ _ _ hfirst hlast hearlier .nil (alike_self .nil)
      (alike_self_of_mem (by simp [sharedBuild, unitFailed])) unrelated_lint_unit⟩

end BuildHerald.Proofs.Separation
