import BuildHerald.Proofs.Announcements

/-!
What one input changes, table by table.

An input is about the job of a build or of a command, and about ids of builds: that of a finished build,
or of one that it has started. All entries under other jobs and other ids stay as they are.
-/

namespace BuildHerald.Proofs.Footprints

open BuildHerald.Herald
open BuildHerald.Time
open BuildHerald.Chat
open BuildHerald.Proofs.Conversation
open BuildHerald.Proofs.JobStatuses
open BuildHerald.Proofs.Announcements

/-! ### What an input is about -/

/-- The job that an input is about. A command that cannot be obeyed is about none. -/
def subject? : Input → Option Job
  | .build build => build.job?
  | .command _ command => (Verb.ofName? command.name).bind fun _ => command.job

def idsIn (handled : Handled) : List Nat :=
  match handled.input with
  | .build build => [build.id]
  | .command _ _ => startsIn handled.trace

/-- Who waits for the builds of these ids afterwards. -/
def issuer? (handled : Handled) : Option Ticket :=
  handled.command?.map Prod.fst

def ticketsIn (past : List Handled) : List Ticket :=
  past.filterMap issuer?

theorem ticketsIn_eq_map (past : List Handled) :
    ticketsIn past = (commandsIn past).map Prod.fst := by
  rw [commandsIn, List.map_filterMap]
  rfl

theorem mem_ticketsIn_iff {past : List Handled} {ticket : Ticket} :
    ticket ∈ ticketsIn past ↔ ∃ handled ∈ past, issuer? handled = some ticket :=
  List.mem_filterMap

theorem mem_commandsIn_iff {past : List Handled} {ticket : Ticket} {command : Command} :
    (ticket, command) ∈ commandsIn past ↔
      ∃ handled ∈ past, handled.input = .command ticket command := by
  rw [commandsIn, List.mem_filterMap]
  constructor
  · rintro ⟨⟨now, input, trace⟩, hmem, hcommand⟩
    cases input with
    | build => exact absurd hcommand (Option.some_ne_none _).symm
    | command =>
        obtain ⟨rfl, rfl⟩ := Prod.mk.inj (Option.some.inj hcommand)
        exact ⟨_, hmem, rfl⟩
  · rintro ⟨⟨now, input, trace⟩, hmem, rfl⟩
    exact ⟨_, hmem, rfl⟩

theorem eq_of_issuer {past : List Handled} {first second : Handled} {ticket : Ticket}
    (htickets : (ticketsIn past).Nodup) (hfirst : first ∈ past) (hsecond : second ∈ past)
    (hissuer : issuer? first = some ticket) (hissuer' : issuer? second = some ticket) :
    first = second := by
  induction past with
  | nil => exact absurd hfirst List.not_mem_nil
  | cons handled past ih =>
      have hrest : (ticketsIn past).Nodup :=
        htickets.sublist ((List.sublist_cons_self handled past).filterMap _)
      have hfresh (other : Handled) (hmem : other ∈ past) (hsame : issuer? other = some ticket) :
          issuer? handled ≠ some ticket := by
        intro hhandled
        rw [ticketsIn, List.filterMap_cons_some hhandled] at htickets
        exact (List.nodup_cons.mp htickets).1 (mem_ticketsIn_iff.mpr ⟨other, hmem, hsame⟩)
      rw [List.mem_cons] at hfirst hsecond
      obtain rfl | hfirst := hfirst
      · obtain rfl | hsecond := hsecond
        · rfl
        · exact absurd hissuer (hfresh second hsecond hissuer')
      · obtain rfl | hsecond := hsecond
        · exact absurd hissuer' (hfresh first hfirst hissuer)
        · exact ih hrest hfirst hsecond

theorem startsIn_closed (tickets : List Ticket) : startsIn (tickets.map closed) = [] := by
  induction tickets with
  | nil => rfl
  | cons ticket tickets ih => exact ih

theorem startsIn_rerun (ticket : Ticket) (line : String) (job : Job) (id : Nat)
    (others : List Ticket) :
    startsIn ([said ticket line, begun job (.ok id)] ++ others.map closed) = [id] := by
  change id :: startsIn (others.map closed) = [id]
  rw [startsIn_closed]

variable {settings : Settings} {herald after : Herald} {handled : Handled}

theorem startsIn_of_buildHandled {now : Instant} {build : Build} {trace : List Done}
    (hhandled : BuildHandled settings now herald build trace after) : startsIn trace = [] := by
  cases hhandled with
  | reported => rfl
  | passedOver => rfl
  | muted => rfl
  | quiet => rfl
  | @announced _ change _ _ _ _ _ hannounces =>
      obtain ⟨transcript, answer, rfl⟩ := hannounces
      cases change.showsTranscript with
      | true => rfl
      | false => rfl

/-! ### Waiting issuers -/

theorem get?_awaited_of_commandHandled {now : Instant} {ticket : Ticket} {command : Command}
    {trace : List Done} (hhandled : CommandHandled settings now herald ticket command trace after)
    (id : Nat) :
    after.awaited.get? id =
      if id ∈ startsIn trace then some ticket else herald.awaited.get? id := by
  cases hhandled with
  | unknown => rfl
  | untargeted => rfl
  | @rerun job started =>
      rw [startsIn_rerun, get?_put]
      simp only [List.mem_singleton, eq_comm]
  | rerunFailed => rfl
  | paused => rfl
  | muteRefused => rfl
  | muted => rfl

theorem get?_awaited_of_runs
    (hruns : Runs (herald.handle settings handled.now handled.input) handled.trace after)
    (id : Nat) :
    after.awaited.get? id =
      if id ∈ idsIn handled then issuer? handled else herald.awaited.get? id := by
  obtain ⟨now, input, trace⟩ := handled
  cases input with
  | build build =>
      rw [get?_awaited_of_buildHandled (buildHandled_of_handle hruns)]
      simp only [idsIn, List.mem_singleton, eq_comm]
      rfl
  | command ticket command =>
      rw [get?_awaited_of_commandHandled (commandHandled_of_handle hruns)]
      rfl

/-! ### Jobs that an input is not about -/

theorem get?_record_of_ne {build : Build} {job : Job} (streaks : Streaks)
    (hjob : build.job? ≠ some job) : (streaks.record build).get? job = streaks.get? job := by
  unfold Streaks.record
  cases hother : build.job? with
  | none => rfl
  | some other =>
      have hne : other ≠ job := by
        rintro rfl
        exact hjob hother
      simp only [get?_put, if_neg hne]

theorem get?_streaks_of_runs {job : Job}
    (hruns : Runs (herald.handle settings handled.now handled.input) handled.trace after)
    (hjob : subject? handled.input ≠ some job) :
    after.streaks.get? job = herald.streaks.get? job := by
  obtain ⟨now, input, trace⟩ := handled
  cases input with
  | build build =>
      rw [streaks_of_buildHandled (buildHandled_of_handle hruns), get?_record_of_ne _ hjob]
  | command ticket command =>
      rw [streaks_of_commandHandled (commandHandled_of_handle hruns)]

theorem get?_mutes_of_runs {job : Job}
    (hruns : Runs (herald.handle settings handled.now handled.input) handled.trace after)
    (hjob : subject? handled.input ≠ some job) :
    after.mutes.get? job = herald.mutes.get? job := by
  obtain ⟨now, input, trace⟩ := handled
  cases input with
  | build build =>
      rw [get?_mutes_of_buildHandled (buildHandled_of_handle hruns), if_neg]
      exact fun hsame => hjob hsame.2
  | command ticket command =>
      cases commandHandled_of_handle hruns with
      | unknown => rfl
      | untargeted => rfl
      | rerun => rfl
      | rerunFailed => rfl
      | paused => rfl
      | muteRefused => rfl
      | @muted other expiry hverb hother =>
          have hne : other ≠ job := by
            rintro rfl
            exact hjob (by simp [subject?, hverb, hother])
          rw [get?_put, if_neg hne]

theorem job_of_mem_notificationsIn {notification : Notification}
    (hruns : Runs (herald.handle settings handled.now handled.input) handled.trace after)
    (hmem : notification ∈ notificationsIn handled.trace) :
    subject? handled.input = some notification.job := by
  obtain ⟨now, input, trace⟩ := handled
  cases input with
  | build build =>
      cases buildHandled_of_handle hruns with
      | reported => exact absurd hmem List.not_mem_nil
      | passedOver => exact absurd hmem List.not_mem_nil
      | muted => exact absurd hmem List.not_mem_nil
      | quiet => exact absurd hmem List.not_mem_nil
      | announced _ hjob _ _ hannounces =>
          obtain ⟨transcript, hnotified, -⟩ := notificationsIn_announces hannounces
          change notification ∈ notificationsIn trace at hmem
          rw [hnotified, List.mem_singleton] at hmem
          rw [hmem]
          exact hjob
  | command ticket command =>
      have hsilent := notificationsIn_of_commandHandled (commandHandled_of_handle hruns)
      change notification ∈ notificationsIn trace at hmem
      rw [hsilent] at hmem
      exact absurd hmem List.not_mem_nil

theorem notificationsIn_of_not_subject {job : Job}
    (hruns : Runs (herald.handle settings handled.now handled.input) handled.trace after)
    (hjob : subject? handled.input ≠ some job) :
    (notificationsIn handled.trace).filter (fun notification => notification.job = job) = [] := by
  rw [List.filter_eq_nil_iff]
  intro notification hmem hsame
  rw [decide_eq_true_eq] at hsame
  exact hjob (hsame ▸ job_of_mem_notificationsIn hruns hmem)

/-! ### Runs from any herald on -/

/-- The inputs can be handled one after the other, and bring the one herald to the other. -/
inductive Goes (settings : Settings) : Herald → List Handled → Herald → Prop
  | stay (herald : Herald) : Goes settings herald [] herald
  | step {herald next last : Herald} {handled : Handled} {later : List Handled} :
      Runs (herald.handle settings handled.now handled.input) handled.trace next →
        Goes settings next later last → Goes settings herald (handled :: later) last

/-- What is under an id stays as it is until there is an input of that id. -/
theorem get?_awaited_of_goes {last : Herald} {later : List Handled} {id : Nat}
    (hgoes : Goes settings herald later last) (hcalm : ∀ handled ∈ later, id ∉ idsIn handled) :
    last.awaited.get? id = herald.awaited.get? id := by
  induction hgoes with
  | stay => rfl
  | step hruns _ ih =>
      rw [ih fun handled hmem => hcalm handled (List.mem_cons_of_mem _ hmem),
        get?_awaited_of_runs hruns, if_neg (hcalm _ List.mem_cons_self)]

theorem goes_concat {last : Herald} {later : List Handled} (hgoes : Goes settings herald later last)
    (hruns : Runs (last.handle settings handled.now handled.input) handled.trace after) :
    Goes settings herald (later ++ [handled]) after := by
  induction hgoes with
  | stay => exact .step hruns (.stay _)
  | step hfirst _ ih => exact .step hfirst (ih hruns)

theorem exists_goes_of_append {last : Herald} {earlier later : List Handled}
    (hgoes : Goes settings herald (earlier ++ later) last) :
    ∃ next, Goes settings herald earlier next ∧ Goes settings next later last := by
  induction earlier generalizing herald with
  | nil => exact ⟨herald, .stay herald, hgoes⟩
  | cons handled earlier ih =>
      cases hgoes with
      | step hruns hrest =>
          obtain ⟨next, hearlier, hlater⟩ := ih hrest
          exact ⟨next, .step hruns hearlier, hlater⟩

theorem exists_served_of_concat {past : List Handled}
    (hserved : Served settings (past ++ [handled]) after) :
    ∃ herald, Served settings past herald ∧
      Runs (herald.handle settings handled.now handled.input) handled.trace after := by
  generalize hall : past ++ [handled] = all at hserved
  cases hserved with
  | fresh => exact absurd hall (List.concat_ne_nil _ _)
  | next hbefore hruns =>
      obtain ⟨rfl, hlast⟩ := List.append_inj' hall rfl
      obtain rfl := List.singleton_inj.mp hlast
      exact ⟨_, hbefore, hruns⟩

/-- A run can be cut in two at any place. -/
theorem exists_goes_of_served {earlier later : List Handled}
    (hserved : Served settings (earlier ++ later) after) :
    ∃ herald, Served settings earlier herald ∧ Goes settings herald later after := by
  induction later using List.reverseRecOn generalizing after with
  | nil =>
      rw [List.append_nil] at hserved
      exact ⟨after, hserved, .stay after⟩
  | append_singleton later handled ih =>
      rw [← List.append_assoc] at hserved
      obtain ⟨last, hbefore, hruns⟩ := exists_served_of_concat hserved
      obtain ⟨herald, hearlier, hgoes⟩ := ih hbefore
      exact ⟨herald, hearlier, goes_concat hgoes hruns⟩

theorem exists_runs_of_mem {past : List Handled} (hserved : Served settings past herald)
    (hmem : handled ∈ past) :
    ∃ before after : Herald,
      Runs (before.handle settings handled.now handled.input) handled.trace after := by
  obtain ⟨earlier, later, rfl⟩ := List.append_of_mem hmem
  obtain ⟨before, -, hgoes⟩ := exists_goes_of_served hserved
  cases hgoes with
  | step hruns _ => exact ⟨before, _, hruns⟩

theorem goes_of_served {past : List Handled} (hserved : Served settings past herald) :
    Goes settings .fresh past herald := by
  induction hserved with
  | fresh => exact .stay _
  | next _ hruns ih => exact goes_concat ih hruns

theorem served_append {past later : List Handled} {last : Herald}
    (hserved : Served settings past herald) (hgoes : Goes settings herald later last) :
    Served settings (past ++ later) last := by
  induction hgoes generalizing past with
  | stay => rwa [List.append_nil]
  | step hruns _ ih =>
      rw [List.append_cons]
      exact ih (.next hserved hruns)

theorem served_of_goes {past : List Handled} {last : Herald}
    (hgoes : Goes settings .fresh past last) : Served settings past last :=
  served_append .fresh hgoes

end BuildHerald.Proofs.Footprints
