import BuildHerald.Herald.Basic

namespace BuildHerald.Proofs.Conversation

open BuildHerald.Herald
open BuildHerald.Time
open BuildHerald.Chat

/-! ### The ways a procedure can go -/

section Dialogue

variable {Question : Type} {Answer : Question → Type} {α β : Type}

/-- A question, and the answer that it gets. -/
structure Turn (Answer : Question → Type) where
  question : Question
  answer : Answer question

/-- The procedure can go this way: it puts these questions, gets these answers and has this result. -/
inductive Runs : Dialogue Question Answer α → List (Turn Answer) → α → Prop
  | done (result : α) : Runs (.done result) [] result
  | ask (question : Question) (answer : Answer question)
      {next : Answer question → Dialogue Question Answer α} {rest : List (Turn Answer)} {result : α} :
      Runs (next answer) rest result → Runs (.ask question next) (⟨question, answer⟩ :: rest) result

theorem runs_done_iff {result final : α} {trace : List (Turn Answer)} :
    Runs (.done result : Dialogue Question Answer α) trace final ↔ trace = [] ∧ final = result := by
  constructor
  · intro hruns
    cases hruns
    exact ⟨rfl, rfl⟩
  · rintro ⟨rfl, rfl⟩
    exact .done _

theorem runs_pure_iff {result final : α} {trace : List (Turn Answer)} :
    Runs (pure result : Dialogue Question Answer α) trace final ↔ trace = [] ∧ final = result :=
  runs_done_iff

theorem runs_ask_iff {question : Question} {next : Answer question → Dialogue Question Answer α}
    {trace : List (Turn Answer)} {final : α} :
    Runs (.ask question next) trace final ↔
      ∃ answer rest, trace = ⟨question, answer⟩ :: rest ∧ Runs (next answer) rest final := by
  constructor
  · intro hruns
    cases hruns with
    | ask _ answer hrest => exact ⟨answer, _, rfl, hrest⟩
  · rintro ⟨answer, rest, rfl, hrest⟩
    exact .ask question answer hrest

theorem runs_bind_iff {first : Dialogue Question Answer α} {second : α → Dialogue Question Answer β}
    {trace : List (Turn Answer)} {final : β} :
    Runs (first >>= second) trace final ↔
      ∃ early result late, trace = early ++ late ∧ Runs first early result ∧
        Runs (second result) late final := by
  induction first generalizing trace with
  | done result =>
      constructor
      · intro hruns
        exact ⟨[], result, trace, rfl, .done result, hruns⟩
      · rintro ⟨early, found, late, rfl, hfirst, hsecond⟩
        obtain ⟨rfl, rfl⟩ := runs_done_iff.mp hfirst
        exact hsecond
  | ask question next ih =>
      constructor
      · intro hruns
        obtain ⟨answer, rest, rfl, hrest⟩ := runs_ask_iff.mp hruns
        obtain ⟨early, result, late, rfl, hfirst, hsecond⟩ := (ih answer).mp hrest
        exact ⟨⟨question, answer⟩ :: early, result, late, rfl, .ask question answer hfirst, hsecond⟩
      · rintro ⟨early, result, late, rfl, hfirst, hsecond⟩
        obtain ⟨answer, rest, rfl, hrest⟩ := runs_ask_iff.mp hfirst
        exact .ask question answer ((ih answer).mpr ⟨rest, result, late, rfl, hrest, hsecond⟩)

/-- If only a result is made of what a procedure brings, all the turns are those of the procedure. -/
theorem exists_runs_of_bind_pure {first : Dialogue Question Answer α}
    {second : α → Dialogue Question Answer β} {trace : List (Turn Answer)} {final : β}
    (hpure : ∀ result, ∃ made, second result = pure made) (hruns : Runs (first >>= second) trace final) :
    ∃ result, Runs first trace result := by
  obtain ⟨early, result, late, rfl, hfirst, hsecond⟩ := runs_bind_iff.mp hruns
  obtain ⟨made, hmade⟩ := hpure result
  rw [hmade, runs_pure_iff] at hsecond
  rw [hsecond.1, List.append_nil]
  exact ⟨result, hfirst⟩

theorem runs_single_iff {question : Question} {answer : Answer question}
    {trace : List (Turn Answer)} :
    Runs (.ask question .done) trace answer ↔ trace = [⟨question, answer⟩] := by
  rw [runs_ask_iff]
  constructor
  · rintro ⟨found, rest, rfl, hrest⟩
    obtain ⟨rfl, rfl⟩ := runs_done_iff.mp hrest
    rfl
  · rintro rfl
    exact ⟨answer, [], rfl, .done answer⟩

theorem exists_runs (hanswer : ∀ question, Nonempty (Answer question))
    (procedure : Dialogue Question Answer α) : ∃ trace result, Runs procedure trace result := by
  induction procedure with
  | done result => exact ⟨[], result, .done result⟩
  | ask question next ih =>
      obtain ⟨answer⟩ := hanswer question
      obtain ⟨trace, result, hruns⟩ := ih answer
      exact ⟨_, result, .ask question answer hruns⟩

end Dialogue

/-! ### Errands -/

/-- An errand, and what came of it. -/
abbrev Done := Turn Errand.Answer

def rendered (build : Nat) (transcript : String) : Done :=
  ⟨.transcribe build, transcript⟩

def begun (job : Job) (answer : Except ServerFault Nat) : Done :=
  ⟨.start job, answer⟩

def switched (scope : Scope) (job : Job) (paused : Bool) (answer : Except ServerFault Bool) : Done :=
  ⟨.setPaused scope job paused, answer⟩

def notified (notification : Notification) (answer : Except ChatFault Unit) : Done :=
  ⟨.notify notification, answer⟩

def said (ticket : Ticket) (line : String) : Done :=
  ⟨.reply ticket line, ()⟩

def closed (ticket : Ticket) : Done :=
  ⟨.close ticket, ()⟩

theorem nonempty_answer (errand : Errand) : Nonempty errand.Answer := by
  cases errand with
  | transcribe => exact ⟨""⟩
  | start => exact ⟨.ok 0⟩
  | setPaused => exact ⟨.ok true⟩
  | notify => exact ⟨.ok ()⟩
  | reply => exact ⟨()⟩
  | close => exact ⟨()⟩

/-! ### How a build is handled -/

/-- The errands in telling of a change. -/
def Announces (settings : Settings) (build : Build) (job : Job) (streak : Streak) (change : Change)
    (trace : List Done) : Prop :=
  ∃ transcript answer,
    trace = (if change.showsTranscript then [rendered build.id transcript] else []) ++
      [notified (change.notification settings.dashboard build job streak transcript) answer]

theorem announces_of_runs {settings : Settings} {build : Build} {job : Job} {streak : Streak}
    {change : Change} {trace : List Done}
    (hruns : Runs (announce settings build job streak change) trace ()) :
    Announces settings build job streak change trace := by
  unfold announce at hruns
  cases hshows : change.showsTranscript with
  | true =>
      simp only [hshows, if_true, Course.transcribe, Course.notify, runs_bind_iff,
        runs_pure_iff] at hruns
      obtain ⟨_, transcript, _, rfl, hrendered, _, answer, _, rfl, hnotified, rfl, -⟩ := hruns
      rw [runs_single_iff] at hrendered hnotified
      subst hrendered hnotified
      exact ⟨transcript, answer, by rw [hshows]; rfl⟩
  | false =>
      simp only [hshows, Bool.false_eq_true, if_false, Course.notify, runs_bind_iff,
        runs_pure_iff] at hruns
      obtain ⟨_, _, _, rfl, ⟨rfl, rfl⟩, _, answer, _, rfl, hnotified, rfl, -⟩ := hruns
      rw [runs_single_iff] at hnotified
      subst hnotified
      exact ⟨"", answer, by rw [hshows]; rfl⟩

/-- What comes of handling a finished build. -/
inductive BuildHandled (settings : Settings) (now : Instant) (herald : Herald) (build : Build) :
    List Done → Herald → Prop
  | reported {ticket : Ticket} :
      herald.awaited.get? build.id = some ticket →
        BuildHandled settings now herald build
          [said ticket ("Job " ++ build.status.name ++ "."), closed ticket]
          { herald with
            awaited := herald.awaited.erase build.id
            streaks := herald.streaks.record build }
  | passedOver :
      herald.awaited.get? build.id = none → build.job? = none →
        BuildHandled settings now herald build [] herald
  | muted {job : Job} :
      herald.awaited.get? build.id = none → build.job? = some job →
        (herald.mutes.check job now).1 = true →
          BuildHandled settings now herald build []
            { herald with
              mutes := (herald.mutes.check job now).2
              streaks := herald.streaks.record build }
  | quiet {job : Job} :
      herald.awaited.get? build.id = none → build.job? = some job →
        (herald.mutes.check job now).1 = false →
          Change.between? (herald.streaks.get job).last build.status = none →
            BuildHandled settings now herald build []
              { herald with
                mutes := (herald.mutes.check job now).2
                streaks := herald.streaks.record build }
  | announced {job : Job} {change : Change} {trace : List Done} :
      herald.awaited.get? build.id = none → build.job? = some job →
        (herald.mutes.check job now).1 = false →
          Change.between? (herald.streaks.get job).last build.status = some change →
            Announces settings build job (herald.streaks.get job) change trace →
              BuildHandled settings now herald build trace
                { herald with
                  mutes := (herald.mutes.check job now).2
                  streaks := herald.streaks.record build }

theorem buildHandled_of_runs {settings : Settings} {now : Instant} {herald after : Herald}
    {build : Build} {trace : List Done}
    (hruns : Runs (herald.handleBuild settings now build) trace after) :
    BuildHandled settings now herald build trace after := by
  unfold handleBuild at hruns
  cases hawaited : herald.awaited.get? build.id with
  | some ticket =>
      simp only [hawaited, Course.reply, Course.close, runs_bind_iff, runs_pure_iff] at hruns
      obtain ⟨_, _, _, rfl, hreply, _, _, _, rfl, hclose, rfl, rfl⟩ := hruns
      rw [runs_single_iff] at hreply hclose
      subst hreply hclose
      exact .reported hawaited
  | none =>
      cases hjob : build.job? with
      | none =>
          simp only [hawaited, hjob, runs_pure_iff] at hruns
          obtain ⟨rfl, rfl⟩ := hruns
          exact .passedOver hawaited hjob
      | some job =>
          simp only [hawaited, hjob] at hruns
          cases hmuted : (herald.mutes.check job now).1 with
          | true =>
              simp only [hmuted, Bool.not_true, Bool.false_eq_true, if_false, runs_pure_iff] at hruns
              obtain ⟨rfl, rfl⟩ := hruns
              exact .muted hawaited hjob hmuted
          | false =>
              cases hchange : Change.between? (herald.streaks.get job).last build.status with
              | none =>
                  simp only [hmuted, hchange, Bool.not_false, if_true, runs_pure_iff] at hruns
                  obtain ⟨rfl, rfl⟩ := hruns
                  exact .quiet hawaited hjob hmuted hchange
              | some change =>
                  simp only [hmuted, hchange, Bool.not_false, if_true, runs_bind_iff,
                    runs_pure_iff] at hruns
                  obtain ⟨_, _, _, rfl, hannounce, rfl, rfl⟩ := hruns
                  rw [List.append_nil]
                  exact .announced hawaited hjob hmuted hchange (announces_of_runs hannounce)

theorem runs_reported {settings : Settings} {now : Instant} {ticket : Ticket} {build : Build}
    (herald : Herald) (hwaiting : herald.awaited.get? build.id = some ticket) :
    Runs (herald.handle settings now (.build build))
      [said ticket ("Job " ++ build.status.name ++ "."), closed ticket]
      { herald with
        awaited := herald.awaited.erase build.id
        streaks := herald.streaks.record build } := by
  change Runs (herald.handleBuild settings now build) _ _
  simp only [handleBuild, hwaiting]
  refine runs_ask_iff.mpr ⟨(), _, rfl, ?_⟩
  refine runs_ask_iff.mpr ⟨(), _, rfl, ?_⟩
  exact runs_done_iff.mpr ⟨rfl, rfl⟩

/-! ### How a command is handled -/

/-- What comes of handling a command. -/
inductive CommandHandled (settings : Settings) (now : Instant) (herald : Herald) (ticket : Ticket)
    (command : Command) : List Done → Herald → Prop
  | unknown :
      Verb.ofName? command.name = none →
        CommandHandled settings now herald ticket command
          [said ticket ("Unknown command: " ++ command.name), closed ticket] herald
  | untargeted {verb : Verb} :
      Verb.ofName? command.name = some verb → command.job = none →
        CommandHandled settings now herald ticket command
          [said ticket ("Command " ++ command.name ++ " needs a target job."), closed ticket] herald
  | rerun {job : Job} {id : Nat} :
      Verb.ofName? command.name = some .rerun → command.job = some job →
        CommandHandled settings now herald ticket command
          ([said ticket ("Rerunning " ++ job.display ++ "..."), begun job (.ok id)] ++
            (herald.awaited.get? id).toList.map closed)
          { herald with awaited := herald.awaited.put id ticket }
  | rerunFailed {job : Job} {fault : ServerFault} :
      Verb.ofName? command.name = some .rerun → command.job = some job →
        CommandHandled settings now herald ticket command
          [said ticket ("Rerunning " ++ job.display ++ "..."), begun job (.error fault),
            said ticket ("Failed to rerun " ++ job.display ++ ": " ++ fault.message), closed ticket]
          herald
  | paused {job : Job} {verb : Verb} {paused : Bool} {answer : Except ServerFault Bool} :
      Verb.ofName? command.name = some verb →
        verb = (if paused then .pause else .unpause) → command.job = some job →
          CommandHandled settings now herald ticket command
            [switched (scopeOf command.args) job paused answer,
              said ticket
                (pauseReport ((scopeOf command.args).describe job) paused answer),
              closed ticket]
            herald
  | muteRefused {job : Job} {line : String} :
      Verb.ofName? command.name = some .mute → command.job = some job →
        muteExpiry settings now command.args = .error line →
          CommandHandled settings now herald ticket command [said ticket line, closed ticket] herald
  | muted {job : Job} {expiry : Instant} :
      Verb.ofName? command.name = some .mute → command.job = some job →
        muteExpiry settings now command.args = .ok expiry →
          CommandHandled settings now herald ticket command
            [said ticket ("Job " ++ job.display ++ " muted until " ++ expiry.text ++ "."),
              closed ticket]
            { herald with mutes := herald.mutes.put job expiry }

theorem runs_reply_iff {ticket : Ticket} {line : String} {trace : List Done} {answer : Unit} :
    Runs (Course.reply ticket line) trace answer ↔ trace = [said ticket line] :=
  runs_single_iff

theorem runs_close_iff {ticket : Ticket} {trace : List Done} {answer : Unit} :
    Runs (Course.close ticket) trace answer ↔ trace = [closed ticket] :=
  runs_single_iff

theorem runs_refuse {herald after : Herald} {ticket : Ticket} {line : String} {trace : List Done}
    (hruns : Runs (refuse herald ticket line) trace after) :
    trace = [said ticket line, closed ticket] ∧ after = herald := by
  simp only [refuse, runs_bind_iff, runs_reply_iff, runs_close_iff, runs_pure_iff] at hruns
  obtain ⟨_, _, _, rfl, rfl, _, _, _, rfl, rfl, rfl, rfl⟩ := hruns
  exact ⟨rfl, rfl⟩

theorem commandHandled_of_runs_rerun {settings : Settings} {now : Instant} {herald after : Herald}
    {ticket : Ticket} {command : Command} {job : Job} {trace : List Done}
    (hverb : Verb.ofName? command.name = some .rerun) (hjob : command.job = some job)
    (hruns : Runs (rerun herald ticket job) trace after) :
    CommandHandled settings now herald ticket command trace after := by
  unfold rerun at hruns
  rw [runs_bind_iff] at hruns
  obtain ⟨early, _, late, rfl, hreply, hlate⟩ := hruns
  rw [runs_reply_iff] at hreply
  subst hreply
  rw [runs_bind_iff] at hlate
  obtain ⟨early, answer, late, rfl, hstart, hlate⟩ := hlate
  unfold Course.start at hstart
  rw [runs_single_iff] at hstart
  subst hstart
  cases answer with
  | error fault =>
      simp only [runs_bind_iff, runs_reply_iff, runs_close_iff, runs_pure_iff] at hlate
      obtain ⟨_, _, _, rfl, rfl, _, _, _, rfl, rfl, rfl, rfl⟩ := hlate
      exact .rerunFailed hverb hjob
  | ok id =>
      have htrace : late = (herald.awaited.get? id).toList.map closed ∧
          after = { herald with awaited := herald.awaited.put id ticket } := by
        cases hother : herald.awaited.get? id with
        | none =>
            simp only [hother, runs_pure_iff] at hlate
            exact hlate
        | some other =>
            simp only [hother, runs_bind_iff, runs_close_iff, runs_pure_iff] at hlate
            obtain ⟨_, _, _, rfl, rfl, rfl, rfl⟩ := hlate
            exact ⟨rfl, rfl⟩
      obtain ⟨rfl, rfl⟩ := htrace
      exact .rerun hverb hjob

theorem runs_setPaused {herald after : Herald} {ticket : Ticket} {command : Command} {job : Job}
    {paused : Bool} {trace : List Done}
    (hruns : Runs (do
      setPaused ticket command job paused
      pure herald : Course Herald) trace after) :
    after = herald ∧ ∃ answer, trace =
      [switched (scopeOf command.args) job paused answer,
        said ticket (pauseReport ((scopeOf command.args).describe job) paused answer),
        closed ticket] := by
  simp only [setPaused, Course.setPaused, runs_bind_iff, runs_reply_iff, runs_close_iff,
    runs_pure_iff] at hruns
  obtain ⟨_, _, _, rfl, ⟨_, answer, _, rfl, hswitched, _, _, _, rfl, rfl, rfl⟩, rfl, rfl⟩ := hruns
  rw [runs_single_iff] at hswitched
  subst hswitched
  exact ⟨rfl, answer, rfl⟩

theorem commandHandled_of_runs_mute {settings : Settings} {now : Instant} {herald after : Herald}
    {ticket : Ticket} {command : Command} {job : Job} {trace : List Done}
    (hverb : Verb.ofName? command.name = some .mute) (hjob : command.job = some job)
    (hruns : Runs (mute settings now herald ticket command job) trace after) :
    CommandHandled settings now herald ticket command trace after := by
  unfold mute at hruns
  cases hexpiry : muteExpiry settings now command.args with
  | error line =>
      simp only [hexpiry, runs_bind_iff, runs_reply_iff, runs_close_iff, runs_pure_iff] at hruns
      obtain ⟨_, _, _, rfl, rfl, _, _, _, rfl, rfl, rfl, rfl⟩ := hruns
      exact .muteRefused hverb hjob hexpiry
  | ok expiry =>
      simp only [hexpiry, runs_bind_iff, runs_reply_iff, runs_close_iff, runs_pure_iff] at hruns
      obtain ⟨_, _, _, rfl, rfl, _, _, _, rfl, rfl, rfl, rfl⟩ := hruns
      exact .muted hverb hjob hexpiry

theorem commandHandled_of_runs {settings : Settings} {now : Instant} {herald after : Herald}
    {ticket : Ticket} {command : Command} {trace : List Done}
    (hruns : Runs (herald.handleCommand settings now ticket command) trace after) :
    CommandHandled settings now herald ticket command trace after := by
  unfold handleCommand at hruns
  cases hverb : Verb.ofName? command.name with
  | none =>
      simp only [hverb] at hruns
      obtain ⟨rfl, rfl⟩ := runs_refuse hruns
      exact .unknown hverb
  | some verb =>
      cases hjob : command.job with
      | none =>
          simp only [hverb, hjob] at hruns
          obtain ⟨rfl, rfl⟩ := runs_refuse hruns
          exact .untargeted hverb hjob
      | some job =>
          simp only [hverb, hjob] at hruns
          cases verb with
          | rerun => exact commandHandled_of_runs_rerun hverb hjob hruns
          | pause =>
              obtain ⟨rfl, answer, rfl⟩ := runs_setPaused hruns
              exact .paused hverb rfl hjob
          | unpause =>
              obtain ⟨rfl, answer, rfl⟩ := runs_setPaused hruns
              exact .paused hverb rfl hjob
          | mute => exact commandHandled_of_runs_mute hverb hjob hruns

theorem buildHandled_of_handle {settings : Settings} {now : Instant} {herald after : Herald}
    {build : Build} {trace : List Done}
    (hruns : Runs (herald.handle settings now (.build build)) trace after) :
    BuildHandled settings now herald build trace after :=
  buildHandled_of_runs hruns

theorem commandHandled_of_handle {settings : Settings} {now : Instant} {herald after : Herald}
    {ticket : Ticket} {command : Command} {trace : List Done}
    (hruns : Runs (herald.handle settings now (.command ticket command)) trace after) :
    CommandHandled settings now herald ticket command trace after :=
  commandHandled_of_runs hruns

theorem runs_rerun {settings : Settings} {now : Instant} {ticket : Ticket} {command : Command}
    {job : Job} {id : Nat} (herald : Herald) (hverb : Verb.ofName? command.name = some .rerun)
    (hjob : command.job = some job) :
    Runs (herald.handle settings now (.command ticket command))
      ([said ticket ("Rerunning " ++ job.display ++ "..."), begun job (.ok id)] ++
        (herald.awaited.get? id).toList.map closed)
      { herald with awaited := herald.awaited.put id ticket } := by
  change Runs (herald.handleCommand settings now ticket command) _ _
  simp only [handleCommand, hverb, hjob]
  refine runs_ask_iff.mpr ⟨(), _, rfl, ?_⟩
  refine runs_ask_iff.mpr ⟨.ok id, _, rfl, ?_⟩
  simp only [Dialogue.andThen]
  cases herald.awaited.get? id with
  | none => exact runs_done_iff.mpr ⟨rfl, rfl⟩
  | some other =>
      refine runs_ask_iff.mpr ⟨(), _, rfl, ?_⟩
      exact runs_done_iff.mpr ⟨rfl, rfl⟩

/-! ### What has been handled -/

/-- An input that has been handled, when it was taken, and the errands that it led to. -/
structure Handled where
  now : Instant
  input : Input
  trace : List Done

def Handled.build? (handled : Handled) : Option Build :=
  match handled.input with
  | .build build => some build
  | .command _ _ => none

def buildsIn (past : List Handled) : List Build :=
  past.filterMap Handled.build?

theorem buildsIn_concat (past : List Handled) (handled : Handled) :
    buildsIn (past ++ [handled]) = buildsIn past ++ handled.build?.toList := by
  rw [buildsIn, List.filterMap_append]
  cases hbuild : handled.build? with
  | none => rw [List.filterMap_cons_none hbuild]; rfl
  | some build => rw [List.filterMap_cons_some hbuild]; rfl

def Handled.command? (handled : Handled) : Option (Ticket × Command) :=
  match handled.input with
  | .build _ => none
  | .command ticket command => some (ticket, command)

def commandsIn (past : List Handled) : List (Ticket × Command) :=
  past.filterMap Handled.command?

theorem commandsIn_concat (past : List Handled) (handled : Handled) :
    commandsIn (past ++ [handled]) = commandsIn past ++ handled.command?.toList := by
  rw [commandsIn, List.filterMap_append]
  cases hcommand : handled.command? with
  | none => rw [List.filterMap_cons_none hcommand]; rfl
  | some command => rw [List.filterMap_cons_some hcommand]; rfl

/-- What a herald can have come to by handling inputs, one after the other, at any times and with any
answers. -/
inductive Served (settings : Settings) : List Handled → Herald → Prop
  | fresh : Served settings [] .fresh
  | next {past : List Handled} {herald after : Herald} {handled : Handled} :
      Served settings past herald →
        Runs (herald.handle settings handled.now handled.input) handled.trace after →
          Served settings (past ++ [handled]) after

end BuildHerald.Proofs.Conversation
