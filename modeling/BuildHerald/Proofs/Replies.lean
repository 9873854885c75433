import BuildHerald.Proofs.Footprints

/-!
What the issuers of commands hear, and until when.

Every command comes with a ticket of its own. Its issuer is told at once what came of it, and hears no
more, unless it started a build: then the issuer waits for that build, and for no other.
-/

namespace BuildHerald.Proofs.Replies

open BuildHerald.Herald
open BuildHerald.Time
open BuildHerald.Chat
open BuildHerald.Proofs.Conversation
open BuildHerald.Proofs.JobStatuses
open BuildHerald.Proofs.Announcements
open BuildHerald.Proofs.Footprints

/-! ### Messages -/

/-- What reaches an issuer: a line, or that no more will come. -/
inductive Message
  | line (text : String)
  | over
  deriving DecidableEq

def messageTo? (ticket : Ticket) : Errand → Option Message
  | .reply other text => if other = ticket then some (.line text) else none
  | .close other => if other = ticket then some .over else none
  | _ => none

def messagesIn (ticket : Ticket) (trace : List Done) : List Message :=
  trace.filterMap fun done => messageTo? ticket done.question

def messages (ticket : Ticket) (past : List Handled) : List Message :=
  past.flatMap fun handled => messagesIn ticket handled.trace

/-- The jobs of which a build was asked for, with the answers. -/
def askedIn (trace : List Done) : List (Job × Except ServerFault Nat) :=
  trace.filterMap fun done =>
    match done with
    | ⟨.start job, answer⟩ => some (job, answer)
    | _ => none

/-- What is left to say to an issuer who waits for a build, when there is an input of its id: how the
build has ended, or nothing if someone else waits from now on. -/
def farewell : Input → List Message
  | .build build => [.line ("Job " ++ build.status.name ++ "."), .over]
  | .command _ _ => [.over]

def rerunning (job : Job) : Message :=
  .line ("Rerunning " ++ job.display ++ "...")

theorem exists_farewell (input : Input) :
    ∃ lines : List String, farewell input = lines.map .line ++ [.over] := by
  cases input with
  | build build => exact ⟨[_], rfl⟩
  | command => exact ⟨[], rfl⟩

theorem messages_concat (ticket : Ticket) (past : List Handled) (handled : Handled) :
    messages ticket (past ++ [handled]) =
      messages ticket past ++ messagesIn ticket handled.trace := by
  rw [messages, List.flatMap_append, List.flatMap_singleton]
  rfl

theorem messages_cons (ticket : Ticket) (handled : Handled) (later : List Handled) :
    messages ticket (handled :: later) =
      messagesIn ticket handled.trace ++ messages ticket later :=
  rfl

theorem messagesIn_append (ticket : Ticket) (first second : List Done) :
    messagesIn ticket (first ++ second) = messagesIn ticket first ++ messagesIn ticket second :=
  List.filterMap_append

theorem messagesIn_said (ticket other : Ticket) (text : String) :
    messagesIn ticket [said other text] = if other = ticket then [.line text] else [] := by
  by_cases hother : other = ticket
  · simp [messagesIn, said, messageTo?, hother]
  · simp [messagesIn, said, messageTo?, hother]

theorem messagesIn_closed (ticket other : Ticket) :
    messagesIn ticket [closed other] = if other = ticket then [.over] else [] := by
  by_cases hother : other = ticket
  · simp [messagesIn, closed, messageTo?, hother]
  · simp [messagesIn, closed, messageTo?, hother]

theorem messagesIn_answer (ticket other : Ticket) (text : String) :
    messagesIn ticket [said other text, closed other] =
      if other = ticket then [.line text, .over] else [] := by
  change messagesIn ticket ([said other text] ++ [closed other]) = _
  rw [messagesIn_append, messagesIn_said, messagesIn_closed]
  by_cases hother : other = ticket
  · simp [hother]
  · simp [hother]

/-- What an issuer hears of an errand for somebody else. -/
theorem messagesIn_cons_of_none {ticket : Ticket} {done : Done} (trace : List Done)
    (hdone : messageTo? ticket done.question = none) :
    messagesIn ticket (done :: trace) = messagesIn ticket trace :=
  List.filterMap_cons_none hdone

theorem messagesIn_announces {ticket : Ticket} {settings : Settings} {build : Build} {job : Job}
    {streak : Streak} {change : Change} {trace : List Done}
    (hannounces : Announces settings build job streak change trace) :
    messagesIn ticket trace = [] := by
  obtain ⟨transcript, answer, rfl⟩ := hannounces
  cases change.showsTranscript with
  | true => rfl
  | false => rfl

/-! ### One input -/

section Step

variable {settings : Settings} {now : Instant} {herald after : Herald} {ticket : Ticket}

theorem messagesIn_of_buildHandled {build : Build} {trace : List Done}
    (hhandled : BuildHandled settings now herald build trace after) :
    messagesIn ticket trace =
      if herald.awaited.get? build.id = some ticket then farewell (.build build) else [] := by
  cases hhandled with
  | @reported other hawaited =>
      rw [messagesIn_answer, hawaited]
      simp only [Option.some.injEq]
      rfl
  | passedOver hawaited => simp [hawaited, messagesIn]
  | muted hawaited => simp [hawaited, messagesIn]
  | quiet hawaited => simp [hawaited, messagesIn]
  | announced hawaited _ _ _ hannounces =>
      rw [messagesIn_announces hannounces]
      simp [hawaited]

theorem notificationsIn_of_awaited {build : Build} {trace : List Done}
    (hhandled : BuildHandled settings now herald build trace after)
    (hawaited : herald.awaited.get? build.id = some ticket) : notificationsIn trace = [] := by
  cases hhandled with
  | reported => rfl
  | passedOver hnone => simp [hawaited] at hnone
  | muted hnone => simp [hawaited] at hnone
  | quiet hnone => simp [hawaited] at hnone
  | announced hnone => simp [hawaited] at hnone

theorem messagesIn_of_commandHandled_of_ne {issuer : Ticket} {command : Command} {trace : List Done}
    (hhandled : CommandHandled settings now herald issuer command trace after)
    (hother : issuer ≠ ticket) :
    messagesIn ticket trace =
      if ∃ id ∈ startsIn trace, herald.awaited.get? id = some ticket then [.over] else [] := by
  have hsaid (line : String) : messageTo? ticket (said issuer line).question = none :=
    if_neg hother
  have hclosed : messageTo? ticket (closed issuer).question = none := if_neg hother
  cases hhandled with
  | unknown => rw [messagesIn_answer, if_neg hother, if_neg (by simp [startsIn, said, closed])]
  | untargeted => rw [messagesIn_answer, if_neg hother, if_neg (by simp [startsIn, said, closed])]
  | @rerun job id =>
      rw [startsIn_rerun]
      simp only [List.mem_singleton, exists_eq_left]
      change messagesIn ticket (said issuer _ :: begun job _ :: _) = _
      rw [messagesIn_cons_of_none _ (hsaid _), messagesIn_cons_of_none _ rfl]
      cases hwaiting : herald.awaited.get? id with
      | none => simp [messagesIn]
      | some waiting =>
          simp only [Option.toList_some, List.map_cons, List.map_nil, Option.some.injEq]
          exact messagesIn_closed ticket waiting
  | rerunFailed =>
      rw [messagesIn_cons_of_none _ (hsaid _), messagesIn_cons_of_none _ rfl, messagesIn_answer,
        if_neg hother, if_neg (by simp [startsIn, said, closed, begun])]
  | paused =>
      rw [messagesIn_cons_of_none _ rfl, messagesIn_answer, if_neg hother,
        if_neg (by simp [startsIn, said, closed, switched])]
  | muteRefused => rw [messagesIn_answer, if_neg hother, if_neg (by simp [startsIn, said, closed])]
  | muted => rw [messagesIn_answer, if_neg hother, if_neg (by simp [startsIn, said, closed])]

/-- The issuer of a command that starts no build is told one line. -/
theorem told_at_once {command : Command} {trace : List Done}
    (hhandled : CommandHandled settings now herald ticket command trace after)
    (hcommand : Verb.ofName? command.name ≠ some .rerun ∨ command.job = none) :
    startsIn trace = [] ∧ ∃ text, messagesIn ticket trace = [.line text, .over] := by
  have hanswer (text : String) :
      startsIn [said ticket text, closed ticket] = [] ∧
        ∃ text', messagesIn ticket [said ticket text, closed ticket] = [.line text', .over] :=
    ⟨rfl, text, (messagesIn_answer _ _ _).trans (if_pos rfl)⟩
  cases hhandled with
  | unknown => exact hanswer _
  | untargeted => exact hanswer _
  | rerun hverb hjob => simp [hverb, hjob] at hcommand
  | rerunFailed hverb hjob => simp [hverb, hjob] at hcommand
  | paused => exact hanswer _
  | muteRefused => exact hanswer _
  | muted => exact hanswer _

/-- The issuer of a command to start a build is told that it is under way, and that it has failed if
it has. -/
theorem told_of_rerun {command : Command} {job : Job} {trace : List Done}
    (hhandled : CommandHandled settings now herald ticket command trace after)
    (hverb : Verb.ofName? command.name = some .rerun) (hjob : command.job = some job)
    (hnew : ∀ id, herald.awaited.get? id ≠ some ticket) :
    (∃ id, askedIn trace = [(job, .ok id)] ∧ startsIn trace = [id] ∧
        messagesIn ticket trace = [rerunning job]) ∨
      ∃ fault, askedIn trace = [(job, .error fault)] ∧ startsIn trace = [] ∧
        messagesIn ticket trace =
          [rerunning job, .line ("Failed to rerun " ++ job.display ++ ": " ++ fault.message),
            .over] := by
  cases hhandled with
  | unknown hother => simp [hverb] at hother
  | untargeted _ hother => simp [hjob] at hother
  | @rerun job' id _ hother =>
      obtain rfl := Option.some.inj (hjob.symm.trans hother)
      left
      refine ⟨id, ?_, startsIn_rerun _ _ _ _ _, ?_⟩
      · cases herald.awaited.get? id with
        | none => rfl
        | some other => rfl
      · rw [messagesIn_append]
        have hothers : messagesIn ticket ((herald.awaited.get? id).toList.map closed) = [] := by
          cases hwaiting : herald.awaited.get? id with
          | none => rfl
          | some other =>
              have hne : other ≠ ticket := by
                rintro rfl
                exact hnew id hwaiting
              exact (messagesIn_closed _ _).trans (if_neg hne)
        rw [hothers, List.append_nil]
        simp [messagesIn, messageTo?, said, begun, rerunning]
  | @rerunFailed job' fault _ hother =>
      obtain rfl := Option.some.inj (hjob.symm.trans hother)
      right
      refine ⟨fault, rfl, rfl, ?_⟩
      simp [messagesIn, messageTo?, said, begun, closed, rerunning]
  | @paused _ _ paused _ hpausing heq =>
      obtain rfl := Option.some.inj (hverb.symm.trans hpausing)
      cases paused <;> simp at heq
  | muteRefused hmuting => simp [hverb] at hmuting
  | muted hmuting => simp [hverb] at hmuting

end Step

section Handled

variable {settings : Settings} {herald after : Herald} {handled : Handled} {ticket : Ticket}

theorem messagesIn_of_not_waiting
    (hruns : Runs (herald.handle settings handled.now handled.input) handled.trace after)
    (hother : issuer? handled ≠ some ticket)
    (hnone : ∀ id ∈ idsIn handled, herald.awaited.get? id ≠ some ticket) :
    messagesIn ticket handled.trace = [] := by
  obtain ⟨now, input, trace⟩ := handled
  cases input with
  | build build =>
      rw [messagesIn_of_buildHandled (buildHandled_of_handle hruns), if_neg]
      exact hnone _ (List.mem_singleton.mpr rfl)
  | command issuer command =>
      have hne : issuer ≠ ticket := fun heq => hother (congrArg some heq)
      rw [messagesIn_of_commandHandled_of_ne (commandHandled_of_handle hruns) hne, if_neg]
      rintro ⟨id, hid, hwaiting⟩
      exact hnone id hid hwaiting

theorem messagesIn_of_waiting {id : Nat}
    (hruns : Runs (herald.handle settings handled.now handled.input) handled.trace after)
    (hother : issuer? handled ≠ some ticket) (hid : id ∈ idsIn handled)
    (hwaiting : herald.awaited.get? id = some ticket) :
    messagesIn ticket handled.trace = farewell handled.input := by
  obtain ⟨now, input, trace⟩ := handled
  cases input with
  | build build =>
      obtain rfl := List.mem_singleton.mp hid
      rw [messagesIn_of_buildHandled (buildHandled_of_handle hruns), if_pos hwaiting]
  | command issuer command =>
      have hne : issuer ≠ ticket := fun heq => hother (congrArg some heq)
      rw [messagesIn_of_commandHandled_of_ne (commandHandled_of_handle hruns) hne,
        if_pos ⟨id, hid, hwaiting⟩]
      rfl

/-- The issuer of a command waits for the build that it has started, or hears no more. -/
theorem told_or_waits
    (hruns : Runs (herald.handle settings handled.now handled.input) handled.trace after)
    (hissuer : issuer? handled = some ticket)
    (hnew : ∀ id, herald.awaited.get? id ≠ some ticket) :
    (∃ id text, idsIn handled = [id] ∧ messagesIn ticket handled.trace = [.line text]) ∨
      idsIn handled = [] ∧
        ∃ lines : List String, messagesIn ticket handled.trace = lines.map .line ++ [.over] := by
  obtain ⟨now, input, trace⟩ := handled
  cases input with
  | build => exact absurd hissuer (Option.some_ne_none ticket).symm
  | command issuer command =>
      obtain rfl : issuer = ticket := Option.some.inj hissuer
      have hhandled := commandHandled_of_handle hruns
      by_cases hcommand : Verb.ofName? command.name ≠ some .rerun ∨ command.job = none
      · obtain ⟨hstarts, text, htold⟩ := told_at_once hhandled hcommand
        exact .inr ⟨hstarts, [text], htold⟩
      · rw [not_or, not_ne_iff] at hcommand
        obtain ⟨job, hjob⟩ := Option.ne_none_iff_exists'.mp hcommand.2
        obtain ⟨id, -, hstarts, htold⟩ | ⟨fault, -, hstarts, htold⟩ :=
          told_of_rerun hhandled hcommand.1 hjob hnew
        · exact .inl ⟨id, _, hstarts, htold⟩
        · exact .inr ⟨hstarts, [_, _], htold⟩

theorem idsIn_eq_or
    (hruns : Runs (herald.handle settings handled.now handled.input) handled.trace after) :
    idsIn handled = [] ∨ ∃ id, idsIn handled = [id] := by
  obtain ⟨now, input, trace⟩ := handled
  cases input with
  | build build => exact .inr ⟨_, rfl⟩
  | command issuer command =>
      cases commandHandled_of_handle hruns with
      | unknown => exact .inl rfl
      | untargeted => exact .inl rfl
      | rerun => exact .inr ⟨_, startsIn_rerun _ _ _ _ _⟩
      | rerunFailed => exact .inl rfl
      | paused => exact .inl rfl
      | muteRefused => exact .inl rfl
      | muted => exact .inl rfl

end Handled

end BuildHerald.Proofs.Replies
