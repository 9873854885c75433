import BuildHerald.Proofs.FencedBlocks
import BuildHerald.Proofs.Recollection
import BuildHerald.Proofs.Sending

/-!
Which messages of a notification the bot remembers.

The server tells the ids of the messages that it takes. When a notification has been sent as a whole,
they are all remembered. When its sending ends early, those of the portions before are not.
-/

namespace BuildHerald.Proofs.NotifiedMessages

open BuildHerald.Http
open BuildHerald.Telegram
open BuildHerald.Proofs.Conversation
open BuildHerald.Proofs.Listening (Sent localBot)
open BuildHerald.Proofs.Portioning
open BuildHerald.Proofs.Recollection
open BuildHerald.Proofs.Sending

/-! ### What the server tells -/

/-- The id of a message that the server has taken, if it tells it. -/
def idIn? (outcome : Outcome) : Option Int :=
  (outcome.filter Response.isSuccess).bind Bot.sentId?

def toldIds (trace : List Sent) : List Int :=
  trace.filterMap fun sent => idIn? sent.answer

@[simp]
theorem toldIds_nil : toldIds [] = [] :=
  rfl

@[simp]
theorem toldIds_cons (sent : Sent) (trace : List Sent) :
    toldIds (sent :: trace) = (idIn? sent.answer).toList ++ toldIds trace := by
  rw [toldIds, List.filterMap_cons]
  cases idIn? sent.answer with
  | none => rfl
  | some id => rfl

@[simp]
theorem idIn?_none : idIn? none = none :=
  rfl

theorem idIn?_eq_some_iff {response : Response} {id : Int} :
    idIn? (some response) = some id ↔
      response.isSuccess = true ∧ Bot.sentId? response = some id := by
  simp [idIn?, Option.bind_eq_some_iff, Option.filter_eq_some_iff]

theorem idIn?_of_refused {outcome : Outcome} (hrefused : outcome.any Response.isSuccess = false) :
    idIn? outcome = none := by
  cases outcome with
  | none => rfl
  | some response =>
      have hfailed : response.isSuccess = false := hrefused
      rw [idIn?, Option.filter_some_neg hfailed]
      rfl

theorem idIn?_of_taken {outcome : Outcome} (htaken : outcome.any Response.isSuccess = true) :
    idIn? outcome = outcome.bind Bot.sentId? := by
  cases outcome with
  | none => rfl
  | some response =>
      have hsuccess : response.isSuccess = true := htaken
      rw [idIn?, Option.filter_some_pos hsuccess]

section Sending

variable {bot : Bot} {envelope : Request} {message : Bot.Message} {attempt : Attempt}
  {attempts : List Attempt} {portions : List (List Char)} {trace : List Sent}
  {result : Except ChatFault (List Int)}

/-- Only the last answer to an attempt can tell an id. -/
theorem toldIds_of_attempt (hretried : attempt.IsRetried) :
    toldIds (attempt.sent envelope message) = (idIn? attempt.outcome).toList := by
  obtain ⟨text, first, again⟩ := attempt
  cases again with
  | none => simp [Attempt.sent, Attempt.outcome]
  | some outcome =>
      obtain ⟨response, rfl, hrefused⟩ := hretried.mp rfl
      have hnone : idIn? (some response) = none := idIn?_of_refused hrefused
      simp [Attempt.sent, Attempt.outcome, hnone]

theorem toldIds_of_course (hcourse : Course envelope message portions attempts trace result) :
    toldIds trace = attempts.filterMap fun attempt => idIn? attempt.outcome := by
  rw [toldIds, hcourse.trace_eq, List.filterMap_flatMap, List.filterMap_eq_flatMap_toList]
  apply List.flatMap_congr
  intro attempt hmem
  exact toldIds_of_attempt (hcourse.retried attempt hmem)

/-- The ids that a sending collects are all that the server tells. -/
theorem toldIds_of_sent {ids : List Int} (hruns : Runs (bot.send message) trace (.ok ids)) :
    toldIds trace = ids := by
  obtain ⟨_, _, _, hfailed⟩ | ⟨envelope, attempts, -, hcourse⟩ := course_of_send hruns
  · cases hfailed
  · obtain ⟨-, htaken⟩ := hcourse.completed.mp ⟨ids, rfl⟩
    rw [toldIds_of_course hcourse, (hcourse.ids ids rfl).eq_filterMap]
    apply List.filterMap_congr
    intro attempt hmem
    exact idIn?_of_taken (htaken attempt hmem)

/-- If a message that fits is not sent, the server has taken nothing of it. -/
theorem toldIds_of_unsent {fault : ChatFault} (hruns : Runs (bot.send message) trace (.error fault))
    (hfits : Portions.size message.text ≤ messageLimit) : toldIds trace = [] := by
  obtain ⟨_, _, rfl, -⟩ | ⟨envelope, attempts, -, hcourse⟩ := course_of_send hruns
  · rfl
  · obtain ⟨last, hlast, hrefused⟩ := hcourse.failed fault rfl
    have hone : attempts.length ≤ 1 := by
      have hle := hcourse.texts.length_le
      rwa [ofText_of_fits hfits, List.length_map] at hle
    obtain rfl : attempts = [last] := by
      match attempts, hone, hlast with
      | [attempt], _, hlast => exact congrArg (fun last => [last]) (Option.some.inj hlast)
    have hnone : idIn? last.outcome = none := idIn?_of_refused hrefused
    rw [toldIds_of_course hcourse, List.filterMap_cons, hnone, List.filterMap_nil]

end Sending

/-! ### What is shown of a transcript -/

theorem plain_of_not_mem {text : List Char} (htext : '\x1b' ∉ text) :
    Text.Terminal.plain text = text := by
  induction text with
  | nil =>
      rw [Text.Terminal.plain]
      rfl
  | cons c rest ih =>
      obtain ⟨hne, hrest⟩ := List.ne_and_not_mem_of_not_mem_cons htext
      have hnone : Text.Terminal.afterSequence? (c :: rest) = none := by
        unfold Text.Terminal.afterSequence?
        split
        · next heq => exact absurd (List.cons.inj heq).1.symm hne
        · rfl
      rw [FencedBlocks.plain_of_char hnone, ih hrest]

theorem shownOf_replicate {count : Nat} {c : Char} (hc : c ≠ '\x1b')
    (hblank : Text.isBlank c = false) (hcount : count ≤ Markup.transcriptLimit) :
    Markup.shownOf (String.ofList (List.replicate count c)) = List.replicate count c := by
  have hplain : '\x1b' ∉ List.replicate count c := fun hmem =>
    hc (List.eq_of_mem_replicate hmem).symm
  have htrimmed : Text.trimEnd (List.replicate count c) = List.replicate count c := by
    have hlast : ∀ last, (List.replicate count c).getLast? = some last → Text.isBlank last = false :=
      fun last hlast => List.eq_of_mem_replicate (List.mem_of_getLast? hlast) ▸ hblank
    have hnone := (List.append_nil (List.replicate count c)).symm
    exact (FencedBlocks.trims_iff.mp ⟨⟨[], hnone, List.forall_mem_nil _⟩, hlast⟩).symm
  rw [Markup.shownOf, String.toList_ofList, plain_of_not_mem hplain, htrimmed, Markup.lastChars,
    List.length_replicate, Nat.sub_eq_zero_of_le hcount, List.drop_zero]

/-! ### What is remembered -/

/-- What a chat reply to a message of the bot is about: the job, unless the message has been displaced
by many later ones. -/
def IsRecalled (memory : Recall) (job : Job) (id : Int) : Prop :=
  memory.get? id = some job ∨ Recall.limit ≤ larger memory id

theorem isRecalled_remember {memory : Recall} {ids : List Int} {job : Job} {id : Int}
    (hid : id ∈ ids) : IsRecalled (memory.remember ids job) job id := by
  have hrecorded : (recorded memory ids job).get? id = some job := by
    rw [get?_recorded, if_pos hid]
  unfold IsRecalled
  rw [get?_remember, hrecorded]
  obtain hfew | hmany := Nat.lt_or_ge (larger (recorded memory ids job) id) Recall.limit
  · rw [if_pos hfew]
    exact .inl rfl
  · exact .inr (larger_remember hmany).ge

section Notify

variable {bot : Bot} {memory after : Recall} {notification : Notification} {trace : List Sent}
  {answer : Except ChatFault Unit}

/-- The message that delivers a notification. -/
def posting (bot : Bot) (notification : Notification) : Bot.Message :=
  ⟨bot.settings.chat, Markup.format notification, none⟩

theorem runs_notify_iff :
    Runs (bot.notify memory notification) trace (answer, after) ↔
      (Runs (bot.send (posting bot notification)) trace (.ok (toldIds trace)) ∧
          answer = .ok () ∧ after = memory.remember (toldIds trace) notification.job) ∨
        ∃ fault, Runs (bot.send (posting bot notification)) trace (.error fault) ∧
          answer = .error fault ∧ after = memory := by
  unfold Bot.notify
  rw [runs_bind_iff]
  constructor
  · rintro ⟨early, result, late, rfl, hsend, hlate⟩
    cases result with
    | ok ids =>
        obtain ⟨rfl, hends⟩ := runs_pure_iff.mp hlate
        -- Turned around, the equation replaces `after` without a look into the new memory.
        obtain ⟨rfl, rfl⟩ := Prod.mk.inj hends.symm
        rw [List.append_nil, toldIds_of_sent hsend]
        exact .inl ⟨hsend, rfl, rfl⟩
    | error fault =>
        obtain ⟨rfl, hends⟩ := runs_pure_iff.mp hlate
        obtain ⟨rfl, rfl⟩ := Prod.mk.inj hends
        rw [List.append_nil]
        exact .inr ⟨fault, hsend, rfl, rfl⟩
  · rintro (⟨hsend, rfl, hafter⟩ | ⟨fault, hsend, rfl, rfl⟩)
    · rw [hafter]
      exact ⟨trace, _, [], (List.append_nil trace).symm, hsend, runs_pure_iff.mpr ⟨rfl, rfl⟩⟩
    · exact ⟨trace, _, [], (List.append_nil trace).symm, hsend, runs_pure_iff.mpr ⟨rfl, rfl⟩⟩

/-- The server can take a notification that fits one message, and tell its id. -/
theorem runs_notify_at_once {envelope : Request} {response : Response} {id : Int}
    (henvelope : envelope? bot = .ok envelope)
    (hfits : Portions.size (Markup.format notification) ≤ messageLimit)
    (htold : idIn? (some response) = some id) (memory : Recall) :
    ∃ trace, toldIds trace = [id] ∧
      Runs (bot.notify memory notification) trace
        (.ok (), memory.remember [id] notification.job) := by
  obtain ⟨hsuccess, hid⟩ := idIn?_eq_some_iff.mp htold
  have hsend : Runs (bot.send (posting bot notification)) _ _ :=
    runs_send_at_once henvelope hfits hsuccess
  rw [hid] at hsend
  have htrace := toldIds_of_sent hsend
  refine ⟨_, htrace, runs_notify_iff.mpr (.inl ?_)⟩
  rw [htrace]
  exact ⟨hsend, rfl, rfl⟩

/-- The server can take the first portion of a long notification and tell its id, and the connection
can fail then. -/
theorem runs_notify_in_part {envelope : Request} {response : Response} {id : Int}
    {start lost : List Char} {later : List (List Char)} (henvelope : envelope? bot = .ok envelope)
    (hportions : Portions.ofText messageLimit (Markup.format notification) = start :: lost :: later)
    (htold : idIn? (some response) = some id) (memory : Recall) :
    ∃ trace fault, trace.map Turn.answer = [some response, none] ∧ toldIds trace = [id] ∧
      Runs (bot.notify memory notification) trace (.error fault, memory) := by
  obtain ⟨hsuccess, hid⟩ := idIn?_eq_some_iff.mp htold
  obtain ⟨fault, hsend⟩ : ∃ fault, Runs (bot.send (posting bot notification)) _ (.error fault) :=
    runs_send_in_part ⟨start, some response, none⟩ henvelope hportions
      (Attempt.isRetried_taken start hsuccess) hsuccess
  refine ⟨_, fault, rfl, ?_, runs_notify_iff.mpr (.inr ⟨fault, hsend, rfl, rfl⟩)⟩
  simp [Attempt.sent, htold]

/-- All messages of a notification that has been delivered are remembered. Of one whose delivery has
failed, none is remembered that was not remembered before. -/
theorem posted_recalled_iff (hruns : Runs (bot.notify memory notification) trace (answer, after)) :
    ((∀ id ∈ toldIds trace, IsRecalled after notification.job id) ↔
        answer = .ok () ∨ ∀ id ∈ toldIds trace, IsRecalled memory notification.job id) ∧
      (answer ≠ .ok () → after = memory) ∧
      (Portions.size (Markup.format notification) ≤ messageLimit →
        ∀ id ∈ toldIds trace, IsRecalled after notification.job id) := by
  obtain ⟨-, rfl, hafter⟩ | ⟨fault, hsend, rfl, rfl⟩ := runs_notify_iff.mp hruns
  · have hall : ∀ id ∈ toldIds trace, IsRecalled after notification.job id := by
      rw [hafter]
      exact fun id hid => isRecalled_remember hid
    exact ⟨⟨fun _ => .inl rfl, fun _ => hall⟩, fun hfailed => absurd rfl hfailed, fun _ => hall⟩
  · refine ⟨⟨.inr, ?_⟩, fun _ => rfl, ?_⟩
    · rintro (hdone | hall)
      · cases hdone
      · exact hall
    · intro hfits id hid
      rw [toldIds_of_unsent hsend hfits] at hid
      exact absurd hid List.not_mem_nil

end Notify

/-- A failed build with a transcript of a given length. -/
def failure (count : Nat) : Notification :=
  ⟨.error, "Job unit from pip has failed.", "http://ci/teams/main/pipelines/pip/jobs/unit/builds/3",
    ⟨"main", "pip", "unit"⟩, String.ofList (List.replicate count 'é')⟩

theorem shownOf_failure {count : Nat} (hcount : count ≤ Markup.transcriptLimit) :
    Markup.shownOf (failure count).output = List.replicate count 'é' :=
  shownOf_replicate (by decide) (by decide) hcount

theorem failure_fits : Portions.size (Markup.format (failure 3)) ≤ messageLimit := by
  rw [Markup.format, Markup.block, shownOf_failure (by decide)]
  decide +kernel

theorem idIn?_accepted : idIn? (some (accepted 42)) = some 42 := by
  decide +kernel

/-- A short notification is taken at once, and its message is remembered. -/
theorem failure_recalled :
    ∃ trace after, Runs (localBot.notify .empty (failure 3)) trace (.ok (), after) ∧
      toldIds trace = [42] ∧ IsRecalled after (failure 3).job 42 := by
  obtain ⟨envelope, henvelope⟩ := exists_envelope
  obtain ⟨trace, htold, hruns⟩ := runs_notify_at_once henvelope failure_fits idIn?_accepted .empty
  have hall := (posted_recalled_iff hruns).1.mpr (.inl rfl)
  rw [htold, List.forall_mem_singleton] at hall
  exact ⟨trace, _, hruns, htold, hall⟩

/-- The first portion of a long notification is taken, and the connection fails at the second. The
message with the first is then not remembered. -/
theorem failure_not_recalled :
    ∃ trace fault after, Runs (localBot.notify .empty (failure 3000)) trace (.error fault, after) ∧
      trace.map Turn.answer = [some (accepted 42), none] ∧ 42 ∈ toldIds trace ∧
      ¬ IsRecalled after (failure 3000).job 42 := by
  obtain ⟨envelope, henvelope⟩ := exists_envelope
  have hthree : (Portions.ofText messageLimit (Markup.format (failure 3000))).length = 3 := by
    rw [Markup.format, Markup.block, shownOf_failure (by decide)]
    decide +kernel
  obtain ⟨start, lost, last, hportions⟩ := List.length_eq_three.mp hthree
  obtain ⟨trace, fault, hanswers, htold, hruns⟩ :=
    runs_notify_in_part henvelope hportions idIn?_accepted .empty
  refine ⟨trace, fault, .empty, hruns, hanswers, by simp [htold], ?_⟩
  rintro (hrecalled | hmany)
  · cases hrecalled
  · revert hmany
    decide

end BuildHerald.Proofs.NotifiedMessages
