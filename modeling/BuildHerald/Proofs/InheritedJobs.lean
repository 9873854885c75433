import BuildHerald.Proofs.NotifiedMessages
import BuildHerald.Telegram.Update

/-!
Which job a reply without one is about.

The bot remembers the ids of its messages, and they are unique within a chat only. An id that is replied
to is looked up whatever the chat is in which the reply stands.
-/

namespace BuildHerald.Proofs.InheritedJobs

open BuildHerald.Chat
open BuildHerald.Http
open BuildHerald.Json
open BuildHerald.Telegram
open BuildHerald.Proofs.Conversation
open BuildHerald.Proofs.Listening (Sent localBot)
open BuildHerald.Proofs.NotifiedMessages
open BuildHerald.Proofs.Recollection
open BuildHerald.Proofs.Sending

/-! ### Notifications one after another -/

/-- A notification, and the requests by which it was delivered, as far as it was. -/
structure Posted where
  notification : Notification
  trace : List Sent

/-- The bot has been given notifications one after another, and remembers some of their messages. -/
inductive Notified (bot : Bot) : List Posted → Recall → Prop
  | fresh : Notified bot [] .empty
  | next {past : List Posted} {memory after : Recall} {notification : Notification}
      {trace : List Sent} {answer : Except ChatFault Unit} :
      Notified bot past memory → Runs (bot.notify memory notification) trace (answer, after) →
        Notified bot (past ++ [⟨notification, trace⟩]) after

/-- The request posts a message in the chat. -/
def IsIn (chat : Int) (request : Request) : Prop :=
  ∃ body, request.body = some body ∧ body.get? "chat_id" = some (.string (toString chat))

/-- The message was posted in the chat for a notification about the job. -/
def IsAbout (past : List Posted) (chat : Int) (job : Job) (id : Int) : Prop :=
  ∃ posted ∈ past, posted.notification.job = job ∧ id ∈ toldIds posted.trace ∧
    ∀ sent ∈ posted.trace, IsIn chat sent.question

section Past

variable {bot : Bot} {past : List Posted} {memory after : Recall} {notification : Notification}
  {trace : List Sent} {answer : Except ChatFault Unit} {chat : Int} {job : Job} {id : Int}

/-- What is remembered after a notification was remembered before it, or comes from it. -/
theorem recalled_or_told (hruns : Runs (bot.notify memory notification) trace (answer, after))
    (hjob : after.get? id = some job) :
    memory.get? id = some job ∨ notification.job = job ∧ id ∈ toldIds trace := by
  obtain ⟨-, -, hafter⟩ | ⟨fault, -, -, rfl⟩ := runs_notify_iff.mp hruns
  · rw [hafter, get?_remember, get?_recorded] at hjob
    split at hjob
    · split at hjob
      · next hid => exact .inr ⟨Option.some.inj hjob, hid⟩
      · exact .inl hjob
    · cases hjob
  · exact .inl hjob

theorem isIn_of_notify (hchat : bot.settings.chat = toString chat)
    (hruns : Runs (bot.notify memory notification) trace (answer, after)) :
    ∀ sent ∈ trace, IsIn chat sent.question := by
  have haddressed : ∀ sent ∈ trace, IsAddressed (posting bot notification) sent.question := by
    obtain ⟨hsend, -⟩ | ⟨fault, hsend, -⟩ := runs_notify_iff.mp hruns
    · exact isAddressed_of_send hsend
    · exact isAddressed_of_send hsend
  intro sent hsent
  obtain ⟨body, hbody, hin, -⟩ := haddressed sent hsent
  refine ⟨body, hbody, ?_⟩
  rw [← hchat]
  exact hin

theorem isAbout_of_recalled (hchat : bot.settings.chat = toString chat)
    (hnotified : Notified bot past memory) (hjob : memory.get? id = some job) :
    IsAbout past chat job id := by
  induction hnotified with
  | fresh => cases hjob
  | next _ hruns ih =>
      obtain hbefore | ⟨hsame, hid⟩ := recalled_or_told hruns hjob
      · obtain ⟨posted, hmem, habout⟩ := ih hbefore
        exact ⟨posted, List.mem_append_left _ hmem, habout⟩
      · exact ⟨_, List.mem_append_right _ List.mem_cons_self, hsame, hid,
          isIn_of_notify hchat hruns⟩

end Past

/-! ### Replies -/

/-- The command is about no other job than that of the message of the chat that is replied to. -/
def InheritsIn (past : List Posted) (chat : Int) (incoming : Incoming) (command : Command) : Prop :=
  ∀ job, command.job = some job → incoming.chat = chat ∧
    ∃ id, incoming.replyTo = some id ∧ IsAbout past chat job id

section Reply

variable {bot : Bot} {past : List Posted} {memory : Recall} {chat : Int} {incoming : Incoming}
  {parsed : Command}

theorem command?_of_unnamed (hparsed : Command.ofLine? bot.team incoming.text = some parsed)
    (hunnamed : parsed.job = none) :
    bot.command? memory incoming =
      some { parsed with job := incoming.replyTo.bind memory.get? } := by
  rw [Bot.command?, hparsed, Option.map_some, hunnamed]

/-- A reply that names no job is about the job of the message that it replies to, but also if it stands
in another chat than that message. -/
theorem inherits_in_chat_iff (hchat : bot.settings.chat = toString chat)
    (hnotified : Notified bot past memory)
    (hparsed : Command.ofLine? bot.team incoming.text = some parsed)
    (hunnamed : parsed.job = none) :
    ∃ command, bot.command? memory incoming = some command ∧
      (∀ job, command.job = some job →
        ∃ id, incoming.replyTo = some id ∧ IsAbout past chat job id) ∧
      (InheritsIn past chat incoming command ↔ incoming.chat = chat ∨ command.job = none) ∧
      ∀ other, bot.command? memory { incoming with chat := other } = some command := by
  have habout : ∀ job, incoming.replyTo.bind memory.get? = some job →
      ∃ id, incoming.replyTo = some id ∧ IsAbout past chat job id := by
    intro job hjob
    obtain ⟨id, hreply, hget⟩ := Option.bind_eq_some_iff.mp hjob
    exact ⟨id, hreply, isAbout_of_recalled hchat hnotified hget⟩
  refine ⟨_, command?_of_unnamed hparsed hunnamed, habout, ⟨?_, ?_⟩,
    fun other => command?_of_unnamed hparsed hunnamed⟩
  · intro hinherits
    obtain hnone | ⟨job, hjob⟩ := Option.eq_none_or_eq_some (incoming.replyTo.bind memory.get?)
    · exact .inr hnone
    · exact .inl (hinherits job hjob).1
  · rintro (hsame | hnone) job hjob
    · exact ⟨hsame, habout job hjob⟩
    · rw [hnone] at hjob
      cases hjob

end Reply

/-- The bot in a chat with a numeric id. -/
def groupBot : Bot :=
  { localBot with settings := { localBot.settings with chat := "-100" } }

def rerunReply (chat : Int) : Incoming :=
  ⟨1, chat, 9, some 42, "ann", none, "rerun"⟩

def rerunUnit : Command :=
  ⟨"rerun", [], some ⟨"main", "pip", "unit"⟩⟩

theorem parsed_rerun : Command.ofLine? "main" "rerun" = some ⟨"rerun", [], none⟩ := by
  decide +kernel

theorem notified_failure : ∃ past memory, Notified groupBot past memory ∧
    ∀ chat, groupBot.command? memory (rerunReply chat) = some rerunUnit := by
  obtain ⟨envelope, henvelope⟩ := exists_envelope
  have hgroup : envelope? groupBot = .ok envelope := henvelope
  obtain ⟨trace, -, hruns⟩ := runs_notify_at_once hgroup failure_fits idIn?_accepted .empty
  have hremembered : (Recall.remember .empty [42] (failure 3).job).get? 42 =
      some ⟨"main", "pip", "unit"⟩ := by
    decide +kernel
  refine ⟨_, _, .next .fresh hruns, ?_⟩
  intro chat
  rw [command?_of_unnamed parsed_rerun rfl]
  simp [rerunReply, rerunUnit, hremembered]

/-- A reply in the chat of the bot is about the job of the message. -/
theorem rerun_inherits_in_chat :
    ∃ past memory, Notified groupBot past memory ∧
      groupBot.command? memory (rerunReply (-100)) = some rerunUnit ∧
      InheritsIn past (-100) (rerunReply (-100)) rerunUnit := by
  obtain ⟨past, memory, hnotified, hcommand⟩ := notified_failure
  have hchat : groupBot.settings.chat = toString (-100 : Int) := by decide
  have hparsed : Command.ofLine? groupBot.team (rerunReply (-100)).text =
      some ⟨"rerun", [], none⟩ :=
    parsed_rerun
  obtain ⟨command, hsome, -, hinherits, -⟩ :=
    inherits_in_chat_iff hchat hnotified hparsed rfl
  rw [hcommand (-100)] at hsome
  obtain rfl := Option.some.inj hsome
  exact ⟨past, memory, hnotified, hcommand (-100), hinherits.mpr (.inl rfl)⟩

/-- A reply in another chat to a message there that happens to have the same id is about that job
too. -/
theorem rerun_inherits_elsewhere :
    ∃ past memory, Notified groupBot past memory ∧
      groupBot.command? memory (rerunReply 555) = some rerunUnit ∧
      ¬ InheritsIn past (-100) (rerunReply 555) rerunUnit := by
  obtain ⟨past, memory, hnotified, hcommand⟩ := notified_failure
  refine ⟨past, memory, hnotified, hcommand 555, ?_⟩
  intro hinherits
  obtain ⟨hsame, -⟩ := hinherits _ rfl
  revert hsame
  decide

end BuildHerald.Proofs.InheritedJobs
