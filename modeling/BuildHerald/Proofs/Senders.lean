import BuildHerald.Proofs.Listening

/-!
Whose orders the bot takes.

The list of those who may give orders holds usernames and ids. The sender of an update is looked up in
it by both, and one without a username is looked up as `unknown`.
-/

namespace BuildHerald.Proofs.Senders

open BuildHerald.Chat
open BuildHerald.Json
open BuildHerald.Telegram
open BuildHerald.Proofs.Listening (localBot orders_takeIn order?_eq_some_iff)

/-! ### The sender of an update -/

/-- What an update tells of its sender. -/
def sender (update : Value) : Value :=
  ((update.get? "message").bind (·.get? "from")).getD .null

def username? (update : Value) : Option String :=
  ((sender update).get? "username").bind (·.text?)

def userId? (update : Value) : Option Int :=
  intMember? (sender update) "id"

/-- The username of the sender is on the list, or the decimal form of its id is. -/
def IsListed (allowed : List String) (update : Value) : Prop :=
  (∃ name, username? update = some name ∧ name ∈ allowed) ∨
    ∃ id, userId? update = some id ∧ toString id ∈ allowed

/-- The sender has no username, and one who is called `unknown` is on the list. -/
def IsMistaken (allowed : List String) (update : Value) : Prop :=
  username? update = none ∧ "unknown" ∈ allowed

/-- The text of an update is a command, and this is the order that it means whoever sent it. -/
def Means (bot : Bot) (memory : Recall) (update : Value) (order : Order) : Prop :=
  ∃ incoming command, Incoming.ofUpdate? update = some incoming ∧
    bot.command? memory incoming = some command ∧
      order = ⟨command, incoming.chat, incoming.message⟩

theorem sender_of_ofUpdate? {update : Value} {incoming : Incoming}
    (hincoming : Incoming.ofUpdate? update = some incoming) :
    incoming.username = (username? update).getD "unknown" ∧ incoming.userId = userId? update := by
  unfold Incoming.ofUpdate? at hincoming
  simp only [Option.bind_eq_bind, Option.bind_eq_some_iff, Option.some.injEq] at hincoming
  obtain ⟨id, -, message, hmessage, text, -, chat, -, messageId, -, rfl⟩ := hincoming
  have hsender : sender update = (message.get? "from").getD .null := by
    rw [sender, hmessage, Option.bind_some]
  rw [username?, userId?, hsender]
  exact ⟨rfl, rfl⟩

section Bot

variable {bot : Bot} {memory : Recall} {update : Value} {incoming : Incoming} {order : Order}

theorem allows_iff (hstar : "*" ∉ bot.settings.allowed) (names : List String) :
    bot.allows names = true ↔ ∃ name ∈ names, name ∈ bot.settings.allowed := by
  rw [Bot.allows, List.any_eq_true]
  constructor
  · rintro ⟨user, huser, hsome⟩
    rw [Bool.or_eq_true, beq_iff_eq, List.contains_iff_mem] at hsome
    obtain rfl | hname := hsome
    · exact absurd huser hstar
    · exact ⟨user, hname, huser⟩
  · rintro ⟨name, hname, huser⟩
    refine ⟨name, huser, ?_⟩
    rw [Bool.or_eq_true, List.contains_iff_mem]
    exact .inr hname

theorem allows_names_iff (hstar : "*" ∉ bot.settings.allowed)
    (hincoming : Incoming.ofUpdate? update = some incoming) :
    bot.allows incoming.names = true ↔
      IsListed bot.settings.allowed update ∨ IsMistaken bot.settings.allowed update := by
  obtain ⟨hname, hid⟩ := sender_of_ofUpdate? hincoming
  rw [allows_iff hstar, Incoming.names, hname, hid, IsListed, IsMistaken]
  cases username? update <;> cases userId? update <;> simp [or_comm]

theorem order?_eq_some_iff_means (hstar : "*" ∉ bot.settings.allowed) :
    bot.order? memory update = some order ↔
      Means bot memory update order ∧
        (IsListed bot.settings.allowed update ∨ IsMistaken bot.settings.allowed update) := by
  rw [order?_eq_some_iff]
  constructor
  · rintro ⟨incoming, command, hincoming, hallows, hcommand, horder⟩
    exact ⟨⟨incoming, command, hincoming, hcommand, horder⟩,
      (allows_names_iff hstar hincoming).mp hallows⟩
  · rintro ⟨⟨incoming, command, hincoming, hcommand, horder⟩, hsender⟩
    exact ⟨incoming, command, hincoming, (allows_names_iff hstar hincoming).mpr hsender, hcommand,
      horder⟩

end Bot

/-! ### Whole runs -/

/-- What came of a poll: the messages that are remembered then, and the updates unless it failed. -/
structure Heard where
  memory : Recall
  updates? : Option (List Value)

def Heard.updates (heard : Heard) : List Value :=
  heard.updates?.getD []

/-- The orders that a listener gives for one poll after another. -/
def ordersFrom (bot : Bot) (listener : Listener) : List Heard → List Order
  | [] => []
  | heard :: rest =>
      (listener.hear bot heard.memory heard.updates?).2 ++
        ordersFrom bot (listener.hear bot heard.memory heard.updates?).1 rest

theorem orders_hear (bot : Bot) (listener : Listener) (heard : Heard) :
    (listener.hear bot heard.memory heard.updates?).2 =
      heard.updates.filterMap (bot.order? heard.memory) := by
  obtain ⟨memory, updates?⟩ := heard
  cases updates? with
  | none => rfl
  | some updates => exact orders_takeIn bot memory listener updates

theorem ordersFrom_eq (bot : Bot) (listener : Listener) (polls : List Heard) :
    ordersFrom bot listener polls =
      polls.flatMap fun heard => heard.updates.filterMap (bot.order? heard.memory) := by
  induction polls generalizing listener with
  | nil => rfl
  | cons heard rest ih => rw [ordersFrom, orders_hear, ih, List.flatMap_cons]

/-- A command of a sender who is told of by these members. -/
def pauseBy (members : List (String × Value)) : Value :=
  .object [
    ("message", .object [
      ("chat", .object [("id", .number (.int 555))]), ("from", .object members),
      ("message_id", .number (.int 9)), ("text", .string "/pause main/web/unit")]),
    ("update_id", .number (.int 1))]

def strangerUpdate : Value :=
  pauseBy []

def pauseElsewhere : Order :=
  ⟨⟨"pause", [], some ⟨"main", "web", "unit"⟩⟩, 555, 9⟩

theorem parsed_pause (team : String) :
    Command.ofLine? team "/pause main/web/unit" = some pauseElsewhere.command :=
  rfl

theorem means_pauseBy (bot : Bot) (memory : Recall) (members : List (String × Value)) :
    Means bot memory (pauseBy members) pauseElsewhere := by
  refine ⟨_, pauseElsewhere.command, rfl, ?_, rfl⟩
  rw [Bot.command?, parsed_pause]
  rfl

theorem not_isListed_stranger (allowed : List String) : ¬ IsListed allowed strangerUpdate := by
  have hname : username? strangerUpdate = none := rfl
  have hid : userId? strangerUpdate = none := rfl
  simp [IsListed, hname, hid]

/-- An order is given for each command whose sender is on the list, and also for those of senders
without a username if one who is called `unknown` is on the list. -/
theorem listed_senders_only_iff {bot : Bot} (hstar : "*" ∉ bot.settings.allowed) :
    (∀ memory update order, bot.order? memory update = some order ↔
      Means bot memory update order ∧
        (IsListed bot.settings.allowed update ∨ IsMistaken bot.settings.allowed update)) ∧
      (∀ listener polls, ordersFrom bot listener polls =
        polls.flatMap fun heard => heard.updates.filterMap (bot.order? heard.memory)) ∧
      ((∀ listener polls, ∀ order ∈ ordersFrom bot listener polls,
        ∃ heard ∈ polls, ∃ update ∈ heard.updates, Means bot heard.memory update order ∧
          IsListed bot.settings.allowed update) ↔ "unknown" ∉ bot.settings.allowed) := by
  refine ⟨fun _ _ _ => order?_eq_some_iff_means hstar, ordersFrom_eq bot, ?_, ?_⟩
  · intro honly hunknown
    have horder : bot.order? .empty strangerUpdate = some pauseElsewhere :=
      (order?_eq_some_iff_means hstar).mpr ⟨means_pauseBy bot .empty [], .inr ⟨rfl, hunknown⟩⟩
    have hgiven : pauseElsewhere ∈ ordersFrom bot .fresh [⟨.empty, some [strangerUpdate]⟩] := by
      rw [ordersFrom_eq]
      simp [Heard.updates, horder]
    obtain ⟨heard, hheard, update, hupdate, -, hlisted⟩ := honly _ _ _ hgiven
    obtain rfl := List.mem_singleton.mp hheard
    obtain rfl := List.mem_singleton.mp hupdate
    exact not_isListed_stranger _ hlisted
  · intro hunknown listener polls order hgiven
    rw [ordersFrom_eq, List.mem_flatMap] at hgiven
    obtain ⟨heard, hheard, hgiven⟩ := hgiven
    obtain ⟨update, hupdate, horder⟩ := List.mem_filterMap.mp hgiven
    obtain ⟨hmeans, hlisted | ⟨-, hmistaken⟩⟩ := (order?_eq_some_iff_means hstar).mp horder
    · exact ⟨heard, hheard, update, hupdate, hmeans, hlisted⟩
    · exact absurd hmistaken hunknown

/-- The bot takes the order of someone on the list, and none from a stranger. -/
theorem stranger_unheard :
    "*" ∉ localBot.settings.allowed ∧
      localBot.order? .empty (pauseBy [("username", .string "ann")]) = some pauseElsewhere ∧
      localBot.order? .empty strangerUpdate = none := by
  have hstar : "*" ∉ localBot.settings.allowed := by decide
  have hlisted : IsListed localBot.settings.allowed (pauseBy [("username", .string "ann")]) :=
    .inl ⟨"ann", rfl, List.mem_singleton_self _⟩
  obtain ⟨hexactly, -, -⟩ := listed_senders_only_iff hstar
  refine ⟨hstar, (hexactly _ _ _).mpr ⟨means_pauseBy _ _ _, .inl hlisted⟩, ?_⟩
  refine Option.eq_none_iff_forall_ne_some.mpr ?_
  intro order horder
  obtain ⟨-, hstranger | ⟨-, hunknown⟩⟩ := (hexactly _ _ _).mp horder
  · exact not_isListed_stranger _ hstranger
  · revert hunknown
    decide

/-- The bot when one who is called `unknown` may give orders. -/
def trustingBot : Bot :=
  { localBot with settings := { localBot.settings with allowed := ["unknown"] } }

theorem stranger_obeyed :
    "*" ∉ trustingBot.settings.allowed ∧ username? strangerUpdate = none ∧
      userId? strangerUpdate = none ∧ ¬ IsListed trustingBot.settings.allowed strangerUpdate ∧
      ordersFrom trustingBot .fresh [⟨.empty, some [strangerUpdate]⟩] = [pauseElsewhere] :=
  ⟨by decide, rfl, rfl, not_isListed_stranger _, rfl⟩

end BuildHerald.Proofs.Senders
