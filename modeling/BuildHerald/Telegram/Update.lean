import BuildHerald.Chat.Command
import BuildHerald.Telegram.Bot

namespace BuildHerald.Telegram

open BuildHerald.Chat BuildHerald.Json

/-- A text that someone wrote in a chat. -/
structure Incoming where
  update : Int
  chat : Int
  message : Int
  /-- The message that it is a reply to. -/
  replyTo : Option Int
  username : String
  userId : Option Int
  text : String
  deriving DecidableEq, Repr

/-- A member that is an integer of 64 bits. -/
def intMember? (value : Value) (name : String) : Option Int :=
  (value.get? name).bind (·.int64?)

/-- The text that an update tells of, if it tells of one. -/
def Incoming.ofUpdate? (update : Value) : Option Incoming := do
  let id ← intMember? update "update_id"
  let message ← update.get? "message"
  let text ← (message.get? "text").bind (·.text?)
  let sender := (message.get? "from").getD .null
  let chat ← intMember? ((message.get? "chat").getD .null) "id"
  let messageId ← intMember? message "message_id"
  some {
    update := id
    chat := chat
    message := messageId
    replyTo := intMember? ((message.get? "reply_to_message").getD .null) "message_id"
    username := ((sender.get? "username").bind (·.text?)).getD "unknown"
    userId := intMember? sender "id"
    text := text }

/-- What the sender of a text goes by. -/
def Incoming.names (incoming : Incoming) : List String :=
  incoming.username :: (incoming.userId.map toString).toList

/-- A command with the place where its replies go. -/
structure Order where
  command : Command
  chat : Int
  message : Int
  deriving DecidableEq, Repr

/-- The message that carries a line of reply to an order. -/
def Order.reply (order : Order) (line : String) : Bot.Message :=
  ⟨toString order.chat, line.toList, some order.message⟩

namespace Bot

/-- The command in a text. If it names no job and is a reply to a message that is remembered, it is
about the job of that message. -/
def command? (bot : Bot) (memory : Recall) (incoming : Incoming) : Option Command :=
  (Command.ofLine? bot.team incoming.text).map fun command =>
    match command.job with
    | some _ => command
    | none => { command with job := incoming.replyTo.bind memory.get? }

/-- The order that an update means, if its sender may give one. -/
def order? (bot : Bot) (memory : Recall) (update : Value) : Option Order := do
  let incoming ← Incoming.ofUpdate? update
  if bot.allows incoming.names then
    let command ← bot.command? memory incoming
    some ⟨command, incoming.chat, incoming.message⟩
  else none

end Bot

end BuildHerald.Telegram
