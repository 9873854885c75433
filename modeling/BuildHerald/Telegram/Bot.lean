import BuildHerald.Fault
import BuildHerald.Http.Exchange
import BuildHerald.Settings
import BuildHerald.Telegram.Markup
import BuildHerald.Telegram.Portions
import BuildHerald.Telegram.Recall

namespace BuildHerald.Telegram

open BuildHerald.Http BuildHerald.Json

/-- The bot as it talks to the server of its messenger. -/
structure Bot where
  settings : Settings.Bot
  /-- The address of the server. -/
  base : String
  /-- The team of jobs that are named without one. -/
  team : String
  deriving DecidableEq, Repr

namespace Bot

/-- The name of the chat that the bot takes part in. -/
def name : String := "telegram"

/-- The server that bots talk to. -/
def usualBase : String := "https://api.telegram.org"

/-- The address of a method of the server. -/
def address (bot : Bot) (method : String) : String :=
  bot.base ++ "/bot" ++ bot.settings.token ++ "/" ++ method

/-- Calls a method with arguments. -/
def post (bot : Bot) (method : String) (arguments : Value) : Exchange (Except Fault Response) :=
  Draft.send { method := .post, address := bot.address method, body := some arguments }

/-- A message: what it says, in which chat, and to which message it is a reply. -/
structure Message where
  chat : String
  text : List Char
  replyTo : Option Int

/-- The arguments that send a message, as marked-up or as plain text. -/
def Message.arguments (message : Message) (markedUp : Bool) : Value :=
  .object (
    [("chat_id", .string message.chat), ("disable_web_page_preview", .bool true)] ++
    (if markedUp then [("parse_mode", .string "Markdown")] else []) ++
    (message.replyTo.map fun id => ("reply_to_message_id", Json.number (.int id))).toList ++
    [("text", .string (String.ofList message.text))])

/-- The id of a message that was sent, if the server tells it. -/
def sentId? (response : Response) : Option Int := do
  let answer ← response.value?
  let result ← answer.get? "result"
  let id ← result.get? "message_id"
  id.int64?

/-- Sends a message that fits as one. If the server does not take it as marked-up text, it is sent once
more as plain text. -/
def sendWhole (bot : Bot) (message : Message) : Exchange (Except ChatFault (Option Int)) := do
  match ← bot.post "sendMessage" (message.arguments true) with
  | .error fault => pure (.error (.sendFailed name fault.brief))
  | .ok markedUp =>
      if markedUp.isSuccess then pure (.ok (sentId? markedUp))
      else
        match ← bot.post "sendMessage" (message.arguments false) with
        | .error fault => pure (.error (.sendFailed name fault.brief))
        | .ok plain =>
            if plain.isSuccess then pure (.ok (sentId? plain))
            else
              pure (.error (.sendFailed name ("sendMessage failed (markdown: " ++
                Status.text markedUp.status ++ ", plain: " ++ plain.text ++ ")")))

/-- Sends messages in order, up to the first that fails, and collects their ids. -/
def sendAll (bot : Bot) : List Message → Exchange (Except ChatFault (List Int))
  | [] => pure (.ok [])
  | message :: rest => do
      match ← bot.sendWhole message with
      | .error fault => pure (.error fault)
      | .ok id? => do
          match ← bot.sendAll rest with
          | .error fault => pure (.error fault)
          | .ok ids => pure (.ok (id?.toList ++ ids))

/-- Sends a message, in portions if it is too long. -/
def send (bot : Bot) (message : Message) : Exchange (Except ChatFault (List Int)) :=
  bot.sendAll ((Portions.ofText messageLimit message.text).map fun text =>
    { message with text := text })

/-- Delivers a notification to the chat of the bot. When it was sent as a whole, its messages are
remembered. -/
def notify (bot : Bot) (memory : Recall) (notification : Notification) :
    Exchange (Except ChatFault Unit × Recall) := do
  let message : Message := ⟨bot.settings.chat, Markup.format notification, none⟩
  match ← bot.send message with
  | .error fault => pure (.error fault, memory)
  | .ok ids => pure (.ok (), memory.remember ids notification.job)

/-- Makes sure that the server knows the bot. -/
def introduce (bot : Bot) : Exchange (Except ChatFault Unit) := do
  match ← Draft.send { method := .get, address := bot.address "getMe" } with
  | .error fault => pure (.error (.startupFailed name fault.brief))
  | .ok response =>
      if response.isSuccess then pure (.ok ())
      else pure (.error (.startupFailed name ("getMe returned " ++ Status.text response.status)))

/-- Whether someone who goes by one of these names may give commands. -/
def allows (bot : Bot) (names : List String) : Bool :=
  bot.settings.allowed.any fun user => user == "*" || names.contains user

end Bot

end BuildHerald.Telegram
