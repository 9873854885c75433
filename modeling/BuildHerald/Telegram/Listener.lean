import BuildHerald.Telegram.Update

namespace BuildHerald.Telegram

open BuildHerald.Http BuildHerald.Json

/-- The part of the bot that asks the server for updates. -/
structure Listener where
  /-- The smallest id of an update that it wants. -/
  offset : Int
  /-- Whether anybody still takes orders. When nobody does, it asks no more. -/
  heard : Bool
  deriving DecidableEq, Repr

namespace Listener

/-- How many seconds the server may wait for an update to come. -/
def patience : Nat := 30

/-- How many milliseconds the listener waits after a poll that failed. -/
def pause : Nat := 5000

def fresh : Listener :=
  ⟨0, true⟩

/-- The arguments of a poll. -/
def arguments (listener : Listener) : Value :=
  .object
    [("allowed_updates", .array [.string "message"]), ("offset", Json.number (.int listener.offset)),
     ("timeout", Json.number (.int patience))]

/-- The updates in a response. A response without a list of them has none. -/
def updates? (response : Response) : Option (List Value) :=
  response.value?.map fun answer => ((answer.get? "result").bind (·.items?)).getD []

/-- Polls the server. Nothing comes back if the poll fails. -/
def poll (bot : Bot) (listener : Listener) : Exchange (Option (List Value)) := do
  match ← bot.post "getUpdates" listener.arguments with
  | .ok response => pure (updates? response)
  | .error _ => pure none

/-- Moves past an update. One without a readable id is left where it is. -/
def pass (listener : Listener) (update : Value) : Listener :=
  match intMember? update "update_id" with
  | some id => { listener with offset := id + 1 }
  | none => listener

/-- Takes in updates in order, and gives the orders among them. -/
def takeIn (bot : Bot) (memory : Recall) (listener : Listener) :
    List Value → Listener × List Order
  | [] => (listener, [])
  | update :: rest =>
      let (after, orders) := takeIn bot memory (listener.pass update) rest
      (after, (bot.order? memory update).toList ++ orders)

/-- Takes in what came of a poll. A failed one changes nothing. -/
def hear (bot : Bot) (memory : Recall) (listener : Listener) :
    Option (List Value) → Listener × List Order
  | some updates => listener.takeIn bot memory updates
  | none => (listener, [])

/-- Nobody takes orders any more. -/
def ignored (listener : Listener) : Listener :=
  { listener with heard := false }

end Listener

end BuildHerald.Telegram
