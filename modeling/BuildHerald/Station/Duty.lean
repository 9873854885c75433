import BuildHerald.Herald.Basic
import BuildHerald.Station.Startup
import BuildHerald.Telegram.Listener
import BuildHerald.Transcript

namespace BuildHerald.Station

open BuildHerald.Herald BuildHerald.Time

/-- What the program remembers between the inputs that it handles. -/
structure Duty where
  herald : Herald
  memory : Telegram.Recall
  listener : Telegram.Listener
  /-- Where replies to the commands of the bot's chats go. -/
  orders : Table Ticket Telegram.Order
  /-- The ticket of the next command. -/
  next : Ticket
  /-- Whether lines that are typed are still read. -/
  reading : Bool

namespace Duty

def fresh : Duty :=
  ⟨.fresh, .empty, .fresh, .empty, 0, true⟩

end Duty

/-- What the herald of a station goes by. -/
def settings (station : Station) : Herald.Settings :=
  ⟨station.client.base, station.watch.muteSpan⟩

/-- The transcript of a build; empty if its events cannot be had. -/
def transcribe (client : Server.Client) (build : Nat) : Work String := do
  match ← Work.exchange (client.events build) with
  | .ok (some items) => pure (Transcript.ofItems items)
  | .ok none | .error _ => pure ""

/-- Delivers a notification to the chat. -/
def deliver (channel : Channel) (notification : Notification) (duty : Duty) :
    Work (Except ChatFault Unit × Duty) :=
  match channel with
  | .console => do
      Work.print (Chat.Console.shown notification)
      Work.note Chat.Console.prompt
      pure (.ok (), duty)
  | .telegram bot => do
      let (result, memory) ← Work.exchange (bot.notify duty.memory notification)
      pure (result, { duty with memory := memory })

/-- Sends a line to the issuer of a command. -/
def reply (channel : Channel) (ticket : Ticket) (line : String) (duty : Duty) : Work Unit :=
  match channel with
  | .console => Work.print (line ++ "\n")
  | .telegram bot =>
      match duty.orders.get? ticket with
      | some order => do
          let _ ← Work.exchange (bot.send (order.reply line))
          pure ()
      | none => pure ()

/-- Does an errand of the herald. -/
def perform (station : Station) : (errand : Errand) → Duty → Work (errand.Answer × Duty)
  | .transcribe build, duty => do
      let text ← transcribe station.client build
      pure (text, duty)
  | .start job, duty => do
      let answer ← Work.exchange (station.client.start job)
      pure (answer.map (·.id), duty)
  | .setPaused scope job paused, duty => do
      let answer ← Work.exchange (station.client.setPaused scope job paused)
      pure (answer, duty)
  | .notify notification, duty => deliver station.channel notification duty
  | .reply ticket line, duty => do
      reply station.channel ticket line duty
      pure ((), duty)
  | .close ticket, duty => pure ((), { duty with orders := duty.orders.erase ticket })

/-- Handles an input. -/
def handle (station : Station) (now : Instant) (input : Input) (duty : Duty) : Work Duty := do
  let course := duty.herald.handle station.settings now input
  let (herald, duty) ← course.interpretWith station.perform duty
  pure { duty with herald := herald }

/-- Handles a finished build. -/
def handleBuild (station : Station) (now : Instant) (build : Build) (duty : Duty) : Work Duty :=
  station.handle now (.build build) duty

/-- Handles a line of chat on the console. -/
def handleLine (station : Station) (now : Instant) (line : String) (duty : Duty) : Work Duty :=
  match Chat.Command.ofLine? station.watch.team line with
  | some command => station.handle now (.command duty.next command) { duty with next := duty.next + 1 }
  | none => do
      Work.note Chat.Console.prompt
      pure duty

/-- Handles a line that is typed. Only a chat on the console reads such lines, and only up to the first
that is no text. -/
def handleTyped (station : Station) (now : Instant) (typed : List UInt8) (duty : Duty) :
    Work Duty :=
  match station.channel, duty.reading, Chat.Console.line? typed with
  | .console, true, some line => station.handleLine now line duty
  | .console, true, none => pure { duty with reading := false }
  | _, _, _ => pure duty

/-- Handles an order from a chat of the bot. -/
def handleOrder (station : Station) (now : Instant) (order : Telegram.Order) (duty : Duty) :
    Work Duty :=
  station.handle now (.command duty.next order.command)
    { duty with next := duty.next + 1, orders := duty.orders.put duty.next order }

/-- Handles orders in turn. -/
def handleOrders (station : Station) (now : Instant) : List Telegram.Order → Duty → Work Duty
  | [], duty => pure duty
  | order :: rest, duty => do
      let duty ← station.handleOrder now order duty
      station.handleOrders now rest duty

/-- Handles what came of a poll of the bot's server. -/
def handleUpdates (station : Station) (now : Instant) (bot : Telegram.Bot)
    (heard : Option (List Json.Value)) (duty : Duty) : Work Duty :=
  let (listener, orders) := duty.listener.hear bot duty.memory heard
  station.handleOrders now orders { duty with listener := listener }

end BuildHerald.Station
