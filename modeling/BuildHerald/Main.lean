import BuildHerald.Live.Fetch
import BuildHerald.Station.Duty
import Std.Async.Signal
import Std.Sync.Channel

namespace BuildHerald.Live

open BuildHerald.Time Std.Async

/-- The environment variables that are looked at. -/
def watched : List String :=
  ["CONCOURSE_URL", "CONCOURSE_TEAM", "CONCOURSE_TOKEN", "CONCOURSE_USERNAME", "CONCOURSE_PASSWORD",
    "CONCOURSE_TIMEOUT_SECS", "BUILDWATCH_POLL_INTERVAL_SECS", "BUILDWATCH_DEFAULT_MUTE_MIN",
    "TELEGRAM_BOT_TOKEN", "TELEGRAM_CHAT_ID", "TELEGRAM_ALLOWED_USERS"]

def environment : IO Settings.Environment := do
  let mut set := []
  for name in watched do
    if let some text ← IO.getEnv name then
      set := (name, Text.Utf8.ofString text) :: set
  return set

/-- Does what a course of acts asks for. -/
def perform {α : Type} (silence : Span) : Station.Work α → IO α
  | .done result => return result
  | .ask (.request request) next => do
      let outcome ← fetch silence request
      perform silence (next outcome)
  | .ask (.print text) next => do
      IO.print text
      (← IO.getStdout).flush
      perform silence (next ())
  | .ask (.note text) next => do
      IO.eprint text
      perform silence (next ())

/-- How long the other side of a connection may be silent. The server of a bot may be silent for as
long as it waits for updates. -/
def silence (settings : Settings.Environment) : Span :=
  match Settings.Connection.ofEnvironment settings with
  | .ok connection => connection.timeout
  | .error _ => .ofSeconds 30

/-- What comes in from the chat. -/
inductive Heard
  | typed (line : List UInt8)
  | polled (updates : List Json.Value)

def now : IO Instant := do
  let time ← Std.Time.Timestamp.now
  return ⟨time.toNanosecondsSinceUnixEpoch.val⟩

/-- Follows the build list, and hands finished builds on one by one. The next query is due at `due`;
queries that were missed are made up for. -/
partial def follow (station : Station) (quiet : Span) (builds : Std.CloseableChannel Build)
    (due : Nat) (watch : Feed.Watch) : IO Unit := do
  if ← builds.isClosed then return
  match watch.query? station.watch.pageSize with
  | some query =>
      let reply ← perform quiet (.exchange (station.client.list query))
      let asked ← match watch with
        | .starting => IO.monoMsNow
        | _ => pure due
      follow station quiet builds asked (watch.answered station.watch.pageSize reply)
  | none =>
      match watch with
      | .offering _ build _ =>
          match ← IO.wait (← builds.send build) with
          | .ok () => follow station quiet builds due watch.handedOn
          | .error _ => return
      | .resting _ =>
          let due := due + station.watch.interval.millis
          let wait := due - (← IO.monoMsNow)
          if 0 < wait then (sleep (.ofNat wait)).block
          follow station quiet builds due watch.ticked
      | _ => let _ ← builds.close.toBaseIO

/-- Reads lines that are typed, up to the end of the input. -/
partial def listen (heard : Std.CloseableChannel Heard) (line : List UInt8) : IO Unit := do
  if ← heard.isClosed then return
  let input ← IO.getStdin
  match (← input.read 1).toList with
  | [] =>
      if !line.isEmpty then let _ ← heard.send (.typed line.reverse)
      let _ ← heard.close.toBaseIO
  | 10 :: _ =>
      let _ ← heard.send (.typed line.reverse)
      listen heard []
  | b :: _ => listen heard (b :: line)

/-- Polls the server of a bot for updates. -/
partial def poll (bot : Telegram.Bot) (heard : Std.CloseableChannel Heard)
    (listener : Telegram.Listener) : IO Unit := do
  if ← heard.isClosed then return
  let quiet := Span.ofSeconds (2 * Telegram.Listener.patience)
  match ← perform quiet (.exchange (listener.poll bot)) with
  | some updates =>
      let _ ← heard.send (.polled updates)
      poll bot heard (listener.hear bot .empty (some updates)).1
  | none =>
      (sleep (.ofNat Telegram.Listener.pause)).block
      poll bot heard listener

/-- Handles builds and what comes in from the chat, one after the other, as long as either may come. -/
partial def attend (station : Station) (quiet : Span) (builds : Std.CloseableChannel Build)
    (heard : Std.CloseableChannel Heard) (buildsOpen commandsOpen : Bool)
    (duty : Station.Duty) : IO Unit := do
  let fromFeed : Selectable (Option (Build ⊕ Heard) × Bool) :=
    .case builds.recvSelector fun build => return (build.map .inl, true)
  let fromChat : Selectable (Option (Build ⊕ Heard) × Bool) :=
    .case heard.recvSelector fun input => return (input.map .inr, false)
  let sources := (if buildsOpen then #[fromFeed] else #[]) ++
    (if commandsOpen then #[fromChat] else #[])
  if sources.isEmpty then return
  match ← (Selectable.one sources).block with
  | (none, true) => attend station quiet builds heard false commandsOpen duty
  | (none, false) => attend station quiet builds heard buildsOpen false duty
  | (some input, _) =>
      let time ← now
      let duty ← perform quiet <|
        match input, station.channel with
        | .inl build, _ => station.handleBuild time build duty
        | .inr (.typed line), _ => station.handleTyped time line duty
        | .inr (.polled updates), .telegram bot => station.handleUpdates time bot (some updates) duty
        | .inr (.polled _), .console => pure duty
      attend station quiet builds heard buildsOpen (commandsOpen && duty.reading) duty

/-- Watches builds and takes commands until there is nothing more to wait for, or until it is
interrupted. -/
def watch (station : Station) (quiet : Span) : IO Unit := do
  let builds ← Std.CloseableChannel.new (some 1)
  let heard ← Std.CloseableChannel.new
  let interrupt ← (← Std.Async.Signal.Waiter.mk .sigint false).wait
  let stop : IO Unit := do
    let _ ← builds.close.toBaseIO
    let _ ← heard.close.toBaseIO
  let _ ← IO.mapTask (fun _ => stop) interrupt
  let following ← IO.asTask (follow station quiet builds 0 .starting) .dedicated
  let hearing ← IO.asTask
    (match station.channel with
      | .console => listen heard []
      | .telegram bot => poll bot heard .fresh) .dedicated
  attend station quiet builds heard true true .fresh
  let _ ← IO.wait following
  let _ ← IO.wait hearing

end BuildHerald.Live

open BuildHerald BuildHerald.Live

/-- Announces what becomes of builds, and obeys commands from the chat, until it is interrupted. -/
def main : IO UInt32 := do
  let settings ← environment
  let quiet := silence settings
  match ← perform quiet (Station.start settings) with
  | none => return 1
  | some station =>
      watch station quiet
      return 0
