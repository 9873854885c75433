import BuildHerald.Chat.Console
import BuildHerald.Server.Client
import BuildHerald.Station.Act
import BuildHerald.Telegram.Bot

namespace BuildHerald

/-- The chat that the program takes part in. -/
inductive Channel
  | console
  | telegram (bot : Telegram.Bot)
  deriving DecidableEq, Repr

def Channel.name : Channel → String
  | console => Chat.Console.name
  | telegram _ => Telegram.Bot.name

/-- The chat that the environment asks for. -/
def Channel.ofEnvironment (environment : Settings.Environment) (team : String) :
    Except SettingFault Channel := do
  match ← Settings.Bot.ofEnvironment? environment with
  | some settings => .ok (telegram ⟨settings, Telegram.Bot.usualBase, team⟩)
  | none => .ok console

/-- What the program works with once it has started. -/
structure Station where
  client : Server.Client
  watch : Settings.Watch
  channel : Channel

namespace Station

/-- What is said when the program starts. -/
def greeting (watch : Settings.Watch) (connection : Settings.Connection) : String :=
  "👀 buildwatch v0.1.0\n" ++
    "   Concourse: " ++ connection.url ++ " (team " ++ connection.team ++ ")\n" ++
    "   Poll interval: " ++ toString watch.interval.seconds ++ "s\n"

/-- What is said about the chat. -/
def introduction : Channel → String
  | .console => "   Chat: cli. Type a command and press Enter.\n\n"
  | .telegram bot => "   Chat: telegram (chat " ++ bot.settings.chat ++ ")\n"

/-- A text with four spaces in front of every line. -/
def indented (text : String) : String :=
  String.ofList (['\n'].intercalate ((Text.pieces (· == '\n') text.toList).map fun line =>
    "    ".toList ++ line))

/-- What is said when the program cannot start. -/
def complaint (problem : String) (cause : Option String) : String :=
  "Error: " ++ problem ++
    (cause.map fun cause => "\n\nCaused by:\n" ++ indented cause).getD "" ++ "\n"

/-- Gives up for a reason. -/
def giveUp (problem : String) (cause : Option String) : Work (Option Station) := do
  Work.note (complaint problem cause)
  pure none

/-- Opens the chat. -/
def openChat : Channel → Work (Except ChatFault Unit)
  | .console => do
      Work.note Chat.Console.prompt
      pure (.ok ())
  | .telegram bot => Work.exchange bot.introduce

/-- Chooses the chat and opens it. -/
def settle (environment : Settings.Environment) (watch : Settings.Watch) (client : Server.Client) :
    Work (Option Station) :=
  match Channel.ofEnvironment environment watch.team with
  | .error fault => giveUp fault.message none
  | .ok channel => do
      Work.note (introduction channel)
      match ← openChat channel with
      | .ok () => pure (some ⟨client, watch, channel⟩)
      | .error fault =>
          giveUp ("starting " ++ channel.name ++ " channel") (some fault.message)

/-- Starts the program, if its environment, the CI server and the chat let it. -/
def start (environment : Settings.Environment) : Work (Option Station) :=
  match Settings.Watch.ofEnvironment environment,
      Settings.Connection.ofEnvironment environment with
  | .error fault, _ => giveUp fault.message none
  | .ok _, .error fault => giveUp fault.message none
  | .ok watch, .ok connection => do
      Work.note (greeting watch connection)
      match ← Work.exchange (Server.Client.connect connection) with
      | .ok client => settle environment watch client
      | .error fault =>
          giveUp ("connecting to Concourse at " ++ connection.url) (some fault.message)

end Station

end BuildHerald
