import BuildHerald.Fault
import BuildHerald.Text.Blank
import BuildHerald.Text.Numeral
import BuildHerald.Text.Quoted
import BuildHerald.Text.Utf8
import BuildHerald.Time.Span

namespace BuildHerald.Settings

open BuildHerald.Time

/-- The environment variables that are set. -/
abbrev Environment := List (String × List UInt8)

namespace Environment

/-- The text of a variable. One that is not well-formed UTF-8 counts as not set. -/
def text? (environment : Environment) (name : String) : Option String :=
  ((environment.find? (·.1 == name)).bind fun (_, bytes) => Text.Utf8.decode? bytes).map
    String.ofList

/-- The number in a variable, if it is set. -/
def number? (environment : Environment) (name : String) : Except SettingFault (Option Nat) :=
  match environment.text? name with
  | none => .ok none
  | some text =>
      match Text.readNumeral Text.wordBound (Text.trim text.toList) with
      | .ok n => .ok (some n)
      | .error problem => .error (.invalid name (Text.quoted text ++ ": " ++ problem.message))

/-- A number of seconds in a variable, which must not be zero. -/
def seconds (environment : Environment) (name : String) (default : Nat) :
    Except SettingFault Span := do
  match ← environment.number? name with
  | some 0 => .error (.invalid name "must be greater than zero")
  | some n => .ok (.ofSeconds n)
  | none => .ok (.ofSeconds default)

/-- A number of minutes in a variable. The seconds must fit a word of 64 bits. -/
def minutes (environment : Environment) (name : String) (default : Nat) :
    Except SettingFault Span := do
  match ← environment.number? name with
  | some n =>
      if n * 60 < Text.wordBound then .ok (.ofSeconds (n * 60))
      else .error (.invalid name (toString n ++ " minutes is too long"))
  | none => .ok (.ofSeconds (default * 60))

end Environment

/-- The settings of the watch over builds. -/
structure Watch where
  /-- How often the server is asked for builds. -/
  interval : Span
  /-- How many builds are asked for at once. -/
  pageSize : Nat
  /-- How long a job is muted if the command does not say. -/
  muteSpan : Span
  /-- The team of jobs that are named without one. -/
  team : String
  deriving DecidableEq, Repr

/-- The team of jobs that are named without one, unless the environment says otherwise. -/
def defaultTeam : String := "main"

def Watch.ofEnvironment (environment : Environment) : Except SettingFault Watch := do
  .ok {
    interval := ← environment.seconds "BUILDWATCH_POLL_INTERVAL_SECS" 4
    pageSize := 100
    muteSpan := ← environment.minutes "BUILDWATCH_DEFAULT_MUTE_MIN" 30
    team := (environment.text? "CONCOURSE_TEAM").getD defaultTeam }

/-- How to prove to the CI server who one is. -/
inductive Login
  | none
  | token (token : String)
  /-- A name and a password, which are exchanged for a token. -/
  | basic (name password : String)
  deriving DecidableEq, Repr

/-- The settings of the connection to the CI server. -/
structure Connection where
  url : String
  team : String
  login : Login
  /-- How long a call may take, and how long an event stream may be silent. -/
  timeout : Span
  deriving DecidableEq, Repr

/-- An address without the slashes at its end. -/
def withoutTrailingSlashes (url : String) : String :=
  String.ofList (Text.dropEndWhile (· == '/') url.toList)

def Login.ofEnvironment (environment : Environment) : Login :=
  match environment.text? "CONCOURSE_TOKEN", environment.text? "CONCOURSE_USERNAME" with
  | some bearer, _ => .token bearer
  | Option.none, some name => .basic name ((environment.text? "CONCOURSE_PASSWORD").getD "")
  | Option.none, Option.none => .none

def Connection.ofEnvironment (environment : Environment) : Except SettingFault Connection := do
  .ok {
    url := withoutTrailingSlashes
      ((environment.text? "CONCOURSE_URL").getD "http://localhost:8080")
    team := (environment.text? "CONCOURSE_TEAM").getD defaultTeam
    login := .ofEnvironment environment
    timeout := ← environment.seconds "CONCOURSE_TIMEOUT_SECS" 30 }

/-- The settings of the Telegram bot. -/
structure Bot where
  token : String
  /-- The chat that gets notifications. -/
  chat : String
  /-- Names and ids of those who may give commands; an asterisk allows everyone. -/
  allowed : List String
  deriving DecidableEq, Repr

/-- The users in a list with commas between them. -/
def allowedUsers (text : String) : List String :=
  ((Text.pieces (· == ',') text.toList).map Text.trim).filterMap fun user =>
    if user.isEmpty then Option.none else some (String.ofList user)

/-- The settings of the bot, if it is wanted. -/
def Bot.ofEnvironment? (environment : Environment) : Except SettingFault (Option Bot) :=
  match environment.text? "TELEGRAM_BOT_TOKEN" with
  | Option.none => .ok Option.none
  | some token =>
      match environment.text? "TELEGRAM_CHAT_ID" with
      | Option.none => .error (.missing "TELEGRAM_CHAT_ID")
      | some chat =>
          let allowed := allowedUsers ((environment.text? "TELEGRAM_ALLOWED_USERS").getD "*")
          .ok (some ⟨token, chat, allowed⟩)

end BuildHerald.Settings
