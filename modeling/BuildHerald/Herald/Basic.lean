import BuildHerald.Chat.Command
import BuildHerald.Chat.Verb
import BuildHerald.Herald.Change
import BuildHerald.Herald.Errand
import BuildHerald.Herald.Mutes
import BuildHerald.Text.Quoted
import BuildHerald.Time.SpanText

namespace BuildHerald

open BuildHerald.Time BuildHerald.Chat

namespace Herald

/-- What the herald goes by. -/
structure Settings where
  /-- Address of the dashboard; the pages of builds lie below it. -/
  dashboard : String
  /-- How long a job is muted if the command does not say. -/
  muteSpan : Span

end Herald

open Herald

/-- What the herald remembers: the streaks and mutes of jobs, and who waits for the end of a build
that was started from the chat. -/
structure Herald where
  streaks : Streaks
  mutes : Mutes
  awaited : Table Nat Ticket

namespace Herald

def fresh : Herald :=
  ⟨.empty, .empty, .empty⟩

/-- Tells of a change. Whether the notification arrives makes no difference. -/
def announce (settings : Settings) (build : Build) (job : Job) (streak : Streak) (change : Change) :
    Course Unit := do
  let transcript ← if change.showsTranscript then Course.transcribe build.id else pure ""
  let notification := change.notification settings.dashboard build job streak transcript
  let _ ← Course.notify notification
  pure ()

/-- Handles a finished build. One that was started from the chat is reported to whoever started it;
any other is announced if it makes a change, unless its job is muted. -/
def handleBuild (settings : Settings) (now : Instant) (herald : Herald) (build : Build) :
    Course Herald :=
  match herald.awaited.get? build.id with
  | some ticket => do
      Course.reply ticket ("Job " ++ build.status.name ++ ".")
      Course.close ticket
      pure { herald with
        awaited := herald.awaited.erase build.id
        streaks := herald.streaks.record build }
  | none =>
      match build.job? with
      | none => pure herald
      | some job => do
          let streak := herald.streaks.get job
          let (muted, mutes) := herald.mutes.check job now
          if !muted then
            if let some change := Change.between? streak.last build.status then
              announce settings build job streak change
          pure { herald with mutes := mutes, streaks := herald.streaks.record build }

/-- Starts a build of a job. Whoever asked for it waits for its end, in place of anyone who waited for
a build of the same id before. -/
def rerun (herald : Herald) (ticket : Ticket) (job : Job) : Course Herald := do
  Course.reply ticket ("Rerunning " ++ job.display ++ "...")
  match ← Course.start job with
  | .ok id =>
      if let some other := herald.awaited.get? id then
        Course.close other
      pure { herald with awaited := herald.awaited.put id ticket }
  | .error fault =>
      Course.reply ticket ("Failed to rerun " ++ job.display ++ ": " ++ fault.message)
      Course.close ticket
      pure herald

/-- What a pause command is about: the whole pipeline if its first argument says so. -/
def scopeOf (args : List String) : Scope :=
  match args with
  | first :: _ =>
      if Text.asciiLower first.toList = "pipeline".toList then .pipeline else .job
  | [] => .job

/-- What a scope and a job mean, in words. -/
def Scope.describe (job : Job) : Scope → String
  | .pipeline => "Pipeline " ++ job.team ++ "/" ++ job.pipeline
  | .job => "Job " ++ job.display

/-- What is said about an attempt to pause something or to let it go on. -/
def pauseReport (target : String) (paused : Bool) : Except ServerFault Bool → String
  | .ok true => target ++ " is now " ++ (if paused then "paused." else "unpaused.")
  | .ok false => target ++ " is already " ++ (if paused then "paused." else "unpaused.")
  | .error fault =>
      "Could not " ++ (if paused then "pause " else "unpause ") ++ target ++ ": " ++ fault.message

/-- Pauses a job or its pipeline, or lets it go on. -/
def setPaused (ticket : Ticket) (command : Command) (job : Job) (paused : Bool) : Course Unit := do
  let scope := scopeOf command.args
  let result ← Course.setPaused scope job paused
  Course.reply ticket (pauseReport (scope.describe job) paused result)
  Course.close ticket

/-- Until when a mute lasts that is asked for now, or what to answer instead. -/
def muteExpiry (settings : Settings) (now : Instant) (args : List String) :
    Except String Instant :=
  match args with
  | [] =>
      match now.later? settings.muteSpan with
      | some expiry => .ok expiry
      | none => .error "Default mute duration is out of range"
  | arg :: _ =>
      match (Span.ofText? arg.toList).bind now.later? with
      | some expiry => .ok expiry
      | none => .error ("Invalid duration " ++ Text.quoted arg)

/-- Mutes a job. -/
def mute (settings : Settings) (now : Instant) (herald : Herald) (ticket : Ticket)
    (command : Command) (job : Job) : Course Herald :=
  match muteExpiry settings now command.args with
  | .error line => do
      Course.reply ticket line
      Course.close ticket
      pure herald
  | .ok expiry => do
      Course.reply ticket ("Job " ++ job.display ++ " muted until " ++ expiry.text ++ ".")
      Course.close ticket
      pure { herald with mutes := herald.mutes.put job expiry }

/-- Handles a command that cannot be obeyed. -/
def refuse (herald : Herald) (ticket : Ticket) (line : String) : Course Herald := do
  Course.reply ticket line
  Course.close ticket
  pure herald

/-- Handles a command. -/
def handleCommand (settings : Settings) (now : Instant) (herald : Herald) (ticket : Ticket)
    (command : Command) : Course Herald :=
  match Verb.ofName? command.name, command.job with
  | none, _ => refuse herald ticket ("Unknown command: " ++ command.name)
  | some _, none => refuse herald ticket ("Command " ++ command.name ++ " needs a target job.")
  | some .rerun, some job => rerun herald ticket job
  | some .pause, some job => do
      setPaused ticket command job true
      pure herald
  | some .unpause, some job => do
      setPaused ticket command job false
      pure herald
  | some .mute, some job => mute settings now herald ticket command job

/-- What the herald handles: a finished build, or a command with the ticket of its issuer. -/
inductive Input
  | build (build : Build)
  | command (ticket : Ticket) (command : Command)

/-- Handles an input. -/
def handle (settings : Settings) (now : Instant) (herald : Herald) : Input → Course Herald
  | .build build => herald.handleBuild settings now build
  | .command ticket command => herald.handleCommand settings now ticket command

end Herald

end BuildHerald
