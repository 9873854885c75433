import BuildHerald.Fault
import BuildHerald.Feed.Intake

namespace BuildHerald.Feed

/-- What the server is asked for: builds after a cursor, or else the latest ones, and how many. -/
structure Query where
  after : Option Nat
  limit : Nat
  deriving DecidableEq, Repr

/-- The server's answer to a query. -/
abbrev Reply := Except ServerFault Listing

/-- What the feed is about to do. -/
inductive Watch
  /-- Learn where the build list ends. -/
  | starting
  /-- Wait until it is time for the next query. -/
  | resting (intake : Intake)
  /-- Learn which builds have come. -/
  | asking (intake : Intake)
  /-- Hand on a finished build, and others after it. -/
  | offering (intake : Intake) (build : Build) (others : List Build)
  /-- Nothing any more. -/
  | closed

namespace Watch

/-- The query whose answer is waited for. -/
def query? (pageSize : Nat) : Watch → Option Query
  | starting => some ⟨none, 1⟩
  | asking intake => some ⟨some intake.cursor, pageSize⟩
  | _ => none

/-- Offers builds, and rests when there are none. -/
def offer (intake : Intake) : List Build → Watch
  | [] => resting intake
  | build :: others => offering intake build others

/-- Takes in an answer. Without the first one there is no feed; a later one may fail. -/
def answered (pageSize : Nat) (reply : Reply) : Watch → Watch
  | starting =>
      match reply with
      | .ok listing => resting (.start ⟨listing.next.getD 0, pageSize⟩)
      | .error _ => closed
  | asking intake =>
      match reply with
      | .ok listing => offer (intake.take listing).1 (intake.take listing).2
      | .error _ => resting intake
  | watch => watch

/-- It is time for the next query. -/
def ticked : Watch → Watch
  | resting intake => asking intake
  | watch => watch

/-- The build on offer has been handed on. -/
def handedOn : Watch → Watch
  | offering intake _ others => offer intake others
  | watch => watch

/-- The build on offer. -/
def onOffer? : Watch → Option Build
  | offering _ build _ => some build
  | _ => none

end Watch

end BuildHerald.Feed
