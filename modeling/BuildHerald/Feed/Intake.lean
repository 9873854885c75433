import BuildHerald.Build
import BuildHerald.Feed.Bookmark

namespace BuildHerald.Feed

/-- A stretch of the build list, and the cursor the server gives for what follows it. -/
structure Listing where
  builds : List Build
  next : Option Nat

/-- How far the build list has been taken in, and which builds beyond the bookmark have been
delivered already. -/
structure Intake where
  bookmark : Bookmark
  delivered : List Nat

namespace Intake

def start (bookmark : Bookmark) : Intake :=
  ⟨bookmark, []⟩

/-- The cursor to ask from. -/
def cursor (intake : Intake) : Nat :=
  intake.bookmark.position

/-- Looks at one listed build. A running one is to be listed again; a finished one is delivered
unless it has been. -/
def see (intake : Intake) (build : Build) : Intake × List Build :=
  if build.status.isRunning then
    ({ intake with bookmark := intake.bookmark.reopen build.id }, [])
  else if intake.delivered.contains build.id then (intake, [])
  else ({ intake with delivered := build.id :: intake.delivered }, [build])

/-- Looks at listed builds one after the other. -/
def seeAll (intake : Intake) : List Build → Intake × List Build
  | [] => (intake, [])
  | build :: rest =>
      let (intake, first) := intake.see build
      let (intake, others) := intake.seeAll rest
      (intake, first ++ others)

/-- Forgets the delivered builds that will not be listed again. -/
def prune (intake : Intake) : Intake :=
  { intake with delivered := intake.delivered.filter (intake.cursor < ·) }

/-- Takes in a listing. The finished builds to deliver come in ascending order of id. A listing
without a cursor or without builds has no effect. -/
def take (intake : Intake) (listing : Listing) : Intake × List Build :=
  match listing.next with
  | none => (intake, [])
  | some next =>
      if listing.builds.isEmpty then (intake, [])
      else
        let moved := { intake with bookmark := intake.bookmark.moveTowards next }
        let (seen, delivered) := moved.seeAll (listing.builds.mergeSort fun a b => a.id ≤ b.id)
        (seen.prune, delivered)

end Intake

end BuildHerald.Feed
