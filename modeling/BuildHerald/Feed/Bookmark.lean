namespace BuildHerald.Feed

/-- The id of a build up to which the build list has been seen, and the greatest step forward. -/
structure Bookmark where
  position : Nat
  stride : Nat
  deriving DecidableEq, Repr

namespace Bookmark

/-- Moves to `next`, but forward by no more than one stride, so that a burst of builds is taken in
over several polls. -/
def moveTowards (bookmark : Bookmark) (next : Nat) : Bookmark :=
  if bookmark.stride < next - bookmark.position then
    { bookmark with position := bookmark.position + bookmark.stride }
  else { bookmark with position := next }

/-- Moves back so that the build `id` is listed again; never forward, and by at least one. -/
def reopen (bookmark : Bookmark) (id : Nat) : Bookmark :=
  { bookmark with position := min id bookmark.position - 1 }

theorem position_moveTowards_le (bookmark : Bookmark) (next : Nat) :
    (bookmark.moveTowards next).position ≤ next := by
  unfold moveTowards
  split
  · simp only
    omega
  · simp

end Bookmark

end BuildHerald.Feed
