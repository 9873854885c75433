namespace BuildHerald.Text

/-- A set of code points as an inversion list: ascending boundaries, at each of which membership
changes. -/
abbrev CodePoints := List Nat

namespace CodePoints

/-- Membership: an odd number of boundaries lies at or below the code point. -/
def contains (boundaries : CodePoints) (c : Char) : Bool :=
  (boundaries.takeWhile (· ≤ c.toNat)).length % 2 == 1

end CodePoints

end BuildHerald.Text
