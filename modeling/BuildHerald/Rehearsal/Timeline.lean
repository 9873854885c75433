namespace BuildHerald.Rehearsal

/-- Something that changes by itself: at a time, in milliseconds, into something else, if at all. -/
abbrev Wake (σ : Type) := Option (Nat × σ)

namespace Wake

variable {σ τ : Type}

/-- The earlier of two changes; of two at the same time, the first. -/
def earlier (first second : Wake σ) : Wake σ :=
  match first, second with
  | none, change => change
  | change, none => change
  | some a, some b => if b.1 < a.1 then some b else some a

/-- The earliest of several changes; of several at the same time, the first. -/
def earliest (changes : List (Wake σ)) : Wake σ :=
  changes.foldr earlier none

end Wake

variable {σ : Type}

/-- Lets changes happen up to and including a point in time, at most `fuel` of them. -/
def play (change : σ → Wake σ) (horizon : Nat) : Nat → σ → σ
  | 0, state => state
  | fuel + 1, state =>
      match change state with
      | some (time, next) => if time ≤ horizon then play change horizon fuel next else state
      | none => state

end BuildHerald.Rehearsal
