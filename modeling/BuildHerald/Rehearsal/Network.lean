import BuildHerald.Http.Exchange

namespace BuildHerald.Rehearsal

open BuildHerald.Http

/-- A network in which it is settled beforehand what comes of each request. -/
structure Network where
  /-- Whether requests arrive anywhere. If not, each of them is lost, and nobody sees it. -/
  reachable : Bool
  /-- What comes of the next requests, in order. -/
  outcomes : List Outcome
  /-- What comes of the requests after those, by number, counted from one. -/
  spare : Nat → Outcome
  /-- How many requests came after those. -/
  spared : Nat
  /-- The requests that arrived, last one first. -/
  arrived : List Request

namespace Network

/-- A network in which every request is lost. -/
def unreachable : Network :=
  ⟨false, [], fun _ => none, 0, []⟩

/-- What comes of a request. -/
def answer (request : Request) (network : Network) : Outcome × Network :=
  if !network.reachable then (none, network)
  else
    let arrived := request :: network.arrived
    match network.outcomes with
    | outcome :: rest => (outcome, { network with outcomes := rest, arrived := arrived })
    | [] =>
        (network.spare (network.spared + 1),
          { network with spared := network.spared + 1, arrived := arrived })

/-- Lets a course of requests take place, and says which of them arrived, in order. -/
def hold {α : Type} (network : Network) (exchange : Exchange α) : α × List Request × Network :=
  let (result, after) := exchange.run answer { network with arrived := [] }
  (result, after.arrived.reverse, { after with arrived := [] })

end Network

end BuildHerald.Rehearsal
