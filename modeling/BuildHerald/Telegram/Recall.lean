import BuildHerald.Job
import BuildHerald.Table

namespace BuildHerald.Telegram

/-- Which messages of the bot were about which job. -/
abbrev Recall := Table Int Job

namespace Recall

/-- How many messages are remembered. -/
def limit : Nat := 1000

/-- The message with the smallest id. -/
def smallest? (memory : Recall) : Option Int :=
  (memory.entries.map Prod.fst).min?

/-- Forgets the message with the smallest id, a given number of times. -/
def forget : Nat → Recall → Recall
  | 0, memory => memory
  | count + 1, memory =>
      match memory.smallest? with
      | some id => forget count (memory.erase id)
      | none => memory

/-- Remembers that messages are about a job. If there are too many then, those with the smallest ids
are forgotten. -/
def remember (memory : Recall) (ids : List Int) (job : Job) : Recall :=
  let all := ids.foldl (fun held id => held.put id job) memory
  all.forget (all.size - limit)

end Recall

end BuildHerald.Telegram
