import BuildHerald.Job
import BuildHerald.Text.Blank
import BuildHerald.Text.Lowercase

namespace BuildHerald.Chat

/-- A command given in the chat. -/
structure Command where
  name : String
  args : List String
  /-- The job it is about, if it names one. -/
  job : Option Job
  deriving DecidableEq, Repr

namespace Command

/-- The name in the first word of a line: leading slashes are dropped, and everything from the first
at sign on, which addresses one of several bots. -/
def nameIn (word : List Char) : List Char :=
  let bare := word.dropWhile (· == '/')
  match Text.splitOnce '@' bare with
  | some (name, _) => name
  | none => bare

/-- Joins the two words of `try again` into one name. -/
def joinName (name : List Char) (rest : List (List Char)) : String × List (List Char) :=
  match rest with
  | word :: others =>
      if name = "try".toList ∧ Text.asciiLower word = "again".toList then ("try again", others)
      else (String.ofList name, rest)
  | [] => (String.ofList name, rest)

/-- Takes the first word that names a job out of the arguments. -/
def takeJob (defaultTeam : String) : List String → Option Job × List String
  | [] => (none, [])
  | word :: rest =>
      match Job.ofTarget? defaultTeam word with
      | some job => (some job, rest)
      | none =>
          let (job, args) := takeJob defaultTeam rest
          (job, word :: args)

/-- The command in a line of chat, if it has one. -/
def ofLine? (defaultTeam line : String) : Option Command :=
  match Text.words line.toList with
  | [] => none
  | first :: rest =>
      let name := nameIn first
      if name.isEmpty then none
      else
        let (name, rest) := joinName (Text.lower name) rest
        let (job, args) := takeJob defaultTeam (rest.map String.ofList)
        some ⟨name, args, job⟩

end Command

end BuildHerald.Chat
