import BuildHerald.Notification
import BuildHerald.Text.Blank
import BuildHerald.Text.Terminal

namespace BuildHerald.Telegram.Markup

/-- How many characters of a transcript a message holds. -/
def transcriptLimit : Nat := 3000

/-- The last characters of a text, at most a given number of them. -/
def lastChars (limit : Nat) (text : List Char) : List Char :=
  text.drop (text.length - limit)

/-- The sign of which three in a row open or close a block. -/
def fenceSign : Char := '\x60'

/-- What stands for a sign of a fence inside a block. -/
def fenceSubstitute : Char := '\x27'

/-- A text in which every three signs of a fence in a row are replaced. -/
def withoutFences : List Char → List Char
  | a :: b :: c :: rest =>
      if a = fenceSign ∧ b = fenceSign ∧ c = fenceSign then
        fenceSubstitute :: fenceSubstitute :: fenceSubstitute :: withoutFences rest
      else a :: withoutFences (b :: c :: rest)
  | text => text

/-- What is shown of a transcript: its end, without control sequences and without blanks after it. -/
def shownOf (transcript : String) : List Char :=
  lastChars transcriptLimit (Text.trimEnd (Text.Terminal.plain transcript.toList))

/-- The line that opens or closes a block. -/
def fence : List Char := List.replicate 3 fenceSign

/-- A transcript in a block of its own, or nothing if there is nothing to show. -/
def block (transcript : String) : List Char :=
  let shown := shownOf transcript
  if shown.isEmpty then []
  else '\n' :: fence ++ '\n' :: withoutFences shown ++ '\n' :: fence

/-- The title of a notification with the link behind it. -/
def heading (notification : Notification) : List Char :=
  (notification.severity.marker ++ " [" ++ notification.title ++ "](" ++ notification.link ++
    ")").toList

/-- A notification in marked-up text. -/
def format (notification : Notification) : List Char :=
  heading notification ++ block notification.output

end BuildHerald.Telegram.Markup
