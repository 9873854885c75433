import BuildHerald.Notification
import BuildHerald.Text.Utf8

namespace BuildHerald.Chat.Console

/-- The name of the chat on the console. -/
def name : String := "cli"

/-- What invites the user to type a command. -/
def prompt : String := "> "

/-- A notification in plain text. -/
def format (notification : Notification) : String :=
  notification.severity.marker ++ " " ++ notification.title ++ "\n   " ++ notification.link ++
    (if notification.output = "" then "" else "\n\n" ++ notification.output)

/-- What is printed for a notification. -/
def shown (notification : Notification) : String :=
  "\n" ++ format notification ++ "\n\n"

/-- The text of a line that was typed, without a carriage return at its end. A line that is no
well-formed UTF-8 has none. -/
def line? (typed : List UInt8) : Option String :=
  (Text.Utf8.decode? typed).map fun text =>
    match text.reverse with
    | '\r' :: rest => String.ofList rest.reverse
    | _ => String.ofList text

end BuildHerald.Chat.Console
