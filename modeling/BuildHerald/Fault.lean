namespace BuildHerald

/-- What can go wrong in talking to the CI server. -/
inductive ServerFault
  | requestFailed (endpoint reason : String)
  | status (endpoint : String) (code : Nat) (body : String)
  | authFailed (team reason : String)
  | notFound (resource : String)
  | malformedEvent (reason : String)
  /-- The envelope of a build event is no readable JSON of its shape. -/
  | unreadableEnvelope
  | invalidResponse (endpoint reason : String)
  deriving DecidableEq, Repr

namespace ServerFault

def message : ServerFault → String
  | requestFailed endpoint reason => "Request to " ++ endpoint ++ " failed: " ++ reason
  | status endpoint code body => endpoint ++ " returned HTTP " ++ toString code ++ ": " ++ body
  | authFailed team reason => "Authentication failed for team " ++ team ++ ": " ++ reason
  | notFound resource => "Not found: " ++ resource
  | malformedEvent reason => "Malformed build event: " ++ reason
  | unreadableEnvelope => "Malformed build event: unreadable envelope"
  | invalidResponse endpoint reason => "Invalid response from " ++ endpoint ++ ": " ++ reason

end ServerFault

/-- What can go wrong in talking to the chat. -/
inductive ChatFault
  | startupFailed (channel reason : String)
  | sendFailed (channel reason : String)
  deriving DecidableEq, Repr

namespace ChatFault

def message : ChatFault → String
  | startupFailed channel reason => "Channel " ++ channel ++ " failed to start: " ++ reason
  | sendFailed channel reason =>
      "Failed to send message on channel " ++ channel ++ ": " ++ reason

end ChatFault

/-- What can be wrong with the settings. -/
inductive SettingFault
  | missing (name : String)
  | invalid (name : String) (problem : String)
  deriving DecidableEq, Repr

namespace SettingFault

def message : SettingFault → String
  | missing name => "Missing required environment variable: " ++ name
  | invalid name problem => "Invalid configuration value for " ++ name ++ ": " ++ problem

end SettingFault

end BuildHerald
