import BuildHerald.Http.Arrival
import BuildHerald.Http.Written
import BuildHerald.Time.Span
import Std.Async.DNS
import Std.Async.TCP
import Std.Async.Timer

namespace BuildHerald.Live

open BuildHerald.Http Std.Async Std.Net

/-- A length of time that a timer can wait. -/
def millis (span : Time.Span) : Std.Time.Millisecond.Offset :=
  .ofNat (max 1 span.millis)

/-- The name of a host, without the brackets of a numeric address. -/
def hostName (authority : Authority) : String :=
  String.ofList (authority.host.filter fun c => c != '[' && c != ']')

/-- The port that a request goes to. -/
def portOf (url : Url) (authority : Authority) : UInt16 :=
  .ofNat ((authority.port <|> Url.usualPort? url.scheme).getD 80)

def socketAddress (address : IPAddr) (port : UInt16) : SocketAddress :=
  match address with
  | .v4 address => .v4 ⟨address, port⟩
  | .v6 address => .v6 ⟨address, port⟩

/-- Gathers a response, as long as no pause in it is longer than `silence`. -/
partial def gather (socket : TCP.Socket.Client) (silence : Std.Time.Millisecond.Offset)
    (arrival : Arrival) : Async Arrival := do
  if arrival.isOver then return arrival
  let timer ← Selector.sleep silence
  let heard ← Selectable.one #[
    .case (socket.recvSelector 65536) fun piece => return some piece,
    .case timer fun _ => return none]
  match heard with
  | some (some piece) => gather socket silence (arrival.take piece.toList)
  | some none => return arrival.close
  | none => return arrival

/-- Connects to the first of some addresses that answers. -/
def connect (silence : Std.Time.Millisecond.Offset) (port : UInt16) :
    List IPAddr → Async (Option TCP.Socket.Client)
  | [] => return none
  | address :: others => do
      let socket ← TCP.Socket.Client.mk
      let connected ← Async.race
        (try do socket.connect (socketAddress address port); return true catch _ => return false)
        (do sleep silence; return false)
      if connected then return some socket else connect silence port others

/-- Sends a request in the clear and gathers what comes of it. -/
def exchange (silence : Std.Time.Millisecond.Offset) (request : Request) (authority : Authority) :
    Async Outcome := do
  let port := portOf request.url authority
  let addresses ← DNS.getAddrInfo (hostName authority) (toString port)
  let some socket ← connect silence port addresses.toList | return none
  socket.send ⟨request.written.toArray⟩
  let arrival ← gather socket silence .fresh
  return arrival.outcome

/-- Sends a request and gathers what comes of it. Only requests in the clear can be sent. -/
def fetch (silence : Time.Span) (request : Request) : IO Outcome := do
  let some authority := request.url.authority | return none
  if request.url.scheme = "https".toList then return none
  try (exchange (millis silence) request authority).block
  catch _ => return none

end BuildHerald.Live
