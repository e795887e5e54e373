import RaceLink.Socket.Session

/-!
# The network

A machine reaches others over a network, or it has none, and then neither a server nor a client can
open anything.  A call is tokio-tungstenite's `connect_async` with a limit to its time; what goes
wrong is told in the texts of tungstenite's errors (`Io`, `HandshakeIncomplete`).

* `Network.dial` — opens a session with a server, if that is possible.
-/

set_option autoImplicit false

namespace RaceLink
namespace Socket

/-- How a server takes a call. -/
inductive Server where
  /-- Nobody listens. -/
  | absent
  /-- It ends the stream before it has answered. -/
  | hangsUp
  /-- It never answers. -/
  | stalls
  | accepts
  deriving DecidableEq, Repr

/-- Whether a machine has a network. -/
inductive Network where
  | none
  | joined
  deriving DecidableEq, Repr

namespace Network

/-- A time as a message shows it: in seconds, or in milliseconds if it is shorter than one. -/
def timeText (milliseconds : Nat) : String :=
  if milliseconds < 1000 then s!"{milliseconds}ms"
  else if milliseconds % 1000 = 0 then s!"{milliseconds / 1000}s"
  else
    let part := Nat.toDigits 10 (milliseconds % 1000)
    let digits := List.replicate (3 - part.length) '0' ++ part
    let short := (digits.reverse.dropWhile (· = '0')).reverse
    s!"{milliseconds / 1000}." ++ String.ofList short ++ "s"

/-- The fault of a call that failed for `reason`. -/
def failure (reason : String) : Fault := .transport reason (some reason)

/-- Calls the server at an address, and waits for its answer no longer than a time in
milliseconds. -/
def dial (n : Network) (server : Server) (address : String) (patience : Nat) :
    Except Fault Session :=
  match n, server with
  | none, _ => .error (failure "IO error: Network is unreachable (os error 101)")
  | joined, .absent => .error (failure "IO error: Connection refused (os error 111)")
  | joined, .hangsUp => .error (failure "WebSocket protocol error: Handshake not finished")
  | joined, .stalls =>
    .error (.transport s!"handshake with {address} timed out after {timeText patience}" Option.none)
  | joined, .accepts => .ok .opened

end Network
end Socket
end RaceLink
