import RaceLink.Fault
import RaceLink.Socket.Message

/-!
# A session over a web socket

The client's end of an open web socket.  Messages arrive in the order in which they were sent, each
one whole; of these only texts are handed on.  Pings are answered, and a closing message is answered
and ends the reading.

Closing takes both ends: each sends one closing message, and the connection is over when the stream
below it ends.  How far that has gone is the session's `Stage`, and it decides what may still be
read and written.

The protocol itself is tungstenite's (0.26), and the definitions here follow its `WebSocketContext`
and the stream and sink that tokio-tungstenite makes of it, as their docstrings say.  What is sent
goes to the line, tungstenite's out buffer, and from there to the stream below.

* `Session.breakOff` — from now on, writing to the stream below fails.  That can happen at any time,
  also while there is something to be read.
* `Session.send`, `Session.probe` — sends a text, or a ping that shows whether the far end is there.
* `Session.close` — begins to close; that the connection is over already is no failure.
* `Session.next` — the next text, or how the reading ended.
* `Session.nextAmid` — the same while pings fall due.
-/

set_option autoImplicit false

namespace RaceLink
namespace Socket

/-- How far the closing of a connection has gone: the states of tungstenite's `WebSocketState`. -/
inductive Stage where
  | active
  /-- This end has sent its closing message. -/
  | closedHere
  /-- The far end has sent its closing message, and it is answered. -/
  | closedThere
  /-- This end has closed, and the far end has answered. -/
  | acknowledged
  /-- There is no connection any more. -/
  | terminated
  deriving DecidableEq, Repr

namespace Stage

/-- Whether messages of the far end still count, as in `WebSocketState::can_read`. -/
def canRead : Stage → Bool
  | active => true
  | closedHere => true
  | _ => false

end Stage

/-- Why something failed on a web socket: the errors of tungstenite that a session can meet. -/
inductive Trouble where
  /-- The connection was closed as it should be (`ConnectionClosed`). -/
  | closed
  /-- The connection was over before (`AlreadyClosed`). -/
  | alreadyClosed
  | sendAfterClosing
  | receivedAfterClosing
  /-- The stream ended without any closing message (`ResetWithoutClosingHandshake`). -/
  | reset
  /-- The stream did not take what was written to it (`Io`). -/
  | refused (reason : String)
  deriving DecidableEq, Repr

namespace Trouble

/-- The text of a failure, as tungstenite's errors show themselves. -/
def message : Trouble → String
  | closed => "Connection closed normally"
  | alreadyClosed => "Trying to work with closed connection"
  | sendAfterClosing => "WebSocket protocol error: Sending after closing is not allowed"
  | receivedAfterClosing => "WebSocket protocol error: Remote sent after having closed"
  | reset => "WebSocket protocol error: Connection reset without closing handshake"
  | refused reason => "IO error: " ++ reason

/-- Whether a failure only says that the connection is over.  The reading then ends without one
(`poll_next`), and closing succeeds. -/
def isOver : Trouble → Bool
  | closed => true
  | alreadyClosed => true
  | _ => false

/-- A failure as a fault of the transport. -/
def fault (t : Trouble) : Fault := .transport t.message (some t.message)

end Trouble

/-- The client's end of a web socket. -/
structure Session where
  stage : Stage
  /-- Whether the reading has ended for good.  Once it has failed, tokio-tungstenite's stream gives
  nothing but its end (`ended`). -/
  ended : Bool
  /-- What has arrived and has not been read. -/
  inbox : List Message
  /-- Whether the stream ends after what has arrived. -/
  gone : Bool
  /-- Why writing to the stream fails, if it does. -/
  broken : Option String
  /-- An answer that is to be sent before anything else is read (`additional_send`). -/
  reply : Option Message
  /-- Whether an answer is in the line that the stream could not take yet
  (`unflushed_additional`). -/
  unflushed : Bool
  /-- What has been put in the line, the first message first. -/
  sent : List Message
  deriving DecidableEq, Repr

namespace Session

/-- A session that has just been opened. -/
def opened : Session := ⟨.active, false, [], false, none, none, false, []⟩

/-! ## The far end -/

/-- A message arrives, unless the stream has ended. -/
def arrive (s : Session) (m : Message) : Session :=
  if s.gone then s else { s with inbox := s.inbox ++ [m] }

/-- The stream ends. -/
def vanish (s : Session) : Session := { s with gone := true }

/-- From now on, writing to the stream fails. -/
def breakOff (s : Session) (reason : String) : Session := { s with broken := some reason }

/-! ## Writing -/

/-- Sends the answers that are due, as `read` does before it reads; a stream that is `blocked` takes
them later.  An answer that could not be sent is gone all the same: `_write` has taken it. -/
def flush (s : Session) (blocked : Bool) : Option Trouble × Session :=
  if s.reply = none ∧ s.unflushed = false then (none, s)
  else
    match s.broken with
    | some reason => (some (.refused reason), { s with reply := none })
    | none =>
      (none, { s with sent := s.sent ++ s.reply.toList, reply := none, unflushed := blocked })

/-- The stage once a message is to be sent: a closing message begins the closing. -/
def begun (s : Session) : Message → Stage
  | .close _ => .closedHere
  | _ => s.stage

/-- Sends a message, and the answer that is due with it; tells what went wrong, if anything did.
After closing, nothing more may be sent, a second closing message included (tungstenite's `write`,
and the `flush` of the sink after it).  A stream that is `blocked` leaves it in the line. -/
def write (s : Session) (blocked : Bool) (m : Message) : Session × Option Trouble :=
  match s.stage with
  | .terminated => (s, some .alreadyClosed)
  | .active =>
    let s := { s with stage := s.begun m }
    match s.broken with
    | some reason => ({ s with reply := none }, some (.refused reason))
    | none =>
      let sent := s.sent ++ m :: s.reply.toList
      ({ s with sent := sent, reply := none, unflushed := blocked && s.unflushed }, none)
  | _ => (s, some .sendAfterClosing)

/-- What a caller is told of something that may have gone wrong. -/
def outcome : Option Trouble → Except Fault Unit
  | none => .ok ()
  | some t => .error t.fault

/-- Sends a text. -/
def send (s : Session) (t : String) : Session × Except Fault Unit :=
  let (s, trouble) := s.write false (.text t)
  (s, outcome trouble)

/-- Sends a ping, so that a connection that is dead is found out. -/
def probe (s : Session) (blocked : Bool) : Session × Except Fault Unit :=
  let (s, trouble) := s.write blocked (.ping [])
  (s, outcome trouble)

/-- Begins to close, by sending a closing message as any other.  That the connection is over is no
failure. -/
def close (s : Session) : Session × Except Fault Unit :=
  let (s, trouble) := s.write false (.close none)
  (s, outcome (trouble.filter (!·.isOver)))

/-! ## Reading -/

/-- What one look at the stream brings. -/
inductive Look where
  | message (m : Message)
  | failure (t : Trouble)
  | nothing
  deriving DecidableEq, Repr

/-- Takes note of a message that is handed on: pings and closing messages are to be answered, unless
this end has closed (`read_message_frame` and `do_close`). -/
def receive (s : Session) (m : Message) : Session :=
  match m with
  | .ping bytes => if s.stage = .active then { s with reply := some (.pong bytes) } else s
  | .close why =>
    if s.stage = .active then
      { s with stage := .closedThere, reply := some (.close (why.map Closing.echo)) }
    else { s with stage := .acknowledged }
  | _ => s

/-- Takes what is first in the stream, once all answers are sent (`read_message_frame`). -/
def pull (s : Session) : Look × Session :=
  match s.inbox with
  | m :: rest =>
    let s := { s with inbox := rest }
    if s.stage.canRead then (.message m, s.receive m) else (.failure .receivedAfterClosing, s)
  | [] =>
    if s.gone then
      let t := if s.stage.canRead then Trouble.reset else .closed
      (.failure t, { s with stage := .terminated })
    else (.nothing, s)

/-- Looks at the stream once, while it takes what is written to it or is `blocked`: answers first
(tungstenite's `read`). -/
def look (s : Session) (blocked : Bool) : Look × Session :=
  if s.stage = .terminated then (.failure .alreadyClosed, s)
  else
    match s.flush blocked with
    | (some t, s) => (.failure t, s)
    | (none, s) => s.pull

/-- What reading brings. -/
inductive Next where
  | text (t : String)
  | closed
  | failed (f : Fault)
  /-- Nothing has arrived yet. -/
  | waiting
  deriving DecidableEq, Repr

/-- What reading comes to with one look at the stream; nothing if what came is passed over.  Any
failure of the stream is its last word (`poll_next`). -/
def glance (s : Session) (blocked : Bool) : Option Next × Session :=
  if s.ended then (some .closed, s)
  else
    match s.look blocked with
    | (.message (.text t), s) => (some (.text t), s)
    | (.message (.close _), s) => (some .closed, s)
    | (.message _, s) => (none, s)
    | (.failure t, s) =>
      (some (if t.isOver then .closed else .failed t.fault), { s with ended := true })
    | (.nothing, s) => (some .waiting, s)

/-- Reads on to the next text, passing over at most `fuel` other messages. -/
def nextWithin : Nat → Session → Next × Session
  | 0, s => (.waiting, s)
  | fuel + 1, s =>
    match s.glance false with
    | (some n, s) => (n, s)
    | (none, s) => nextWithin fuel s

/-- Reads on to the next text. -/
def next (s : Session) : Next × Session := nextWithin (s.inbox.length + 1) s

/-- What comes next to one who waits for a text: a look at the stream, or a ping that is due. -/
inductive Turn where
  | stream
  /-- A look at the stream, which takes nothing for now. -/
  | blocked
  /-- The ping is sent, unless the stream refuses it. -/
  | ping
  /-- The ping is in the line, but the stream takes nothing for now. -/
  | queued
  /-- The stream takes nothing for now, and the ping waits for what is in the line before it. -/
  | held
  deriving DecidableEq, Repr

/-- Sends a ping and goes on.  A failure is what the reading comes to, but does not end it. -/
def ping (s : Session) (blocked : Bool) : Option Next × Session :=
  match s.probe blocked with
  | (s, .ok ()) => (none, s)
  | (s, .error f) => (some (.failed f), s)

/-- What reading comes to with one turn; nothing if it goes on. -/
def turn (s : Session) : Turn → Option Next × Session
  | .stream => s.glance false
  | .blocked => s.glance true
  | .ping => s.ping false
  | .queued => ((s.ping true).1.getD .waiting, (s.ping true).2)
  | .held => (some .waiting, s)

/-- Reads on to the next text, with some turns before no ping is due any more. -/
def nextAmid : List Turn → Session → Next × Session
  | [], s => s.next
  | t :: rest, s =>
    match s.turn t with
    | (some n, s) => (n, s)
    | (none, s) => nextAmid rest s

end Session
end Socket
end RaceLink
