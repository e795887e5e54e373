import RaceLink.Delivery.Hub
import RaceLink.Delivery.Latest
import RaceLink.Link.Peer
import RaceLink.Race.Command

/-!
# The link

The state of a client: the phase of its connection, its model, the cells and the hub through which
others see both, the requests that wait, and a log of all that has happened.

* `Phase` — seeking a session, waiting to seek one, serving one, closing one, or stopped.
* `Event`, `Entry` — what can happen, and when it did.
* `Snapshot`, `Sight` — what handles read, and what can be seen while observers are called.
* `Link` — the whole state.
* `Link.announce`, `Link.enter`, `Link.publish` — the only ways in which anything becomes visible
  to observers, streams and handles.

Times are whole milliseconds from the start.
-/

set_option autoImplicit false

namespace RaceLink

/-- How a client behaves towards the connection. -/
structure Terms where
  /-- The wait between a loss or failure and the next attempt. -/
  delay : Nat
  /-- How long a session may be silent; zero for any length of time. -/
  idle : Nat
  /-- Whether a session opens with the questions of `Command.resync`. -/
  resync : Bool
  deriving DecidableEq, Repr

namespace Terms

/-- Half the time a session may be silent, to the next whole millisecond. -/
def half (t : Terms) : Nat := (t.idle + 1) / 2

end Terms

/-- What a handle can ask of the client. -/
inductive Request where
  | send (c : Command)
  /-- The status and the laps are to be asked for. -/
  | refresh
  /-- The laps are to be cleared, here and on the far side. -/
  | reset
  deriving DecidableEq, Repr

namespace Request

/-- The command that a request is named after. -/
def command : Request → Command
  | send c => c
  | refresh => .getStatus
  | reset => .resetRace

/-- The commands that answer a request while a session is open. -/
def commands : Request → List Command
  | send c => [c]
  | refresh => Command.resync
  | reset => [.resetRace]

end Request

/-- What the client is doing. -/
inductive Phase where
  /-- No attempt is made before a moment. -/
  | waiting (moment : Nat)
  /-- An attempt is under way; it ends at a moment, or never. -/
  | seeking (attempt : Attempt) (due : Option Nat)
  /-- A session is open.  The watchdog, where there is one, acts at a moment; `probed` tells
  whether it has already asked for a sign of life. -/
  | serving (session : Nat) (watch : Option Nat) (probed : Bool)
  /-- The session is being closed, until a moment at the latest. -/
  | closing (session : Nat) (moment : Nat)
  | stopped
  deriving DecidableEq, Repr

namespace Phase

/-- The session the client holds. -/
def session? : Phase → Option Nat
  | serving n _ _ => some n
  | closing n _ => some n
  | _ => none

/-- The moment at which the client acts of itself. -/
def due? : Phase → Option Nat
  | waiting t => some t
  | seeking _ due => due
  | serving _ watch _ => watch
  | closing _ t => some t
  | stopped => none

end Phase

/-- What happens in the life of a client. -/
inductive Event where
  /-- An attempt to connect begins. -/
  | attempted
  /-- An attempt has failed. -/
  | refused
  | opened (session : Nat)
  /-- The session has accepted a text. -/
  | sent (session : Nat) (text : String)
  /-- A frame was taken from the session, whatever it holds. -/
  | took (session : Nat) (text : String)
  /-- A frame that could not be read was dropped. -/
  | malformed (session : Nat)
  /-- A session was given up because nothing was heard on it. -/
  | silent (session : Nat)
  /-- A session was given up, for whatever reason. -/
  | lost (session : Nat)
  /-- A reset of the laps was taken. -/
  | cleared
  /-- A request found no session open. -/
  | dropped (id : Nat) (command : String)
  /-- Observers are told of a notice, and shown a model. -/
  | notified (notice : Notice) (model : Model)
  /-- The caller of a request gets its outcome. -/
  | answered (id : Nat) (outcome : Except Fault Unit)

/-- Whether an event is worth a warning to the user. -/
def Event.isWarning : Event → Bool
  | refused => true
  | malformed _ => true
  | silent _ => true
  | dropped _ _ => true
  | _ => false

/-- The text that is sent, with its session. -/
def Event.frame? : Event → Option (Nat × String)
  | .sent n text => some (n, text)
  | _ => none

/-- The text that is taken, with its session. -/
def Event.taken? : Event → Option (Nat × String)
  | .took n text => some (n, text)
  | _ => none

/-- The notice that an event tells of, with the model that observers are shown. -/
def Event.told? : Event → Option (Notice × Model)
  | .notified n m => some (n, m)
  | _ => none

/-- An event and the moment it happened. -/
structure Entry where
  time : Nat
  event : Event

/-- What handles read. -/
structure Snapshot where
  state : LinkState
  model : Model
  status : Option Status
  deriving DecidableEq, Repr

/-- What can be seen while observers are told of a notice. -/
structure Sight where
  notice : Notice
  /-- The state of the client itself. -/
  state : LinkState
  /-- The model of the client itself, which is the one that observers are shown. -/
  model : Model
  /-- What handles read meanwhile. -/
  read : Snapshot
  deriving DecidableEq, Repr

/-- The state of a client. -/
structure Link where
  terms : Terms
  /-- What the attempts will meet; beyond the list they go smoothly. -/
  script : List Attempt
  now : Nat
  phase : Phase
  state : LinkState
  model : Model
  hub : Hub
  stateCell : Latest LinkState
  modelCell : Latest Model
  statusCell : Latest (Option Status)
  /-- The far sides of all sessions opened so far, the first one first. -/
  peers : List Peer
  attempts : Nat
  /-- The requests that wait to be taken, with the numbers they were given. -/
  queue : List (Nat × Request)
  handles : Nat
  cancelled : Bool
  log : Array Entry
  /-- What could be seen at each notice so far. -/
  sights : Array Sight

namespace Link

/-- A client that has just been started, with one handle. -/
def start (terms : Terms) (script : List Attempt) (hub : Hub) : Link :=
  { terms := terms
    script := script
    now := 0
    phase := .waiting 0
    state := .connecting
    model := Model.empty
    hub := hub
    stateCell := Latest.make .connecting
    modelCell := Latest.make Model.empty
    statusCell := Latest.make none
    peers := []
    attempts := 0
    queue := []
    handles := 1
    cancelled := false
    log := #[]
    sights := #[] }

/-- Notes that something happened. -/
def record (s : Link) (e : Event) : Link := { s with log := s.log.push ⟨s.now, e⟩ }

/-- What handles read now. -/
def snapshot (s : Link) : Snapshot := ⟨s.stateCell.value, s.modelCell.value, s.statusCell.value⟩

/-- Tells observers and streams of a notice. -/
def announce (s : Link) (n : Notice) : Link :=
  { s with
    hub := (s.hub.publish n s.model).1
    sights := s.sights.push ⟨n, s.state, s.model, s.snapshot⟩ }.record (.notified n s.model)

/-- Makes a change of the model visible. -/
def publish (s : Link) (c : Change) : Link :=
  let s := { s with modelCell := s.modelCell.set s.model }
  let s := if c = .status then { s with statusCell := s.statusCell.set s.model.status } else s
  s.announce (.model c)

/-- Enters a state of the connection; one that is already entered is not announced again. -/
def enter (s : Link) (state : LinkState) (session : Option Nat) : Link :=
  if s.state = state then s
  else
    { s with state := state, stateCell := s.stateCell.set state }.announce
      (.link state (session.map fun n => ⟨UInt64.ofNat n⟩))

/-- Takes over a changed model and makes the change visible, if there was one. -/
def update (s : Link) (result : Model × Option Change) : Link :=
  let s := { s with model := result.1 }
  match result.2 with
  | none => s
  | some c => s.publish c

/-- Gives a request its outcome. -/
def answer (s : Link) (id : Nat) (outcome : Except Fault Unit) : Link :=
  s.record (.answered id outcome)

/-- The far side of a session; sessions are counted from one. -/
def peer? (s : Link) (session : Nat) : Option Peer :=
  if session = 0 then none else s.peers[session - 1]?

/-- Replaces the far side of a session. -/
def setPeer (s : Link) (session : Nat) (p : Peer) : Link :=
  { s with peers := s.peers.set (session - 1) p }

/-- The client after the far side of a session changed. -/
def onPeer (s : Link) (session : Nat) (f : Peer → Peer) : Link :=
  match s.peer? session with
  | none => s
  | some p => s.setPeer session (f p)

end Link
end RaceLink
