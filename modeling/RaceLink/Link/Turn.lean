import RaceLink.Link.Basic

/-!
# Turns

What a client does next at one moment in time.  When several things are ready it takes the first
of: being shut down, what its phase waits for or a frame, the watchdog, a request.

* `Deed` — what a client can do in one turn.
* `Link.deed?`, `Link.perform`, `Link.turn` — the next deed, the client after a deed, and both
  together.
* `Link.deliver` — sends commands on a session until one is not accepted.
* `Link.lose` — gives a session up: one wait, then one attempt, whatever the cause was.
-/

set_option autoImplicit false

namespace RaceLink

/-- What a client can do in one turn: one step of the task that keeps the connection. -/
inductive Deed where
  /-- An attempt to connect begins. -/
  | attempt
  /-- The attempt in flight ends as it was to end. -/
  | resolve (a : Attempt)
  /-- A frame is taken from the session. -/
  | read (session : Nat) (text : String)
  /-- The session is found to be over. -/
  | lose (session : Nat)
  /-- The watchdog acts on silence: it sends a heartbeat, or gives the session up if that was sent
  (`probed`). -/
  | watch (session : Nat) (probed : Bool)
  /-- A request is taken while a session is open. -/
  | serve (session id : Nat) (r : Request)
  /-- A request is taken while none is open, and turned down. -/
  | decline (id : Nat) (r : Request)
  /-- The client was shut down, and begins to close the session. -/
  | close (session : Nat)
  /-- It stops for good. -/
  | stop
  deriving DecidableEq, Repr

namespace Link

/-! ## Sending -/

/-- Sends one command on a session; the answer is the reason if it was not accepted. -/
def deliverOne (s : Link) (session : Nat) (c : Command) : Link × Option String :=
  match s.peer? session with
  | none => (s, some "no session")
  | some p =>
    match p.send with
    | .error reason => (s, some reason)
    | .ok p => ((s.setPeer session p).record (.sent session c.text), none)

/-- Sends commands in order, up to the first one that is not accepted. -/
def deliver (s : Link) (session : Nat) : List Command → Link × Option String
  | [] => (s, none)
  | c :: rest =>
    match s.deliverOne session c with
    | (s, none) => s.deliver session rest
    | (s, some reason) => (s, some reason)

/-! ## Ends -/

/-- Gives a session up and sets out to wait for the next attempt. -/
def lose (s : Link) (session : Nat) : Link :=
  { s with phase := .waiting (s.now + s.terms.delay) }.record (.lost session)
    |>.enter .connecting none

/-- Answers all waiting requests: nobody will take them any more. -/
def refuseAll (s : Link) : List (Nat × Request) → Link
  | [] => s
  | (id, _) :: rest => (s.answer id (.error .shutdown)).refuseAll rest

/-- Stops for good. -/
def stop (s : Link) : Link :=
  let s := { s with phase := .stopped }.enter .closed none
  { s.refuseAll s.queue with queue := [] }

/-- How long a session may take to be closed. -/
def closeLimit : Nat := 2000

/-- Begins to close the session that is open. -/
def beginClose (s : Link) (session : Nat) : Link :=
  let wait : Nat :=
    match (s.peer? session).map Peer.farewell with
    | some (.after delay _) => min delay closeLimit
    | _ => closeLimit
  { s with phase := .closing session (s.now + wait) }

/-! ## Connecting -/

/-- Begins an attempt. -/
def beginAttempt (s : Link) : Link :=
  let a := s.script[s.attempts]?.getD Attempt.smooth
  let due : Option Nat := if a.ending = .never then none else some (s.now + a.delay)
  { s with attempts := s.attempts + 1, phase := .seeking a due }.record .attempted

/-- The moment at which the watchdog acts if nothing is heard from now on. -/
def watchFrom (s : Link) : Option Nat :=
  if s.terms.idle = 0 then none else some (s.now + s.terms.half)

/-- Opens the session that an attempt led to. -/
def openSession (s : Link) (a : Attempt) : Link :=
  let n := s.peers.length + 1
  let s := { s with peers := s.peers ++ [Peer.accept a] }.record (.opened n)
  let s := { s with phase := .serving n s.watchFrom false }.enter .isOpen (some n)
  if s.terms.resync then
    match s.deliver n Command.resync with
    | (s, none) => s
    | (s, some _) => s.lose n
  else s

/-- Ends an attempt. -/
def endAttempt (s : Link) (a : Attempt) : Link :=
  match a.ending with
  | .accepted => s.openSession a
  | _ => { s with phase := .waiting (s.now + s.terms.delay) }.record .refused

/-! ## Frames, silence and requests -/

/-- Takes a frame from a session.  Whatever it holds, it is a sign of life. -/
def takeFrame (s : Link) (session : Nat) (text : String) : Link :=
  let s := { s.onPeer session Peer.advance with phase := .serving session s.watchFrom false }
  let s := s.record (.took session text)
  match Frame.decode text with
  | .error _ => s.record (.malformed session)
  | .ok f => s.update (s.model.apply f)

/-- Acts on silence: the first time by asking for a sign of life, then by giving up. -/
def watchdog (s : Link) (session : Nat) (probed : Bool) : Link :=
  if probed then (s.record (.silent session)).lose session
  else
    match s.deliver session [.getStatus] with
    | (s, some _) => s.lose session
    | (s, none) => { s with phase := .serving session s.watchFrom true }

/-- Forgets the laps, if a request asks for that, before anything is sent. -/
def prepare (s : Link) : Request → Link
  | .reset => (s.record .cleared).update s.model.reset
  | _ => s

/-- Serves a request while a session is open. -/
def serve (s : Link) (session : Nat) (id : Nat) (r : Request) : Link :=
  match (s.prepare r).deliver session r.commands with
  | (s, none) => s.answer id (.ok ())
  | (s, some reason) => (s.answer id (.error (.transport reason none))).lose session

/-- Turns a request down while no session is open. -/
def decline (s : Link) (id : Nat) (r : Request) : Link :=
  let name := r.command.name
  ((s.prepare r).record (.dropped id name)).answer id (.error (.notConnected name))

/-- Whether a moment has come. -/
def reached (s : Link) : Option Nat → Bool
  | none => false
  | some t => decide (t ≤ s.now)

/-! ## One turn -/

/-- The deed that takes the next request, if one waits, or else the one for a client that nobody
holds any more. -/
def nextRequest? (s : Link) (take : Nat → Request → Deed) (abandoned : Deed) : Option Deed :=
  match s.queue with
  | (id, r) :: _ => some (take id r)
  | [] => if s.handles = 0 then some abandoned else none

/-- The next deed of a client that serves a session. -/
def deedServing? (s : Link) (session : Nat) (watch : Option Nat) (probed : Bool) : Option Deed :=
  match s.peer? session with
  | none => some (.lose session)
  | some p =>
    match p.next with
    | .text t => some (.read session t)
    | .over => some (.lose session)
    | .nothing =>
      if s.reached watch then some (.watch session probed)
      else s.nextRequest? (.serve session) (.close session)

/-- The next deed of a client, or nothing if it has to wait. -/
def deed? (s : Link) : Option Deed :=
  match s.phase with
  | .stopped => none
  | .closing _ t => if t ≤ s.now then some .stop else none
  | .waiting t =>
    if s.cancelled then some .stop
    else if t ≤ s.now then some .attempt
    else s.nextRequest? .decline .stop
  | .seeking a due =>
    if s.cancelled then some .stop
    else if s.reached due then some (.resolve a)
    else s.nextRequest? .decline .stop
  | .serving n watch probed =>
    if s.cancelled then some (.close n) else s.deedServing? n watch probed

/-- The client after a deed. -/
def perform (s : Link) : Deed → Link
  | .attempt => s.beginAttempt
  | .resolve a => s.endAttempt a
  | .read n text => s.takeFrame n text
  | .lose n => s.lose n
  | .watch n probed => s.watchdog n probed
  | .serve n id r => { s with queue := s.queue.drop 1 }.serve n id r
  | .decline id r => { s with queue := s.queue.drop 1 }.decline id r
  | .close n => s.beginClose n
  | .stop => s.stop

/-- The client after its next deed, or nothing if it has to wait. -/
def turn (s : Link) : Option Link := s.deed?.map s.perform

end Link
end RaceLink
