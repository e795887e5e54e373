import RaceLink.Link.Turn

/-!
# Runs

Turns follow each other until the client has to wait; then time may pass.

* `Link.settle` — all turns of one moment.
* `Link.pass` — lets time pass up to a moment, with every turn that falls due on the way.
* `Act`, `Link.act` — what the world can do to a client: its far sides, its handles, and time.
* `Waiter`, `Link.await` — what callers wait for, and the client at the moment all of them have got
  it or given up.
-/

set_option autoImplicit false

namespace RaceLink

/-- What the world can do to a client. -/
inductive Act where
  /-- The far side of a session does something. -/
  | far (session : Nat) (what : List Inbound)
  /-- The far side of a session goes, without a word. -/
  | vanish (session : Nat)
  /-- A request is handed in through a handle. -/
  | submit (id : Nat) (r : Request)
  /-- The client is closed through a handle. -/
  | cancel
  /-- A handle is cloned. -/
  | clone
  /-- A handle is dropped. -/
  | release
  /-- Lets the client run until it has to wait. -/
  | idle
  /-- Lets time pass. -/
  | sleep (milliseconds : Nat)
  deriving DecidableEq, Repr

/-- What a caller waits for. -/
inductive Waiter where
  /-- The answer to a request. -/
  | answer (id : Nat)
  /-- A state of the connection, until a moment. -/
  | state (state : LinkState) (deadline : Nat)
  /-- The end of the client. -/
  | closed
  deriving DecidableEq, Repr

/-- What a caller gets. -/
inductive Outcome where
  | done
  | failed (f : Fault)
  | timeout
  deriving DecidableEq, Repr

namespace Link

/-! ## Turns of one moment -/

/-- Takes at most a number of turns. -/
def turns : Nat → Link → Link
  | 0, s => s
  | n + 1, s =>
    match s.turn with
    | none => s
    | some s => turns n s

/-- How many frames wait on the session that is held. -/
def unread (s : Link) : Nat :=
  match s.phase.session?.bind s.peer? with
  | none => 0
  | some p => p.inbox.length

/-- More turns than can follow each other at one moment: one for each frame and request that
waits, and a few to get from one phase to the next. -/
def workload (s : Link) : Nat := s.unread + s.queue.length + 8

/-- Takes turns until the client has to wait. -/
def settle (s : Link) : Link := turns s.workload s

/-! ## Time -/

/-- Lets at most a number of moments pass at which the client acts, up to `target`. -/
def passWithin : Nat → Nat → Link → Link
  | 0, _, s => s
  | steps + 1, target, s =>
    let s := s.settle
    match s.phase.due? with
    | some t =>
      if s.now < t ∧ t ≤ target then passWithin steps target { s with now := t }
      else { s with now := max s.now target }.settle
    | none => { s with now := max s.now target }.settle

/-- Lets time pass up to a moment. -/
def pass (s : Link) (target : Nat) : Link := passWithin (target - s.now + 1) target s

/-! ## The world -/

/-- Hands a request in.  A client that has stopped answers it at once. -/
def submit (s : Link) (id : Nat) (r : Request) : Link :=
  if s.phase = .stopped then s.answer id (.error .shutdown)
  else { s with queue := s.queue ++ [(id, r)] }

/-- The client after something was done to it. -/
def act (s : Link) : Act → Link
  | .far session what => s.onPeer session (·.does what)
  | .vanish session => s.onPeer session Peer.vanish
  | .submit id r => s.submit id r
  | .cancel => { s with cancelled := true }
  | .clone => { s with handles := s.handles + 1 }
  | .release => { s with handles := s.handles - 1 }
  | .idle => s.settle
  | .sleep ms => s.pass (s.now + ms)

/-- The client after all that was done to it. -/
def run (s : Link) (acts : List Act) : Link := acts.foldl act s

/-! ## Waiting for the client -/

/-- The answer given to a request. -/
def answerTo? (s : Link) (id : Nat) : Option (Except Fault Unit) :=
  s.log.findSomeRev? fun e =>
    match e.event with
    | .answered n outcome => if n = id then some outcome else none
    | _ => none

/-- What a caller gets now, if anything. -/
def outcome? (s : Link) : Waiter → Option Outcome
  | .answer id => (s.answerTo? id).map fun
    | .ok () => .done
    | .error f => .failed f
  | .closed => if s.stateCell.value = .closed then some .done else none
  | .state wanted deadline =>
    if s.stateCell.value = wanted then some .done
    else if s.phase = .stopped then some (.failed .shutdown)
    else if deadline ≤ s.now then some .timeout
    else none

/-- A caller who may have got what it waits for. -/
abbrev Pending : Type := Waiter × Option Outcome

/-- Gives every caller who still waits what it gets now. -/
def serveWaiters (s : Link) (ws : List Pending) : List Pending :=
  ws.map fun w => (w.1, w.2.or (s.outcome? w.1))

/-- The next moment at which something can happen for those who still wait. -/
def nextMoment (s : Link) (ws : List Pending) : Option Nat :=
  let deadlines := ws.filterMap fun w =>
    match w with
    | (.state _ deadline, none) => some deadline
    | _ => none
  let moments := (s.phase.due?.toList ++ deadlines).filter (s.now < ·)
  moments.min?

/-- Lets the client run until nobody waits any more, over at most a number of moments. -/
def awaitWithin : Nat → Link → List Pending → Link × List Pending
  | 0, s, ws => (s, ws)
  | steps + 1, s, ws =>
    let s := s.settle
    let ws := s.serveWaiters ws
    if ws.all (·.2.isSome) then (s, ws)
    else
      match s.nextMoment ws with
      | none => (s, ws)
      | some t =>
        -- a caller whose time is up is told so before the client acts at that moment
        let s := { s with now := t }
        awaitWithin steps s (s.serveWaiters ws)

/-- The latest moment at which anybody who waits still has to be attended to: answers and the end
come no later than a session takes to be closed. -/
def horizon (s : Link) (ws : List Waiter) : Nat :=
  ws.foldl (fun t w =>
    match w with
    | .state _ deadline => max t deadline
    | _ => t) (s.now + closeLimit)

/-- Lets the client run until every caller has got what it waits for, and tells what that is. -/
def await (s : Link) (ws : List Waiter) : Link × List (Option Outcome) :=
  let (s', ws') := awaitWithin (s.horizon ws - s.now + 2) s (s.serveWaiters (ws.map (·, none)))
  (s', ws'.map (·.2))

end Link
end RaceLink
