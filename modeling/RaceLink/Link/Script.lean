import RaceLink.Link.Handle
import RaceLink.Link.Stream

/-!
# Scripts

A client together with all who deal with it: far sides, callers, and readers of streams.  They go by
a script, and after every step of it the client runs until it has to wait.

* `Action` — what is done at once; `Ask` — what a caller asks of a handle and then waits for.
* `Step` — some actions and then some calls that are made together, a sleep, or a look at a stream.
* `Scene.step` — the scene after a step, and what those who waited got.
* `Scene.breaks` — whether a step can be made at all.
* `Report`, `Scene.report` — all that can be seen of a step.
* `Scene.play` — the episodes of a script, one for each step.
-/

set_option autoImplicit false

namespace RaceLink

/-- What can be subscribed to. -/
inductive Topic where
  /-- The notices themselves. -/
  | notices
  /-- The newest model. -/
  | models
  /-- The newest state of the connection. -/
  | states
  /-- The newest status, at most at a rate. -/
  | statuses (rate : Rate)
  deriving DecidableEq, Repr

/-- A subscription to a topic that begins now. -/
def Link.subscribe (s : Link) : Topic → Stream
  | .notices => s.notices
  | .models => .models none
  | .states => .states none
  | .statuses rate => s.statuses rate

/-- A subscription to a topic that begins now, if it can be had. -/
def Link.subscribe? (s : Link) : Topic → Option Stream
  | .statuses rate => s.statuses? rate
  | topic => some (s.subscribe topic)

/-- What is done at once.  Far sides act on a session that is named, or else on the newest one. -/
inductive Action where
  | far (session : Option Nat) (what : List Inbound)
  | vanish (session : Option Nat)
  /-- A handle is cloned. -/
  | clone
  /-- A handle is dropped. -/
  | drop
  | subscribe (topic : Topic)
  deriving DecidableEq, Repr

/-- What a caller asks of a handle and then waits for. -/
inductive Ask where
  /-- A call of a handle. -/
  | wish (w : Wish)
  /-- The client is to be closed. -/
  | close
  /-- A state of the connection, for some milliseconds. -/
  | state (wanted : LinkState) (patience : Nat)
  deriving DecidableEq, Repr

/-- One step of a script. -/
inductive Step where
  /-- Actions in order, and then calls that are made together and waited for. -/
  | batch (actions : List Action) (asks : List Ask)
  | sleep (milliseconds : Nat)
  | poll (stream : Nat)
  deriving DecidableEq, Repr

/-- What a caller gets in the end. -/
inductive Answer where
  | noHandle
  /-- An outcome; none if the caller still waits for one. -/
  | outcome (o : Option Outcome)
  deriving DecidableEq, Repr

/-- What a caller has in hand: something to wait for, or an answer. -/
inductive Ticket where
  | waits (w : Waiter)
  | has (a : Answer)
  deriving DecidableEq, Repr

namespace Ticket

/-- What a ticket is waited for. -/
def waiter? : Ticket → Option Waiter
  | waits w => some w
  | has _ => none

/-- The answers of some tickets, from the outcomes of those that were waited for. -/
def answers : List Ticket → List (Option Outcome) → List Answer
  | [], _ => []
  | has a :: ts, os => a :: answers ts os
  | waits _ :: ts, os => .outcome (os.head?.join) :: answers ts os.tail

end Ticket

/-- What a handle shows. -/
structure Face where
  read : Snapshot
  isOpen : Bool
  isClosed : Bool
  deriving DecidableEq, Repr

/-- What a handle shows now, if there is one. -/
def Link.face? (s : Link) : Option Face :=
  if s.handles = 0 then none
  else
    let state := s.stateCell.value
    some ⟨s.snapshot, decide (state = .isOpen), s.cancelled || decide (state = .closed)⟩

/-- The session that is held, unless its far side has gone. -/
def Link.live? (s : Link) : Option Nat :=
  s.phase.session?.filter fun n => !((s.peer? n).map Peer.gone).getD true

/-- When an attempt was made. -/
def Entry.attempted? (e : Entry) : Option Nat :=
  match e.event with
  | .attempted => some e.time
  | _ => none

/-- All that can be seen of a step. -/
structure Report where
  /-- What those who waited got. -/
  answers : List Answer
  /-- What was found in the stream that was looked at. -/
  reading : Option Reading
  now : Nat
  attempts : Nat
  live : Option Nat
  face : Option Face
  /-- When attempts were made. -/
  attempted : List Nat
  /-- What was sent, with the sessions it was sent on. -/
  sent : List (Nat × String)
  /-- What was taken, with the sessions it was taken from. -/
  taken : List (Nat × String)
  calls : List Call
  warnings : Nat

/-- A client, the streams that were subscribed to, and the number of the next request. -/
structure Scene where
  link : Link
  streams : List Stream
  next : Nat

namespace Scene

/-- The scene with a client that has just been started, once it has to wait. -/
def start (s : Link) : Scene := ⟨s.settle, [], 0⟩

/-- The scene after something was done to the client. -/
def apply (c : Scene) (a : Act) : Scene := { c with link := c.link.act a }

/-- The session that an action is about. -/
def target (c : Scene) (session : Option Nat) : Nat := session.getD c.link.peers.length

/-- The scene after an action. -/
def act (c : Scene) : Action → Scene
  | .far session what => c.apply (.far (c.target session) what)
  | .vanish session => c.apply (.vanish (c.target session))
  | .clone => if c.link.handles = 0 then c else c.apply .clone
  | .drop => c.apply .release
  | .subscribe topic => { c with streams := c.streams ++ [c.link.subscribe topic] }

/-- The scene after a call, and what the caller has in hand. -/
def ask (c : Scene) (a : Ask) : Scene × Ticket :=
  if c.link.handles = 0 then (c, .has .noHandle)
  else
    match a with
    | .wish w =>
      match w.request with
      | .error f => (c, .has (.outcome (some (.failed f))))
      | .ok r => ({ c.apply (.submit c.next r) with next := c.next + 1 }, .waits (.answer c.next))
    | .close => (c.apply .cancel, .waits .closed)
    | .state wanted patience => (c, .waits (.state wanted (c.link.now + patience)))

/-- The scene after some calls, and what the callers have in hand. -/
def askAll (c : Scene) : List Ask → Scene × List Ticket
  | [] => (c, [])
  | a :: rest =>
    let (c, t) := c.ask a
    let (c, ts) := c.askAll rest
    (c, t :: ts)

/-- Lets the client run until every caller has an answer. -/
def await (c : Scene) (ts : List Ticket) : Scene × List Answer :=
  let (link, outcomes) := c.link.await (ts.filterMap Ticket.waiter?)
  ({ c with link := link }, Ticket.answers ts outcomes)

/-- The scene after a step, what those who waited got, and what was found in a stream. -/
def step (c : Scene) : Step → Scene × List Answer × Option Reading
  | .batch actions asks =>
    let (c, tickets) := (actions.foldl act c).askAll asks
    let (c, answers) := c.await tickets
    (c.apply .idle, answers, none)
  | .sleep ms => (c.apply (.sleep ms), [], none)
  | .poll i =>
    match c.streams[i]? with
    | none => (c, [], none)
    | some stream =>
      let (reading, stream) := c.link.drain stream
      ({ c with streams := c.streams.set i stream }, [], some reading)

/-- Whether a step breaks off with a panic: it subscribes to something that cannot be had. -/
def breaks (c : Scene) : Step → Bool
  | .batch actions _ => actions.any fun
    | .subscribe topic => (c.link.subscribe? topic).isNone
    | _ => false
  | _ => false

/-- What happened after a log had a length. -/
def news (c : Scene) (since : Nat) : List Entry := c.link.log.toList.drop since

/-- What can be seen of a step, if the log had a length before it. -/
def report (c : Scene) (since : Nat) (answers : List Answer) (reading : Option Reading) : Report :=
  let news := c.news since
  { answers := answers
    reading := reading
    now := c.link.now
    attempts := c.link.attempts
    live := c.link.live?
    face := c.link.face?
    attempted := news.filterMap Entry.attempted?
    sent := news.filterMap (·.event.frame?)
    taken := news.filterMap (·.event.taken?)
    calls := (news.filterMap (·.event.told?)).flatMap fun (n, m) => c.link.hub.calls n m
    warnings :=
      (news.filter (·.event.isWarning)).length + if reading.any (·.missed) then 1 else 0 }

/-- What can be seen when nothing is done. -/
def look (c : Scene) : Report := c.report c.link.log.size [] none

end Scene

/-- A step, and the scene in which it is made. -/
structure Episode where
  before : Scene
  step : Step

namespace Episode

/-- The scene after an episode. -/
def after (e : Episode) : Scene := (e.before.step e.step).1

/-- What can be seen of an episode. -/
def report (e : Episode) : Report :=
  let (after, answers, reading) := e.before.step e.step
  after.report e.before.link.log.size answers reading

end Episode

/-- The episodes of a script. -/
def Scene.play (c : Scene) : List Step → List Episode
  | [] => []
  | st :: rest =>
    let e : Episode := ⟨c, st⟩
    e :: e.after.play rest

end RaceLink
