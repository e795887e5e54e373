/-!
# The far side

What a client meets when it seeks a connection, and what it holds once it has one.  How an attempt
ends, what arrives and which sends fail is not the client's doing: an `Attempt` says it beforehand,
and a `Peer` is what is left of that while the session lasts.

* `Attempt.within` — an attempt of one who does not wait for ever.
* `Peer.next` — what the client finds when it looks for a frame.
* `Peer.send` — the peer after one more text, or why the text was not accepted.
-/

set_option autoImplicit false

namespace RaceLink

/-- How an attempt to connect ends, if it ends. -/
inductive Ending where
  /-- A session is opened. -/
  | accepted
  /-- It fails. -/
  | refused
  /-- It hangs. -/
  | never
  deriving DecidableEq, Repr

/-- How the transport's close of a session goes when the client closes it. -/
inductive Farewell where
  /-- It returns after some milliseconds, with or without an error. -/
  | after (delay : Nat) (failing : Bool)
  /-- It hangs, so that the client has to give it up (`Link.closeLimit`). -/
  | never
  deriving DecidableEq, Repr

/-- One attempt to connect: how and when it ends, how many texts the session it leads to accepts,
and how that session takes its end. -/
structure Attempt where
  ending : Ending
  /-- How long it takes to end, in milliseconds. -/
  delay : Nat
  /-- How many texts the session accepts, where that is limited. -/
  sends : Option Nat
  farewell : Farewell
  deriving DecidableEq, Repr

/-- An attempt that succeeds at once and leads to a session without faults. -/
def Attempt.smooth : Attempt := ⟨.accepted, 0, none, .after 0 false⟩

/-- The attempt as it goes if it is given up once it has taken longer than a time. -/
def Attempt.within (limit : Nat) (a : Attempt) : Attempt :=
  if a.ending = .never ∨ limit < a.delay then { a with ending := .refused, delay := limit } else a

/-- What the far side does on a session, in the order in which the client will see it. -/
inductive Inbound where
  | text (t : String)
  /-- It closes the session. -/
  | close
  /-- The transport fails. -/
  | failure (reason : String)
  deriving DecidableEq, Repr

/-- The far side of one session. -/
structure Peer where
  /-- What it has done and the client has not seen. -/
  inbox : List Inbound
  /-- Whether it does nothing any more. -/
  gone : Bool
  /-- How many texts are still accepted, where that is limited. -/
  sends : Option Nat
  farewell : Farewell
  deriving DecidableEq, Repr

namespace Peer

/-- The far side of a session that has just been opened. -/
def accept (a : Attempt) : Peer := ⟨[], false, a.sends, a.farewell⟩

/-- What the client finds when it looks for a frame. -/
inductive Arrival where
  | text (t : String)
  /-- The session is over: it was closed, it failed, or its far side has gone. -/
  | over
  /-- Nothing has arrived yet. -/
  | nothing
  deriving DecidableEq, Repr

/-- What the client finds when it looks for a frame. -/
def next (p : Peer) : Arrival :=
  match p.inbox with
  | .text t :: _ => .text t
  | .close :: _ => .over
  | .failure _ :: _ => .over
  | [] => if p.gone then .over else .nothing

/-- The peer after what it did first has been seen. -/
def advance (p : Peer) : Peer := { p with inbox := p.inbox.drop 1 }

/-- The peer after the client sent one more text, or why that failed. -/
def send (p : Peer) : Except String Peer :=
  match p.sends with
  | some 0 => .error "scripted send failure"
  | some (n + 1) => if p.gone then .error "mock server gone" else .ok { p with sends := some n }
  | none => if p.gone then .error "mock server gone" else .ok p

/-- The peer after it did something; one that has gone does nothing. -/
def does (p : Peer) (what : List Inbound) : Peer :=
  if p.gone then p else { p with inbox := p.inbox ++ what }

/-- The peer after it vanished. -/
def vanish (p : Peer) : Peer := { p with gone := true }

end Peer
end RaceLink
