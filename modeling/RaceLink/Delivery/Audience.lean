import RaceLink.Delivery.Hub

/-!
# Audiences

A hub and all who listen to it: the observers, which it calls, and the streams, which read its ring
when they like.

* `Audience.Act` — what can be done to a hub and its streams.
* `Audience.Heard` — what is heard of an act.
* `Audience.act` — the audience after an act, and what is heard of it.
-/

set_option autoImplicit false

namespace RaceLink

/-- A hub and its streams. -/
structure Audience where
  hub : Hub
  /-- The number of the notice that each stream reads next; none for a stream that was given up. -/
  streams : List (Option Nat)
  /-- Whether the hub is gone. -/
  dropped : Bool
  deriving Repr

namespace Audience

/-- What can be done to a hub and its streams. -/
inductive Act where
  | addObserver
  | subscribe
  | unsubscribe (stream : Nat)
  | publish (notice : Notice) (model : Model)
  /-- Asks a stream for one notice. -/
  | look (stream : Nat)
  /-- Asks a stream for notices until it has none ready. -/
  | drain (stream : Nat)
  | drop
  deriving DecidableEq, Repr

/-- What is heard of an act. -/
structure Heard where
  calls : List Call
  notices : List Notice
  /-- Whether a stream said that it has ended. -/
  ended : Bool
  warnings : Nat
  deriving Repr

/-- Nothing is heard. -/
def Heard.silence : Heard := ⟨[], [], false, 0⟩

/-- A hub nobody listens to. -/
def make (capacity : Nat) : Audience := ⟨Hub.make capacity, [], false⟩

/-- What a stream reads next, if it is still read at all. -/
def cursor? (a : Audience) (stream : Nat) : Option Nat := a.streams[stream]?.join

/-- A stream is asked for notices.  After the hub is gone it ends where it has nothing more to give:
at once if it was asked for all of them, otherwise when there is none. -/
def read (a : Audience) (stream : Nat) (ask : Ring Notice → Nat → Ring.Catch Notice)
    (untilNone : Bool) : Audience × Heard :=
  match a.cursor? stream with
  | none => (a, { Heard.silence with ended := true })
  | some next =>
    let c := ask a.hub.ring next
    ({ a with streams := a.streams.set stream (some c.next) },
      ⟨[], c.items, a.dropped && (untilNone || c.items.isEmpty), if c.missed then 1 else 0⟩)

/-- The audience after an act, and what is heard of it.  Nothing is published any more once the hub
is gone. -/
def act (a : Audience) : Act → Audience × Heard
  | .addObserver => ({ a with hub := a.hub.addObserver }, .silence)
  | .subscribe => ({ a with streams := a.streams ++ [some a.hub.subscribe] }, .silence)
  | .unsubscribe stream => ({ a with streams := a.streams.set stream none }, .silence)
  | .publish notice model =>
    if a.dropped then (a, .silence)
    else
      let (hub, calls) := a.hub.publish notice model
      ({ a with hub := hub }, { Heard.silence with calls := calls })
  | .look stream => a.read stream Ring.look false
  | .drain stream => a.read stream Ring.drain true
  | .drop => ({ a with dropped := true }, .silence)

end Audience
end RaceLink
