import RaceLink.Delivery.Throttle
import RaceLink.Link.Basic
import RaceLink.Race.Rate

/-!
# Streams

What a handle can subscribe to.

* notices: every notice from the subscription on, unless the reader falls too far behind;
* models and states: the newest value, beginning with the one current at the first look;
* status reports: the newest report, if one came, at most as often as a rate allows.

`Link.statuses?` says at which rates reports can be had.  `Link.look` asks a stream for its next
item, and `Link.drain` reads a stream for as long as it has something ready.
-/

set_option autoImplicit false

namespace RaceLink

/-- A subscription and how far it has been read. -/
inductive Stream where
  | notices (next : Nat)
  | models (seen : Option Nat)
  | states (seen : Option Nat)
  | status (seen : Option Nat) (throttle : Option (Throttle Status))
  deriving Repr

/-- An item of a stream. -/
inductive Item where
  | notice (n : Notice)
  | model (m : Model)
  | state (s : LinkState)
  | status (s : Status)
  deriving DecidableEq, Repr

/-- What reading a stream brings: the items that were ready, whether the stream has ended after
them, and whether some were missed. -/
structure Reading where
  items : List Item
  ended : Bool
  missed : Bool
  deriving Repr

namespace Link

/-- Whether the client has stopped for good. -/
def isStopped (s : Link) : Bool := decide (s.phase = .stopped)

/-- A subscription to notices from now on. -/
def notices (s : Link) : Stream := .notices s.hub.subscribe

/-- A subscription to reports at a rate. -/
def statuses (s : Link) (rate : Rate) : Stream :=
  .status none (rate.interval?.map fun i => Throttle.make i (s.now * Throttle.millisecond))

/-- A subscription to reports at a rate, unless no throttle can be made for that rate. -/
def statuses? (s : Link) (rate : Rate) : Option Stream :=
  match rate.interval? with
  | none => some (.status none none)
  | some i =>
    (Throttle.make? i (s.now * Throttle.millisecond)).map fun throttle =>
      .status none (some throttle)

/-- Asks a stream for its next item. -/
def look (s : Link) : Stream → Poll Item × Stream
  | .notices next =>
    let c := s.hub.ring.look next
    (.ofNews (c.items.head?.map .notice) (s.isStopped && s.handles == 0), .notices c.next)
  | .models seen =>
    let (news, seen) := s.modelCell.poll seen
    (.ofNews (news.map .model) s.isStopped, .models seen)
  | .states seen =>
    let (news, seen) := s.stateCell.poll seen
    (.ofNews (news.map .state) s.isStopped, .states seen)
  | .status seen none =>
    let (news, seen) := s.statusCell.poll seen
    (.ofNews (news.join.map .status) s.isStopped, .status seen none)
  | .status seen (some throttle) =>
    let (news, seen) := s.statusCell.poll seen
    let (answer, throttle) :=
      throttle.poll (s.now * Throttle.millisecond) news.join.toList s.isStopped
    (answer.map .status, .status seen (some throttle))

/-- Reads a stream for as long as it has something ready. -/
def drain (s : Link) : Stream → Reading × Stream
  | .notices next =>
    let c := s.hub.ring.drain next
    (⟨c.items.map .notice, s.isStopped && s.handles == 0, c.missed⟩, .notices c.next)
  | stream =>
    match s.look stream with
    | (.item a, stream) =>
      -- an item leaves nothing behind, so the next look only tells whether this was the last
      let (last, stream) := s.look stream
      (⟨[a], decide (last = .ended), false⟩, stream)
    | (.pending, stream) => (⟨[], false, false⟩, stream)
    | (.ended, stream) => (⟨[], true, false⟩, stream)

end Link
end RaceLink
