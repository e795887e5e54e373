import RaceLink.Delivery.Throttle

/-!
# Feeds

A throttle together with the source that it reads, as both are seen by the one who asks the throttle
for items: what the source has ready piles up until the next time it is asked.

* `Feed.Act` — what can happen to a feed.
* `Feed.ask` — asks the throttle for an item; it takes all that the source has ready.
* `Feed.act` — the feed after something happened.
-/

set_option autoImplicit false

namespace RaceLink

/-- A throttle, its source and the time. -/
structure Feed (α : Type) where
  now : Nat
  /-- What the source has ready, the oldest item first. -/
  ready : List α
  /-- Whether the source ends after what it has ready. -/
  closed : Bool
  throttle : Throttle α
  deriving Repr

namespace Feed

variable {α : Type}

/-- What can happen to a feed. -/
inductive Act (α : Type) where
  /-- The source has more items ready. -/
  | emit (items : List α)
  /-- The source ends. -/
  | finish
  | sleep (nanoseconds : Nat)
  | poll
  deriving DecidableEq, Repr

/-- A feed whose throttle is made at a moment. -/
def make (interval now : Nat) : Feed α := ⟨now, [], false, Throttle.make interval now⟩

/-- Asks the throttle for an item. -/
def ask (f : Feed α) : Poll α × Feed α :=
  let (answer, throttle) := f.throttle.poll f.now f.ready f.closed
  (answer, { f with ready := [], throttle := throttle })

/-- The feed after something happened.  A source that has ended has nothing more to give. -/
def act (f : Feed α) : Act α → Feed α
  | .emit items => if f.closed then f else { f with ready := f.ready ++ items }
  | .finish => { f with closed := true }
  | .sleep ns => { f with now := f.now + ns }
  | .poll => f.ask.2

end Feed
end RaceLink
