/-!
# Throttles

A throttle lets at most one item through per interval.  Whenever it is asked it first takes all
that its source has, and of that keeps only the newest item; so what it lets through is always up
to date, and the last item of all is never lost.

* `Throttle.poll` — asks once, at a moment in time.
* `Throttle.nextDue` — when the next tick falls due after one is taken: one interval after the last
  one was due, unless the taker came late, and then one interval from now.
* `Throttle.make?` — a throttle for an interval, if it is one: the timer refuses an empty one.
* `Throttle.wakeUp?` — when it is worth asking again.

Times are in nanoseconds, unless they are said to be in milliseconds.
-/

set_option autoImplicit false

namespace RaceLink

/-- What asking a stream for its next item brings. -/
inductive Poll (α : Type) where
  | item (a : α)
  | pending
  | ended
  deriving DecidableEq, Repr

namespace Poll

variable {α β : Type}

/-- What a stream answers that has some news, or none, and that ends or goes on after them. -/
def ofNews (news : Option α) (ends : Bool) : Poll α :=
  match news with
  | some a => .item a
  | none => if ends then .ended else .pending

/-- The answer of a stream whose items are turned into others. -/
def map (f : α → β) : Poll α → Poll β
  | item a => .item (f a)
  | pending => .pending
  | ended => .ended

end Poll

/-- A throttle: its interval, when the next tick is due, the item it keeps, and whether its source
has ended. -/
structure Throttle (α : Type) where
  interval : Nat
  due : Nat
  kept : Option α
  sourceEnded : Bool
  deriving Repr

namespace Throttle

variable {α : Type}

/-- How late a tick may be taken without moving those after it. -/
def tolerance : Nat := 5000000

/-- A throttle made at a moment; its first tick is due at once. -/
def make (interval now : Nat) : Throttle α := ⟨interval, now, none, false⟩

/-- A throttle made at a moment, unless its interval is empty: there is no timer for that. -/
def make? (interval now : Nat) : Option (Throttle α) :=
  if interval = 0 then none else some (make interval now)

/-- When the next tick is due after one is taken. -/
def nextDue (interval due now : Nat) : Nat :=
  if due + tolerance < now then now + interval else due + interval

/-- The throttle after it took what its source has ready. -/
def absorb (th : Throttle α) (ready : List α) (ended : Bool) : Throttle α :=
  if th.sourceEnded then th
  else { th with kept := ready.getLast?.or th.kept, sourceEnded := ended }

/-- Asks for an item at a moment; `ready` is what the source has by then, and `ended` tells whether
it ends after that. -/
def poll (th : Throttle α) (now : Nat) (ready : List α) (ended : Bool) : Poll α × Throttle α :=
  let th := th.absorb ready ended
  match th.kept with
  | none => (if th.sourceEnded then .ended else .pending, th)
  | some a =>
    if th.due ≤ now then
      (.item a, { th with due := nextDue th.interval th.due now, kept := none })
    else (.pending, th)

/-- Nanoseconds in a millisecond. -/
def millisecond : Nat := 1000000

/-- The first whole millisecond at which the item that is kept can be let through, if one is
kept. -/
def wakeUp? (th : Throttle α) : Option Nat :=
  th.kept.map fun _ => (th.due + (millisecond - 1)) / millisecond

end Throttle
end RaceLink
