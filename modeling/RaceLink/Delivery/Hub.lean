import RaceLink.Delivery.Notice
import RaceLink.Delivery.Ring

/-!
# The hub

Where notices are published.  Observers are told at once, in the order they were added and together
with the model the notice is about; streams read the same notices from a ring.

* `Hub.publish` — the hub after a notice, and the calls the observers get.
-/

set_option autoImplicit false

namespace RaceLink

/-- The observers, numbered from zero, and the ring that streams read. -/
structure Hub where
  observers : Nat
  ring : Ring Notice
  deriving Repr

/-- One call of an observer. -/
structure Call where
  observer : Nat
  notice : Notice
  model : Model
  deriving Repr

namespace Hub

/-- A hub without observers. -/
def make (capacity : Nat) : Hub := ⟨0, Ring.make capacity⟩

/-- The hub with one more observer. -/
def addObserver (h : Hub) : Hub := { h with observers := h.observers + 1 }

/-- The calls that tell the observers of a notice. -/
def calls (h : Hub) (notice : Notice) (model : Model) : List Call :=
  (List.range h.observers).map fun i => ⟨i, notice, model⟩

/-- Tells the observers of a notice and keeps it for the streams. -/
def publish (h : Hub) (notice : Notice) (model : Model) : Hub × List Call :=
  ({ h with ring := h.ring.push notice }, h.calls notice model)

/-- Where a stream that begins now starts to read. -/
def subscribe (h : Hub) : Nat := h.ring.total

end Hub
end RaceLink
