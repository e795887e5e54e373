/-!
# Latest values

A cell that readers look at when they like: they see the newest value and no value twice, and may
miss any that was overwritten in between.

* `Latest.set` — writes a value; writing the same value again counts as news.
* `Latest.poll` — the newest value, if it was written after the reader last looked.
-/

set_option autoImplicit false

namespace RaceLink

/-- The newest value and the number of times one was written. -/
structure Latest (α : Type) where
  value : α
  writes : Nat
  deriving Repr

namespace Latest

variable {α : Type}

/-- A cell with its first value. -/
def make (a : α) : Latest α := ⟨a, 0⟩

/-- The cell after a value is written. -/
def set (c : Latest α) (a : α) : Latest α := ⟨a, c.writes + 1⟩

/-- What a reader gets: the value, if it is news, and the count it has now seen.  To a reader that
has not looked yet the first value is news. -/
def poll (c : Latest α) (seen : Option Nat) : Option α × Option Nat :=
  if seen = some c.writes then (none, seen) else (some c.value, some c.writes)

end Latest
end RaceLink
