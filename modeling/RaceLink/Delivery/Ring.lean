/-!
# Rings

A ring keeps the last few of the items pushed to it, for readers who take them at their own pace.
A reader is no more than the number of the item it reads next; one that fell behind by more than
the ring keeps goes on with the oldest item that is left.

* `Ring.push` — adds an item and forgets the oldest one too many.
* `Ring.look` — the item a reader gets when it asks for one.
* `Ring.drain` — everything a reader can have now, and whether it missed anything.
-/

set_option autoImplicit false

namespace RaceLink

/-- The last `capacity` of the items pushed so far. -/
structure Ring (α : Type) where
  capacity : Nat
  /-- How many items are kept no longer. -/
  forgotten : Nat
  kept : List α
  deriving Repr

namespace Ring

variable {α : Type}

/-- The least power of two that is at least as large as a number. -/
def roomFor (n : Nat) : Nat := if n ≤ 1 then 1 else Nat.pow 2 ((n - 1).log2 + 1)

/-- A ring for at least as many items as asked for: capacities are powers of two. -/
def make (atLeast : Nat) : Ring α := ⟨roomFor (max 1 atLeast), 0, []⟩

/-- The number of items pushed so far. -/
def total (r : Ring α) : Nat := r.forgotten + r.kept.length

/-- The ring after one more item. -/
def push (r : Ring α) (a : α) : Ring α :=
  let kept := r.kept ++ [a]
  if kept.length ≤ r.capacity then { r with kept := kept }
  else { r with forgotten := r.forgotten + 1, kept := kept.drop 1 }

/-- What a reader gets when it asks for items. -/
structure Catch (α : Type) where
  items : List α
  /-- Whether items were forgotten before the reader came to them. -/
  missed : Bool
  /-- The number of the item to be read next. -/
  next : Nat
  deriving Repr

/-- Takes one item: number `next`, or the oldest one that is kept. -/
def look (r : Ring α) (next : Nat) : Catch α :=
  let start := max next r.forgotten
  let item := r.kept[start - r.forgotten]?
  ⟨item.toList, decide (next < r.forgotten), start + item.toList.length⟩

/-- Takes everything from item number `next` on, as far as it is kept. -/
def drain (r : Ring α) (next : Nat) : Catch α :=
  ⟨r.kept.drop (next - r.forgotten), decide (next < r.forgotten), r.total⟩

end Ring
end RaceLink
