import RaceLink.Delivery.Ring

/-!
# A ring is a window

The items that were ever pushed to a ring are numbered in their order.  What the ring keeps is the
end of this list, and a reader finds there whatever has not slid out of it before it came.

* `Ring.roomFor_spec` — a ring has room for the least power of two that is asked for.
* `Ring.Holds` — what the ring keeps is the end of a list of items; pushing keeps it so
  (`Holds.push`).
* `Ring.Window` — for a ring with a history from its first item on, which items these are: the last
  ones, as many as there is room for.
* `Window.look`, `Window.drain` — what a reader gets who is so far behind (`Catch.From`).
* `Ring.drain_eq_looks` — a drain is one look after the other.
-/

set_option autoImplicit false

namespace RaceLink
namespace Ring

/-! ## Room -/

/-- The room of a ring is the least power of two that is enough. -/
theorem roomFor_spec (n : Nat) :
    ∃ k, roomFor n = Nat.pow 2 k ∧ n ≤ roomFor n ∧
      ∀ j, n ≤ Nat.pow 2 j → roomFor n ≤ Nat.pow 2 j := by
  rw [roomFor]
  split
  · exact ⟨0, rfl, by omega, fun j _ => Nat.two_pow_pos j⟩
  · rename_i hn
    refine ⟨(n - 1).log2 + 1, rfl, ?_, fun j hj => ?_⟩
    · have hlt : n - 1 < Nat.pow 2 ((n - 1).log2 + 1) := Nat.lt_log2_self
      omega
    · have hlt : n - 1 < Nat.pow 2 j := by omega
      exact Nat.pow_le_pow_right (by decide) ((Nat.log2_lt (by omega)).2 hlt)

theorem roomFor_pos (n : Nat) : 0 < roomFor n := by
  obtain ⟨k, hk, -⟩ := roomFor_spec n
  rw [hk]
  exact Nat.two_pow_pos k

variable {α : Type} {r : Ring α} {first next : Nat} {all : List α}

/-! ## The end of a list -/

/-- What a ring keeps is the end of some items, which are numbered from `first` on. -/
structure Holds (r : Ring α) (first : Nat) (all : List α) : Prop where
  total : r.total = first + all.length
  kept : r.kept = all.drop (r.forgotten - first)
  le : first ≤ r.forgotten

theorem holds_self (r : Ring α) : r.Holds r.forgotten r.kept :=
  ⟨rfl, by rw [Nat.sub_self, List.drop_zero], Nat.le_refl _⟩

theorem Holds.forgotten_le (h : r.Holds first all) : r.forgotten ≤ first + all.length := by
  rw [← h.total]
  exact Nat.le_add_right _ _

theorem Holds.push (h : r.Holds first all) (a : α) : (r.push a).Holds first (all ++ [a]) := by
  have hle := h.forgotten_le
  have hkept : r.kept ++ [a] = (all ++ [a]).drop (r.forgotten - first) := by
    rw [h.kept, List.drop_append_of_le_length (by omega)]
  have htotal : r.forgotten + (r.kept ++ [a]).length = first + (all ++ [a]).length := by
    rw [List.length_append, ← Nat.add_assoc, List.length_append, ← Nat.add_assoc, ← h.total]
    rfl
  rw [Ring.push]
  split
  · exact ⟨htotal, hkept, h.le⟩
  · refine ⟨?_, ?_, Nat.le_succ_of_le h.le⟩
    · show r.forgotten + 1 + ((r.kept ++ [a]).drop 1).length = _
      rw [← htotal, List.length_drop, List.length_append, List.length_singleton]
      omega
    · show (r.kept ++ [a]).drop 1 = (all ++ [a]).drop (r.forgotten + 1 - first)
      rw [hkept, List.drop_drop, Nat.sub_add_comm h.le]

/-! ## A whole history -/

/-- A ring and all items that were ever pushed to it. -/
structure Window (r : Ring α) (all : List α) : Prop extends Holds r 0 all where
  room : 0 < r.capacity
  /-- Only what there is no room for is forgotten. -/
  forgotten : r.forgotten = all.length - r.capacity

theorem window_make (atLeast : Nat) : (make atLeast : Ring α).Window [] :=
  ⟨⟨rfl, rfl, Nat.le_refl 0⟩, roomFor_pos _, (Nat.zero_sub _).symm⟩

@[simp] theorem capacity_push (r : Ring α) (a : α) : (r.push a).capacity = r.capacity := by
  rw [push]
  split <;> rfl

theorem Window.push (h : r.Window all) (a : α) : (r.push a).Window (all ++ [a]) := by
  have hkept : r.kept.length = all.length - r.forgotten := by
    rw [h.kept, List.length_drop, Nat.sub_zero]
  have hforgotten := h.forgotten
  refine ⟨h.toHolds.push a, by rw [capacity_push]; exact h.room, ?_⟩
  rw [capacity_push, Ring.push]
  split
  · rename_i hroom
    rw [List.length_append, List.length_singleton] at hroom
    show r.forgotten = _
    rw [List.length_append, List.length_singleton]
    omega
  · rename_i hroom
    rw [List.length_append, List.length_singleton] at hroom
    show r.forgotten + 1 = _
    rw [List.length_append, List.length_singleton]
    omega

/-- The number of the first item that a reader still finds. -/
def reach (capacity total next : Nat) : Nat := max next (total - capacity)

/-- A reader at item number `next` took as many as `k` items, and the first of them is the oldest
one that it could still have. -/
structure Catch.From (c : Catch α) (capacity : Nat) (all : List α) (next k : Nat) : Prop where
  items : c.items = (all.drop (reach capacity all.length next)).take k
  missed : c.missed = decide (capacity < all.length - next)
  next : c.next = reach capacity all.length next + c.items.length

theorem Window.start_eq (h : r.Window all) (next : Nat) :
    max next r.forgotten = reach r.capacity all.length next := by
  rw [h.forgotten, reach]

theorem Window.missed_eq (h : r.Window all) (next : Nat) :
    decide (next < r.forgotten) = decide (r.capacity < all.length - next) := by
  have hforgotten := h.forgotten
  exact decide_eq_decide.2 (by omega)

/-- What is left for a reader at item number `next`. -/
theorem Window.left_eq (h : r.Window all) (next : Nat) :
    r.kept.drop (next - r.forgotten) = all.drop (reach r.capacity all.length next) := by
  rw [h.kept, List.drop_drop, Nat.sub_zero, ← h.start_eq]
  congr 1
  omega

theorem Window.look (h : r.Window all) (next : Nat) :
    (r.look next).From r.capacity all next 1 where
  items := by
    show (r.kept[max next r.forgotten - r.forgotten]?).toList = _
    have hstart : max next r.forgotten - r.forgotten = next - r.forgotten := by omega
    rw [← h.left_eq, hstart, List.take_one, List.head?_drop]
  missed := h.missed_eq next
  next := congrArg (· + (r.look next).items.length) (h.start_eq next)

theorem Window.drain_items (h : r.Window all) (next : Nat) :
    (r.drain next).items = all.drop (reach r.capacity all.length next) := h.left_eq next

theorem Window.look_items (h : r.Window all) (next : Nat) :
    (r.look next).items = (r.drain next).items.take 1 := by
  rw [h.drain_items, (h.look next).items]

theorem Window.drain (h : r.Window all) (hnext : next ≤ all.length) :
    (r.drain next).From r.capacity all next all.length where
  items := by
    rw [List.take_of_length_le (List.length_drop ▸ Nat.sub_le _ _), h.drain_items]
  missed := h.missed_eq next
  next := by
    show r.total = _ + (r.kept.drop (next - r.forgotten)).length
    rw [h.total, h.left_eq, List.length_drop, reach]
    omega

/-- A drain is one look after the other, until nothing is found.  Only the first of them can find
that something was missed. -/
theorem drain_eq_looks (r : Ring α) (next : Nat) :
    (r.drain next).items =
        (match (r.look next).items with
        | [] => []
        | a :: _ => a :: (r.drain (r.look next).next).items) ∧
      (r.drain next).missed = (r.look next).missed ∧
      (r.drain (r.look next).next).missed = false := by
  have hstart : max next r.forgotten - r.forgotten = next - r.forgotten := by omega
  refine ⟨?_, rfl, ?_⟩
  · show r.kept.drop (next - r.forgotten) = _
    rw [Ring.look]
    dsimp only
    rw [hstart]
    cases hitem : r.kept[next - r.forgotten]? with
    | none => exact List.drop_eq_nil_iff.2 (List.getElem?_eq_none_iff.1 hitem)
    | some a =>
      obtain ⟨hlt, rfl⟩ := List.getElem?_eq_some_iff.1 hitem
      have hnext : max next r.forgotten + 1 - r.forgotten = next - r.forgotten + 1 := by omega
      show r.kept.drop _ = _ :: r.kept.drop (max next r.forgotten + 1 - r.forgotten)
      rw [hnext]
      exact List.drop_eq_getElem_cons hlt
  · refine decide_eq_false ?_
    have hle := Nat.le_max_right next r.forgotten
    show ¬ (max next r.forgotten + _ < r.forgotten)
    omega

end Ring
end RaceLink
