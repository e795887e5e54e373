import Mathlib.Data.List.Nodup
import RaceLink.Proofs.Link.Life

/-!
# Where requests end

Every request has its own number, and `Life.Kept` says that the requests that found their end in a
chapter, those that wait and those that came too late are all of them, in their order.  So each is
in one of these places only.

* `Life.endings` — the chapters in which a request finds its end; there is at most one
  (`Kept.endings_eq`).
* `Kept.settled_sublist` — requests are taken in the order in which they were handed in.
-/

set_option autoImplicit false

namespace RaceLink
namespace Life

/-- The numbers of some requests. -/
def numbers (rs : List (Nat × Request)) : List Nat := rs.map Prod.fst

@[simp] theorem numbers_append (as bs : List (Nat × Request)) :
    numbers (as ++ bs) = numbers as ++ numbers bs :=
  List.map_append

theorem numbers_numbered (rs : List Request) : numbers (numbered rs) = List.range rs.length := by
  rw [numbers, numbered, List.map_map]
  exact List.zipIdx_map_snd 0 rs ▸ List.range_eq_range'.symm

theorem mem_numbered {rs : List Request} {id : Nat} {r : Request} :
    (id, r) ∈ numbered rs ↔ rs[id]? = some r := by
  rw [numbered, List.mem_map]
  constructor
  · rintro ⟨⟨r', id'⟩, hmem, he⟩
    obtain ⟨rfl, rfl⟩ := Prod.mk.inj he
    exact List.mem_zipIdx_iff_getElem?.1 hmem
  · intro h
    exact ⟨(r, id), List.mem_zipIdx_iff_getElem?.2 h, rfl⟩

/-- If no two of some lists share an element, only one of them has a given one. -/
theorem filter_eq_singleton {α β : Type} [DecidableEq β] {l : List α} {f : α → List β}
    (h : (l.flatMap f).Nodup) {a : α} (ha : a ∈ l) {x : β} (hx : x ∈ f a) :
    l.filter (fun b => x ∈ f b) = [a] := by
  induction l with
  | nil => cases ha
  | cons b l ih =>
    rw [List.flatMap_cons, List.nodup_append] at h
    obtain ⟨-, hrest, hdisjoint⟩ := h
    rcases List.mem_cons.1 ha with rfl | hmem
    · have hnone : l.filter (fun b => x ∈ f b) = [] := by
        rw [List.filter_eq_nil_iff]
        intro b hb hxb
        exact hdisjoint x hx x (List.mem_flatMap.2 ⟨b, hb, of_decide_eq_true hxb⟩) rfl
      rw [List.filter_cons, if_pos (decide_eq_true hx), hnone]
    · have hnot : ¬ decide (x ∈ f b) = true := fun hxb =>
        hdisjoint x (of_decide_eq_true hxb) x (List.mem_flatMap.2 ⟨a, hmem, hx⟩) rfl
      rw [List.filter_cons, if_neg hnot]
      exact ih hrest hmem

/-- The chapters in which a request finds its end. -/
def endings (c : Life) (id : Nat) : List Chapter :=
  c.chapters.filter fun ch => id ∈ numbers ch.settled

/-- All requests, by the places where they are. -/
theorem Kept.numbers {c : Life} (h : c.Kept) :
    c.chapters.flatMap (fun ch => numbers ch.settled) ++ Life.numbers c.link.queue
      ++ Life.numbers c.late = List.range c.asked.length := by
  have hmap : Life.numbers (c.chapters.flatMap Chapter.settled) =
      c.chapters.flatMap fun ch => Life.numbers ch.settled := List.map_flatMap ..
  rw [← numbers_numbered, ← h.requests, numbers_append, numbers_append, hmap]

/-- No number is given twice. -/
theorem Kept.nodup {c : Life} (h : c.Kept) :
    (c.chapters.flatMap (fun ch => Life.numbers ch.settled)).Nodup := by
  have hall : (List.range c.asked.length).Nodup := List.nodup_range
  rw [← h.numbers] at hall
  exact (List.nodup_append.1 (List.nodup_append.1 hall).1).1

/-- A request finds its end in one chapter at most. -/
theorem Kept.endings_eq {c : Life} (h : c.Kept) {ch : Chapter} (hch : ch ∈ c.chapters) {id : Nat}
    (hid : id ∈ Life.numbers ch.settled) : c.endings id = [ch] :=
  filter_eq_singleton h.nodup hch hid

theorem Kept.chapter_unique {c : Life} (h : c.Kept) {ch ch' : Chapter} (hch : ch ∈ c.chapters)
    (hch' : ch' ∈ c.chapters) {id : Nat} (hid : id ∈ Life.numbers ch.settled)
    (hid' : id ∈ Life.numbers ch'.settled) : ch = ch' := by
  have heq := (h.endings_eq hch hid).symm.trans (h.endings_eq hch' hid')
  exact (List.cons.inj heq).1

/-- Requests are taken in the order in which they were handed in. -/
theorem Kept.settled_sublist {c : Life} (h : c.Kept) :
    (c.chapters.flatMap Chapter.settled).Sublist (numbered c.asked) := by
  rw [← h.requests, List.append_assoc]
  exact List.sublist_append_left _ _

/-- A request that found its end in a chapter was handed in. -/
theorem Kept.asked_of_settled {c : Life} (h : c.Kept) {ch : Chapter} (hch : ch ∈ c.chapters)
    {id : Nat} {r : Request} (hid : (id, r) ∈ ch.settled) : c.asked[id]? = some r := by
  rw [← mem_numbered]
  exact h.settled_sublist.subset (List.mem_flatMap.2 ⟨ch, hch, hid⟩)

end Life
end RaceLink
