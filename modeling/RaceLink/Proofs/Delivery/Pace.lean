import Mathlib.Order.Hom.Basic
import Mathlib.Data.List.NodupEquivFin
import RaceLink.Proofs.Delivery.Feed

/-!
# The pace of a throttle

A tick that is taken late moves those after it, but only if it is more than a little late.  So two
items in a row may be closer to each other than an interval, and yet not many such pairs in a row:
a deadline moves by at least an interval with every tick, and from the first item of any stretch to
its last one only the first can have come a little late without moving the rest.

* `Throttle.Ticks` — moments at which ticks are taken, none of them before it is due.
* `Throttle.Ticks.le`, `Throttle.Ticks.apart` — how far the moments are from the first deadline,
  and from each other; `Throttle.Ticks.crowd` — how many of them fit into a window.
* `Feed.yields` — what the polls among some acts let through, and when; the ticks are taken at
  these moments (`Feed.ticks_yields`).
* `Feed.Paced`, `Feed.throttle_paced` — **the pace of throttles**, for every interval and through
  all that can happen to a feed.
-/

set_option autoImplicit false

namespace RaceLink

namespace Throttle

/-- Moments at which ticks are taken one after the other, the first of them due at `due`. -/
def Ticks (interval : Nat) : Nat → List Nat → Prop
  | _, [] => True
  | due, t :: rest => due ≤ t ∧ Ticks interval (nextDue interval due t) rest

variable {interval due now : Nat} {ts : List Nat}

/-- The next tick is due an interval after this one was due, or later. -/
theorem due_add_le_nextDue (interval : Nat) (h : due ≤ now) :
    due + interval ≤ nextDue interval due now := by
  rw [nextDue]
  split
  · exact Nat.add_le_add_right h interval
  · exact Nat.le_refl _

/-- It is due an interval after this one was taken, but for a little. -/
theorem now_add_le_nextDue (interval due now : Nat) :
    now + interval ≤ nextDue interval due now + tolerance := by
  rw [nextDue]
  split <;> omega

namespace Ticks

/-- A deadline moves by an interval with every tick. -/
theorem le (h : Ticks interval due ts) {k t : Nat} (hk : ts[k]? = some t) :
    due + k * interval ≤ t := by
  induction ts generalizing due k with
  | nil => exact nomatch hk
  | cons s rest ih =>
    cases k with
    | zero =>
      obtain rfl : s = t := Option.some.inj hk
      rw [Nat.zero_mul]
      exact h.1
    | succ k =>
      have hlater := ih h.2 hk
      have hmoved := due_add_le_nextDue interval h.1
      rw [Nat.succ_mul]
      omega

/-- However many ticks lie between two moments, the tolerance is paid once. -/
theorem apart (h : Ticks interval due ts) {i j a b : Nat} (hij : i < j) (ha : ts[i]? = some a)
    (hb : ts[j]? = some b) : a + (j - i) * interval ≤ b + tolerance := by
  induction ts generalizing due i j with
  | nil => exact nomatch ha
  | cons t rest ih =>
    obtain ⟨j, rfl⟩ := Nat.exists_eq_succ_of_ne_zero (Nat.ne_zero_of_lt hij)
    cases i with
    | zero =>
      obtain rfl : t = a := Option.some.inj ha
      have hlater := h.2.le hb
      have htaken := now_add_le_nextDue interval due t
      rw [Nat.sub_zero, Nat.succ_mul]
      omega
    | succ i =>
      rw [Nat.succ_sub_succ]
      exact ih h.2 (Nat.lt_of_succ_lt_succ hij) ha hb

/-- Moments that are picked from a window are no more than fit into it. -/
theorem crowd (h : Ticks interval due ts) {picked : List Nat} (hpicked : picked.Sublist ts)
    (start length : Nat) (hwindow : ∀ t ∈ picked, start ≤ t ∧ t ≤ start + length) :
    (picked.length - 1) * interval ≤ length + tolerance := by
  rcases Nat.lt_or_ge 1 picked.length with hmany | hfew
  case inr =>
    rw [Nat.sub_eq_zero_of_le hfew, Nat.zero_mul]
    exact Nat.zero_le _
  case inl =>
    obtain ⟨place, hplace⟩ := List.sublist_iff_exists_orderEmbedding_getElem?_eq.1 hpicked
    have hfirst := List.getElem?_eq_getElem (Nat.zero_lt_of_lt hmany)
    have hlast := List.getElem?_eq_getElem (Nat.sub_one_lt_of_lt hmany)
    -- Between two that were picked there are at least as many ticks as were picked between them.
    have hspread : picked.length - 1 + place 0 ≤ place (picked.length - 1) :=
      place.strictMono.add_le_nat (picked.length - 1) 0
    have hapart := h.apart (by omega) (hplace 0 ▸ hfirst) (hplace (picked.length - 1) ▸ hlast)
    have hstart := (hwindow _ (List.getElem_mem (Nat.zero_lt_of_lt hmany))).1
    have hend := (hwindow _ (List.getElem_mem (Nat.sub_one_lt_of_lt hmany))).2
    have hgap := Nat.mul_le_mul_right interval (Nat.le_sub_of_add_le hspread)
    omega

end Ticks
end Throttle

namespace Feed

variable {α : Type}

/-- What an act lets through. -/
def yielded (f : Feed α) : Act α → Option α
  | .poll =>
    match f.ask.1 with
    | .item a => some a
    | _ => none
  | _ => none

/-- What the acts let through one after the other, and when. -/
def yields (f : Feed α) : List (Act α) → List (Nat × α)
  | [] => []
  | a :: acts => ((f.yielded a).map (f.now, ·)).toList ++ (f.act a).yields acts

variable {f : Feed α}

theorem now_le_act (f : Feed α) (a : Act α) : f.now ≤ (f.act a).now := by
  cases a with
  | emit items =>
    rw [act]
    split <;> exact Nat.le_refl _
  | sleep ns => exact Nat.le_add_right _ ns
  | finish | poll => exact Nat.le_refl _

/-- Only an act that lets something through takes a tick, and the tick was due. -/
theorem tick_act (f : Feed α) (a : Act α) :
    (f.act a).throttle.interval = f.throttle.interval ∧
    ((f.yielded a = none ∧ (f.act a).throttle.due = f.throttle.due) ∨
      ∃ x, f.yielded a = some x ∧ f.throttle.due ≤ f.now ∧ (f.act a).throttle.due =
        Throttle.nextDue f.throttle.interval f.throttle.due f.now) := by
  cases a with
  | emit items =>
    rw [act]
    split <;> exact ⟨rfl, .inl ⟨rfl, rfl⟩⟩
  | finish | sleep _ => exact ⟨rfl, .inl ⟨rfl, rfl⟩⟩
  | poll =>
    simp only [yielded, act, ask_fst, ask_throttle]
    have hinterval : (f.throttle.absorb f.ready f.closed).interval = f.throttle.interval :=
      Throttle.absorb_interval
    have hdue : (f.throttle.absorb f.ready f.closed).due = f.throttle.due := Throttle.absorb_due
    cases hhand : (f.throttle.absorb f.ready f.closed).kept with
    | none =>
      rw [Throttle.poll_none hhand]
      refine ⟨hinterval, .inl ⟨?_, hdue⟩⟩
      split
      next h => split at h <;> cases h
      · rfl
    | some x =>
      rcases Nat.lt_or_ge f.now f.throttle.due with hearly | hlate
      · rw [Throttle.poll_early hhand hearly]
        exact ⟨hinterval, .inl ⟨rfl, hdue⟩⟩
      · obtain ⟨due, hnext, hpoll⟩ := Throttle.poll_tick hhand hlate
        rw [hpoll]
        exact ⟨hinterval, .inr ⟨x, rfl, hlate, hnext⟩⟩

/-- What is let through is let through with a tick. -/
theorem ticks_yields (f : Feed α) (acts : List (Act α)) :
    Throttle.Ticks f.throttle.interval f.throttle.due ((f.yields acts).map Prod.fst) := by
  induction acts generalizing f with
  | nil => trivial
  | cons a acts ih =>
    have hrest := ih (f.act a)
    rw [yields]
    obtain ⟨hinterval, ⟨hnone, hdue⟩ | ⟨x, hsome, hdue, hnext⟩⟩ := f.tick_act a
    · rw [hinterval, hdue] at hrest
      rwa [hnone]
    · rw [hinterval, hnext] at hrest
      rw [hsome]
      exact ⟨hdue, hrest⟩

/-- Nothing is let through in the past. -/
theorem now_le_yields (f : Feed α) (acts : List (Act α)) :
    ∀ t ∈ (f.yields acts).map Prod.fst, f.now ≤ t := by
  induction acts generalizing f with
  | nil => exact fun t ht => absurd ht List.not_mem_nil
  | cons a acts ih =>
    intro t ht
    rw [yields, List.map_append, List.mem_append] at ht
    rcases ht with hthis | hlater
    · cases hyielded : f.yielded a with
      | none =>
        rw [hyielded] at hthis
        exact absurd hthis List.not_mem_nil
      | some x =>
        rw [hyielded] at hthis
        exact Nat.le_of_eq (List.mem_singleton.1 hthis).symm
    · exact Nat.le_trans (f.now_le_act a) (ih (f.act a) t hlater)

theorem ordered_yields (f : Feed α) (acts : List (Act α)) :
    ((f.yields acts).map Prod.fst).Pairwise (· ≤ ·) := by
  induction acts generalizing f with
  | nil => exact .nil
  | cons a acts ih =>
    rw [yields]
    cases f.yielded a with
    | none => exact ih (f.act a)
    | some x =>
      refine List.pairwise_cons.2 ⟨fun t ht => ?_, ih (f.act a)⟩
      exact Nat.le_trans (f.now_le_act a) ((f.act a).now_le_yields acts t ht)

/-- What is let through is what the course of the feed has passed. -/
theorem Course.passed_run (c : Course α) (acts : List (Act α)) :
    (c.run acts).passed.map Prod.snd =
      c.passed.map Prod.snd ++ (c.feed.yields acts).map Prod.snd := by
  induction acts generalizing c with
  | nil => exact (List.append_nil _).symm
  | cons a acts ih =>
    have hact : (c.act a).passed.map Prod.snd =
        c.passed.map Prod.snd ++ (c.feed.yielded a).toList := by
      cases a with
      | emit _ | finish | sleep _ => exact (List.append_nil _).symm
      | poll =>
        simp only [Course.act, yielded, answer]
        cases c.feed.ask.1 with
        | item x => exact List.map_append
        | pending | ended => exact (List.append_nil _).symm
    refine (ih (c.act a)).trans ?_
    rw [hact, feed_act, yields, List.map_append, List.append_assoc]
    cases c.feed.yielded a <;> rfl

/-- What is promised of the moments at which a throttle lets items through. -/
structure Paced (interval now : Nat) (acts : List (Act α)) (yields : List (Nat × α)) : Prop where
  /-- They are the moments of what was let through, and of nothing else. -/
  items : yields.map Prod.snd = (Course.of interval now acts).passed.map Prod.snd
  /-- At each of them a tick was due and taken. -/
  ticks : Throttle.Ticks interval now (yields.map Prod.fst)
  ordered : (yields.map Prod.fst).Pairwise (· ≤ ·)
  /-- From one item to any later one there is an interval for each item, but for one tolerance. -/
  apart : ∀ i j a b, i < j → yields[i]? = some a → yields[j]? = some b →
    a.1 + (j - i) * interval ≤ b.1 + Throttle.tolerance
  /-- Whatever came before it, a window lets no more items through than it has room for. -/
  window : ∀ start length,
    ((yields.filter fun y => start ≤ y.1 ∧ y.1 ≤ start + length).length - 1) * interval ≤
      length + Throttle.tolerance

/-- **The pace of throttles**: for every interval and through all that can happen to a feed. -/
theorem throttle_paced (interval now : Nat) (acts : List (Act α)) :
    Paced interval now acts ((make interval now).yields acts) := by
  have hticks : Throttle.Ticks interval now (((make interval now).yields acts).map Prod.fst) :=
    (make interval now).ticks_yields acts
  refine ⟨((Course.start interval now).passed_run acts).symm, hticks, ordered_yields _ acts, ?_, ?_⟩
  · intro i j a b hij ha hb
    refine hticks.apart hij ?_ ?_
    · rw [List.getElem?_map, ha, Option.map_some]
    · rw [List.getElem?_map, hb, Option.map_some]
  · intro start length
    rw [← List.length_map Prod.fst]
    refine hticks.crowd (List.filter_sublist.map _) start length fun t ht => ?_
    obtain ⟨y, hy, rfl⟩ := List.mem_map.1 ht
    exact of_decide_eq_true (List.mem_filter.1 hy).2

-- A tick that is taken as late as is tolerated brings the next item that much closer.
example : (make 100000000 0).yields [.emit [1, 2], .sleep 5000000, .poll, .emit [3],
    .sleep 94999999, .poll, .sleep 1, .poll] = [(5000000, 2), (100000000, 3)] := rfl

end Feed
end RaceLink
