import Mathlib.Data.List.NodupEquivFin
import RaceLink.Delivery.Feed

/-!
# What a throttle lets through

Seen from the items that a source has made ready, a throttle lets some of them through, in their
order and each at most once.  It holds the newest one that it took until that is let through or a
newer one is taken; so it is never out of date, and of a source that ends it loses the last item
never.

* `Feed.Course` — a feed, all that its source made ready, and what was let through so far.
* `Feed.Course.Kept` — the newest item that was taken is held or was let through; every act keeps
  it (`Kept.act`).
* `Feed.Course.Lawful`, `Feed.Course.throttle_lawful` — **the law of throttles**, for every interval
  and after all that can happen to a feed.
-/

set_option autoImplicit false

namespace RaceLink

namespace Throttle

variable {α : Type} {th : Throttle α} {now : Nat} {ready : List α} {ended : Bool}

theorem poll_none (h : (th.absorb ready ended).kept = none) :
    th.poll now ready ended =
      (if (th.absorb ready ended).sourceEnded then .ended else .pending,
        th.absorb ready ended) := by
  rw [poll, h]

theorem absorb_due : (th.absorb ready ended).due = th.due := by
  rw [absorb]
  split <;> rfl

theorem absorb_interval : (th.absorb ready ended).interval = th.interval := by
  rw [absorb]
  split <;> rfl

theorem poll_early {a : α} (h : (th.absorb ready ended).kept = some a) (hdue : now < th.due) :
    th.poll now ready ended = (.pending, th.absorb ready ended) := by
  simp only [poll, h, absorb_due, if_neg (Nat.not_le.2 hdue)]

theorem poll_tick {a : α} (h : (th.absorb ready ended).kept = some a) (hdue : th.due ≤ now) :
    ∃ due, due = nextDue th.interval th.due now ∧ th.poll now ready ended =
      (.item a, { th.absorb ready ended with due := due, kept := none }) := by
  simp only [poll, h, absorb_due, absorb_interval, if_pos hdue]
  exact ⟨_, rfl, rfl⟩

theorem poll_due {a : α} (h : (th.absorb ready ended).kept = some a) (hdue : th.due ≤ now) :
    ∃ due, th.poll now ready ended =
      (.item a, { th.absorb ready ended with due := due, kept := none }) := by
  obtain ⟨due, -, hpoll⟩ := poll_tick h hdue
  exact ⟨due, hpoll⟩

end Throttle

/-- Items that stand at increasing places of a list are a sublist of it. -/
theorem sublist_of_placed {α : Type} {made : List α} {passed : List (Nat × α)}
    (hplaced : ∀ y ∈ passed, made[y.1]? = some y.2)
    (hordered : (passed.map Prod.fst).Pairwise (· < ·)) :
    (passed.map Prod.snd).Sublist made := by
  have hlt (i : Fin (passed.map Prod.snd).length) :
      i.1 < passed.length := i.2.trans_eq (List.length_map _)
  have hat (i : Fin (passed.map Prod.snd).length) :=
    List.getElem?_eq_some_iff.1 (hplaced _ (List.getElem_mem (hlt i)))
  let place (i : Fin (passed.map Prod.snd).length) : Fin made.length := ⟨_, (hat i).1⟩
  have hmono : StrictMono place := fun i j hij =>
    List.pairwise_iff_getElem.1 (List.pairwise_map.1 hordered) i.1 j.1 (hlt i) (hlt j) hij
  refine List.sublist_iff_exists_fin_orderEmbedding_get_eq.2
    ⟨OrderEmbedding.ofStrictMono place hmono, fun i => ?_⟩
  rw [List.get_eq_getElem, List.getElem_map]
  exact (hat i).2.symm

namespace Feed

variable {α : Type}

theorem ask_fst (f : Feed α) : f.ask.1 = (f.throttle.poll f.now f.ready f.closed).1 := rfl

theorem ask_throttle (f : Feed α) :
    f.ask.2.throttle = (f.throttle.poll f.now f.ready f.closed).2 := rfl

/-- A feed and its past. -/
structure Course (α : Type) where
  feed : Feed α
  /-- All that the source has made ready, the oldest item first. -/
  made : List α
  /-- How many of these items the throttle has taken. -/
  taken : Nat
  /-- The items that were let through, each with its place among all that were made ready. -/
  passed : List (Nat × α)

namespace Course

/-- The course of a feed that has just been made. -/
def start (interval now : Nat) : Course α := ⟨Feed.make interval now, [], 0, []⟩

/-- What is answered if the throttle is asked now. -/
def answer (c : Course α) : Poll α := c.feed.ask.1

/-- What the throttle keeps if it is asked now, before it answers. -/
def inHand (c : Course α) : Option α := (c.feed.throttle.absorb c.feed.ready c.feed.closed).kept

/-- The course after one more act. -/
def act (c : Course α) (a : Act α) : Course α :=
  { feed := c.feed.act a
    made :=
      match a with
      | .emit items => if c.feed.closed then c.made else c.made ++ items
      | _ => c.made
    taken :=
      match a with
      | .poll => c.made.length
      | _ => c.taken
    passed :=
      match a, c.answer with
      | .poll, .item a => c.passed ++ [(c.made.length - 1, a)]
      | _, _ => c.passed }

/-- The course after all that happened. -/
def run (c : Course α) (acts : List (Act α)) : Course α := acts.foldl act c

/-- The course of a feed from its beginning. -/
def of (interval now : Nat) (acts : List (Act α)) : Course α := (start interval now).run acts

/-- The places of the items that were let through. -/
def places (c : Course α) : List Nat := c.passed.map Prod.fst

/-- The item that was taken last is held or was let through. -/
structure Kept (c : Course α) : Prop where
  /-- What was not taken is ready. -/
  made : c.made.drop c.taken = c.feed.ready
  taken : c.taken ≤ c.made.length
  placed : ∀ y ∈ c.passed, y.1 < c.taken ∧ c.made[y.1]? = some y.2
  once : c.places.Pairwise (· < ·)
  /-- What is held is the item taken last, and that was not let through. -/
  held : ∀ a, c.feed.throttle.kept = some a →
    (c.made.take c.taken).getLast? = some a ∧ ∀ i ∈ c.places, i + 1 < c.taken
  /-- If nothing is held, the item taken last was let through. -/
  free : c.feed.throttle.kept = none → 0 < c.taken → c.taken - 1 ∈ c.places
  /-- The throttle knows of the end only after it has taken everything. -/
  closed : c.feed.throttle.sourceEnded = true → c.feed.closed = true ∧ c.taken = c.made.length


variable {c : Course α}

theorem kept_start (interval now : Nat) : (start interval now : Course α).Kept where
  made := rfl
  taken := Nat.le_refl 0
  placed := fun _ h => absurd h List.not_mem_nil
  once := .nil
  held := fun _ h => nomatch h
  free := fun _ h => absurd h (Nat.lt_irrefl 0)
  closed := fun h => nomatch h

namespace Kept

/-- Once nothing is ready, everything was taken. -/
theorem taken_eq (k : c.Kept) (h : c.feed.ready = []) : c.taken = c.made.length :=
  Nat.le_antisymm k.taken (List.drop_eq_nil_iff.1 (k.made.trans h))

theorem taken_lt (k : c.Kept) (h : c.feed.ready ≠ []) : c.taken < c.made.length := by
  have hdrop : c.made.drop c.taken ≠ [] := by rwa [k.made]
  exact Nat.lt_of_not_le fun hle => hdrop (List.drop_eq_nil_iff.2 hle)

/-- The newest item is the last one that is ready, and else the one that is held. -/
theorem inHand_eq (k : c.Kept) :
    c.inHand = c.feed.ready.getLast?.or c.feed.throttle.kept := by
  unfold inHand Throttle.absorb
  split
  next h =>
    have hready : c.feed.ready = [] := by
      rw [← k.made, (k.closed h).2, List.drop_length]
    rw [hready]
    rfl
  · rfl

theorem of_inHand (k : c.Kept) {a : α} (h : c.inHand = some a) :
    c.made.getLast? = some a ∧ ∀ i ∈ c.places, i + 1 < c.made.length := by
  rw [k.inHand_eq] at h
  by_cases hready : c.feed.ready = []
  case pos =>
    rw [hready] at h
    obtain ⟨hlast, hplaces⟩ := k.held a h
    rw [k.taken_eq hready] at hlast hplaces
    rw [List.take_length] at hlast
    exact ⟨hlast, hplaces⟩
  case neg =>
    have hlt := k.taken_lt hready
    obtain ⟨b, hb⟩ := Option.ne_none_iff_exists'.1 (mt List.getLast?_eq_none_iff.1 hready)
    have hab : b = a := by
      rw [hb, Option.some_or] at h
      exact Option.some.inj h
    refine ⟨?_, fun i hi => ?_⟩
    · rw [← hab, ← hb, ← k.made, List.getLast?_drop, if_neg (Nat.not_le.2 hlt)]
    · obtain ⟨y, hy, rfl⟩ := List.mem_map.1 hi
      exact Nat.lt_of_le_of_lt (k.placed y hy).1 hlt

theorem of_idle (k : c.Kept) (h : c.inHand = none) :
    c.taken = c.made.length ∧ (0 < c.made.length → c.made.length - 1 ∈ c.places) := by
  rw [k.inHand_eq, Option.or_eq_none_iff] at h
  obtain ⟨hready, hkept⟩ := h
  have htaken := k.taken_eq (List.getLast?_eq_none_iff.1 hready)
  refine ⟨htaken, fun hpos => ?_⟩
  rw [← htaken] at hpos ⊢
  exact k.free hkept hpos

end Kept

/-- The three outcomes of a poll. -/
theorem poll_cases (c : Course α) :
    (c.inHand = none ∧ c.feed.ask.2.throttle = c.feed.throttle.absorb c.feed.ready c.feed.closed ∧
      c.answer =
        if (c.feed.throttle.absorb c.feed.ready c.feed.closed).sourceEnded then .ended
        else .pending) ∨
    (∃ a, c.inHand = some a ∧ c.feed.now < c.feed.throttle.due ∧ c.answer = .pending ∧
      c.feed.ask.2.throttle = c.feed.throttle.absorb c.feed.ready c.feed.closed) ∨
    (∃ a, c.inHand = some a ∧ c.feed.throttle.due ≤ c.feed.now ∧ c.answer = .item a ∧
      c.feed.ask.2.throttle.kept = none ∧
      c.feed.ask.2.throttle.sourceEnded =
        (c.feed.throttle.absorb c.feed.ready c.feed.closed).sourceEnded) := by
  rw [answer, ask_fst, ask_throttle]
  cases h : c.inHand with
  | none =>
    rw [Throttle.poll_none h]
    exact .inl ⟨rfl, rfl, rfl⟩
  | some a =>
    rcases Nat.lt_or_ge c.feed.now c.feed.throttle.due with hdue | hdue
    · rw [Throttle.poll_early h hdue]
      exact .inr (.inl ⟨a, rfl, hdue, rfl, rfl⟩)
    · obtain ⟨due, hpoll⟩ := Throttle.poll_due h hdue
      rw [hpoll]
      exact .inr (.inr ⟨a, rfl, hdue, rfl, rfl, rfl⟩)

theorem feed_act (c : Course α) (a : Act α) : (c.act a).feed = c.feed.act a := rfl

namespace Kept

/-- Absorbing what is ready keeps what is known of the end. -/
theorem closed_absorb (k : c.Kept)
    (h : (c.feed.throttle.absorb c.feed.ready c.feed.closed).sourceEnded = true) :
    c.feed.closed = true := by
  unfold Throttle.absorb at h
  split at h
  next hended => exact (k.closed hended).1
  · exact h

/-- A poll that lets nothing through. -/
theorem poll_of_quiet (k : c.Kept)
    (hthrottle : c.feed.ask.2.throttle = c.feed.throttle.absorb c.feed.ready c.feed.closed)
    (hpassed : (c.act .poll).passed = c.passed) : (c.act .poll).Kept := by
  have hkept : (c.act .poll).feed.throttle.kept = c.inHand := congrArg Throttle.kept hthrottle
  have hplaces : (c.act .poll).places = c.places := congrArg (List.map Prod.fst) hpassed
  refine ⟨List.drop_length, Nat.le_refl _, ?_, ?_, ?_, ?_, ?_⟩
  · intro y hy
    rw [hpassed] at hy
    exact ⟨Nat.lt_of_lt_of_le (k.placed y hy).1 k.taken, (k.placed y hy).2⟩
  · rw [hplaces]
    exact k.once
  · intro a ha
    rw [hkept] at ha
    show (c.made.take c.made.length).getLast? = some a ∧ _
    rw [List.take_length, hplaces]
    exact k.of_inHand ha
  · intro hnone hpos
    rw [hkept] at hnone
    rw [hplaces]
    exact (k.of_idle hnone).2 hpos
  · intro hended
    have hclosed : c.feed.ask.2.throttle.sourceEnded = true := hended
    rw [hthrottle] at hclosed
    exact ⟨k.closed_absorb hclosed, rfl⟩

/-- A poll that lets the item through that is kept. -/
theorem poll_of_item (k : c.Kept) {a : α} (hhand : c.inHand = some a)
    (hanswer : c.answer = .item a) (hnone : c.feed.ask.2.throttle.kept = none)
    (hended : c.feed.ask.2.throttle.sourceEnded =
      (c.feed.throttle.absorb c.feed.ready c.feed.closed).sourceEnded) :
    (c.act .poll).Kept := by
  obtain ⟨hlast, hlower⟩ := k.of_inHand hhand
  have hpassed : (c.act .poll).passed = c.passed ++ [(c.made.length - 1, a)] := by
    simp only [act, hanswer]
  have hplaces : (c.act .poll).places = c.places ++ [c.made.length - 1] := by
    rw [places, hpassed, List.map_append]
    rfl
  have hpos : 0 < c.made.length := by
    cases hmade : c.made with
    | nil => rw [hmade] at hlast; cases hlast
    | cons _ _ => exact Nat.zero_lt_succ _
  refine ⟨List.drop_length, Nat.le_refl _, ?_, ?_, ?_, ?_, ?_⟩
  · intro y hy
    rw [hpassed, List.mem_append, List.mem_singleton] at hy
    obtain hy | rfl := hy
    · exact ⟨Nat.lt_of_lt_of_le (k.placed y hy).1 k.taken, (k.placed y hy).2⟩
    · exact ⟨Nat.sub_lt hpos Nat.one_pos, by rw [← hlast, List.getLast?_eq_getElem?]; rfl⟩
  · rw [hplaces, List.pairwise_append]
    refine ⟨k.once, List.pairwise_singleton .., fun i hi j hj => ?_⟩
    rw [List.mem_singleton.1 hj]
    exact Nat.lt_sub_of_add_lt (hlower i hi)
  · intro b hb
    exact absurd (hb.symm.trans hnone) (Option.some_ne_none b)
  · intro _ _
    rw [hplaces]
    exact List.mem_append_right _ List.mem_cons_self
  · intro hclosed
    exact ⟨k.closed_absorb (hended.symm.trans hclosed), rfl⟩

theorem emit (k : c.Kept) (items : List α) : (c.act (.emit items)).Kept := by
  by_cases hclosed : c.feed.closed
  case pos =>
    have hsame : c.act (.emit items) = c := by
      simp only [Course.act, Feed.act, hclosed, if_true]
    rw [hsame]
    exact k
  case neg =>
    have hstep : c.act (.emit items) =
        ⟨{ c.feed with ready := c.feed.ready ++ items }, c.made ++ items, c.taken, c.passed⟩ := by
      simp only [Course.act, Feed.act, hclosed, if_false, Bool.false_eq_true]
    rw [hstep]
    refine ⟨?_, ?_, ?_, k.once, ?_, k.free, ?_⟩
    · show (c.made ++ items).drop c.taken = c.feed.ready ++ items
      rw [List.drop_append_of_le_length k.taken, k.made]
    · show c.taken ≤ (c.made ++ items).length
      rw [List.length_append]
      exact Nat.le_add_right_of_le k.taken
    · intro y hy
      obtain ⟨hlt, hat⟩ := k.placed y hy
      refine ⟨hlt, ?_⟩
      show (c.made ++ items)[y.1]? = some y.2
      rw [List.getElem?_append_left (Nat.lt_of_lt_of_le hlt k.taken)]
      exact hat
    · intro b hb
      show ((c.made ++ items).take c.taken).getLast? = some b ∧ _
      rw [List.take_append_of_le_length k.taken]
      exact k.held b hb
    · exact fun hended => absurd (k.closed hended).1 hclosed

theorem finish (k : c.Kept) : (c.act .finish).Kept where
  made := k.made
  taken := k.taken
  placed := k.placed
  once := k.once
  held := k.held
  free := k.free
  closed := fun h => ⟨rfl, (k.closed h).2⟩

/-- Whatever happens, the newest item that was taken is held or was let through. -/
theorem act (k : c.Kept) (a : Act α) : (c.act a).Kept := by
  cases a with
  | emit items => exact k.emit items
  | finish => exact k.finish
  | sleep _ => exact ⟨k.made, k.taken, k.placed, k.once, k.held, k.free, k.closed⟩
  | poll =>
    rcases c.poll_cases with ⟨-, hthrottle, hanswer⟩ | ⟨a, -, -, hanswer, hthrottle⟩ |
      ⟨a, hhand, -, hanswer, hnone, hended⟩
    · refine k.poll_of_quiet hthrottle ?_
      simp only [Course.act, hanswer]
      split
      next h => split at h <;> cases h
      · rfl
    · exact k.poll_of_quiet hthrottle (by simp only [Course.act, hanswer])
    · exact k.poll_of_item hhand hanswer hnone hended

theorem run (k : c.Kept) (acts : List (Act α)) : (c.run acts).Kept := by
  induction acts generalizing c with
  | nil => exact k
  | cons a acts ih => exact ih (k.act a)

end Kept

/-- What is promised of a throttle at any moment. -/
structure Lawful (c : Course α) : Prop where
  /-- What was let through are items of the source, in their order and each at most once. -/
  placed : ∀ y ∈ c.passed, c.made[y.1]? = some y.2
  once : c.places.Pairwise (· < ·)
  inOrder : (c.passed.map Prod.snd).Sublist c.made
  /-- What a poll lets through is the newest item, and it was not let through before. -/
  newest : ∀ a, c.answer = .item a →
    c.made.getLast? = some a ∧ c.made.length - 1 ∉ c.places
  /-- An item that was taken is lost only once a newer one was taken. -/
  dropped : ∀ i < c.taken, i ∉ c.places →
    i + 1 < c.taken ∨ (c.feed.throttle.kept = c.made[i]? ∧ c.made[i]?.isSome)
  /-- A poll lets the item in hand through unless the tick is not yet due. -/
  prompt : ∀ a, c.inHand = some a →
    c.answer = if c.feed.throttle.due ≤ c.feed.now then .item a else .pending
  /-- A poll with nothing in hand takes no tick. -/
  idle : c.inHand = none → c.feed.ask.2.throttle.due = c.feed.throttle.due
  ending : c.answer = .ended ↔ c.feed.closed = true ∧ c.inHand = none
  /-- By the end the last item of the source was let through, after all the others. -/
  last : c.answer = .ended → ∀ a, c.made.getLast? = some a →
    c.passed.getLast? = some (c.made.length - 1, a)
  forever : c.answer = .ended → ∀ acts,
    (c.run acts).answer = .ended ∧ (c.run acts).passed = c.passed
  /-- Once the source has ended, one more poll with a tick due reaches the end. -/
  finishes : c.feed.closed = true →
    (c.run [.sleep (c.feed.throttle.due - c.feed.now), .poll]).answer = .ended

/-- A poll lets something through if it is in hand and a tick is due. -/
theorem answer_item_iff {a : α} :
    c.answer = .item a ↔ c.inHand = some a ∧ c.feed.throttle.due ≤ c.feed.now := by
  rcases c.poll_cases with ⟨hhand, -, hanswer⟩ | ⟨b, hhand, hdue, hanswer, -⟩ |
    ⟨b, hhand, hdue, hanswer, -⟩
  all_goals rw [hanswer, hhand]
  case inl =>
    refine iff_of_false (fun h => ?_) (fun h => nomatch h.1)
    split at h <;> cases h
  case inr.inl => exact iff_of_false (fun h => nomatch h) (fun h => Nat.not_le.2 hdue h.2)
  case inr.inr =>
    rw [Poll.item.injEq, Option.some.injEq]
    exact (and_iff_left hdue).symm

namespace Kept

/-- The end is answered once the source has ended and nothing is in hand. -/
theorem answer_ended_iff (k : c.Kept) :
    c.answer = .ended ↔ c.feed.closed = true ∧ c.inHand = none := by
  have hclosed : (c.feed.throttle.absorb c.feed.ready c.feed.closed).sourceEnded = true ↔
      c.feed.closed = true := by
    refine ⟨k.closed_absorb, fun h => ?_⟩
    unfold Throttle.absorb
    split
    · assumption
    · exact h
  rcases c.poll_cases with ⟨hhand, -, hanswer⟩ | ⟨b, hhand, -, hanswer, -⟩ |
    ⟨b, hhand, -, hanswer, -⟩
  all_goals rw [hanswer, hhand]
  case inl =>
    rw [← hclosed, and_iff_left rfl]
    split
    · exact iff_of_true rfl ‹_›
    · exact iff_of_false (fun h => nomatch h) ‹_›
  all_goals exact iff_of_false (fun h => nomatch h) (fun h => nomatch h.2)

/-- After a poll with a tick due, or with nothing in hand, nothing is in hand. -/
theorem inHand_poll (k : c.Kept) (h : ∀ a, c.inHand = some a → c.feed.throttle.due ≤ c.feed.now) :
    (c.act .poll).inHand = none := by
  rw [(k.act .poll).inHand_eq]
  show c.feed.ask.2.throttle.kept = none
  rcases c.poll_cases with ⟨hhand, hthrottle, -⟩ | ⟨b, hhand, hdue, -⟩ | ⟨b, -, -, -, hnone, -⟩
  · rw [hthrottle]
    exact hhand
  · exact absurd (h b hhand) (Nat.not_le.2 hdue)
  · exact hnone

/-- The end is for ever. -/
theorem ended_act (k : c.Kept) (h : c.answer = .ended) (a : Act α) :
    (c.act a).answer = .ended ∧ (c.act a).passed = c.passed := by
  obtain ⟨hclosed, hhand⟩ := k.answer_ended_iff.1 h
  refine ⟨(k.act a).answer_ended_iff.2 ?_, ?_⟩
  · cases a with
    | emit items =>
      have hsame : c.feed.act (.emit items) = c.feed := if_pos hclosed
      rw [inHand, feed_act, hsame]
      exact ⟨hclosed, hhand⟩
    | finish =>
      have hsame : c.feed.act .finish = c.feed := by
        rw [Feed.act, ← hclosed]
      rw [inHand, feed_act, hsame]
      exact ⟨hclosed, hhand⟩
    | sleep _ => exact ⟨hclosed, hhand⟩
    | poll => exact ⟨hclosed, k.inHand_poll fun a ha => nomatch hhand.symm.trans ha⟩
  · cases a with
    | poll => simp only [Course.act, h]
    | emit _ | finish | sleep _ => rfl

theorem ended_run (k : c.Kept) (h : c.answer = .ended) (acts : List (Act α)) :
    (c.run acts).answer = .ended ∧ (c.run acts).passed = c.passed := by
  induction acts generalizing c with
  | nil => exact ⟨h, rfl⟩
  | cons a acts ih =>
    obtain ⟨hended, hpassed⟩ := k.ended_act h a
    obtain ⟨hrest, hsame⟩ := ih (k.act a) hended
    exact ⟨hrest, hsame.trans hpassed⟩

/-- If the newest item was let through, it came last. -/
theorem passed_getLast (k : c.Kept) {a : α} (hlast : c.made.getLast? = some a)
    (h : c.made.length - 1 ∈ c.places) :
    c.passed.getLast? = some (c.made.length - 1, a) := by
  obtain ⟨y, hy, hplace⟩ := List.mem_map.1 h
  have hne := List.ne_nil_of_mem hy
  have hya : y = (c.made.length - 1, a) := by
    have hat := (k.placed y hy).2
    rw [hplace, ← List.getLast?_eq_getElem?, hlast] at hat
    exact Prod.ext hplace (Option.some.inj hat).symm
  have hsplit := List.dropLast_concat_getLast hne
  rw [← hya, ← hsplit, List.getLast?_concat, Option.some.injEq]
  -- Were it not the last one, one at a later place would follow it.
  rw [← hsplit, List.mem_append, List.mem_singleton] at hy
  refine hy.elim (fun hbefore => ?_) Eq.symm
  have honce := k.once
  rw [places, ← hsplit, List.map_append, List.pairwise_append] at honce
  have hlt := honce.2.2 y.1 (List.mem_map_of_mem hbefore) _ (List.mem_singleton.2 rfl)
  have hmade := (k.placed _ (List.getLast_mem hne)).1
  have htaken := k.taken
  omega

/-- The item taken last is held unless it was let through. -/
theorem held_or_passed (k : c.Kept) {i : Nat} (hi : i < c.taken) (hplace : i ∉ c.places) :
    i + 1 < c.taken ∨ (c.feed.throttle.kept = c.made[i]? ∧ c.made[i]?.isSome) := by
  rcases Nat.lt_or_ge (i + 1) c.taken with hlt | hge
  · exact .inl hlt
  · obtain rfl : i = c.taken - 1 := by omega
    refine .inr ?_
    cases hkept : c.feed.throttle.kept with
    | none => exact absurd (k.free hkept (Nat.zero_lt_of_lt hi)) hplace
    | some a =>
      have hlast := (k.held a hkept).1
      rw [List.getLast?_eq_getElem?, List.length_take, Nat.min_eq_left k.taken,
        List.getElem?_take_of_lt hi] at hlast
      rw [hlast]
      exact ⟨rfl, rfl⟩

end Kept

theorem Kept.lawful (k : c.Kept) : c.Lawful where
  placed := fun y hy => (k.placed y hy).2
  once := k.once
  inOrder := sublist_of_placed (fun y hy => (k.placed y hy).2) k.once
  newest := fun a ha => by
    obtain ⟨hlast, hlower⟩ := k.of_inHand (answer_item_iff.1 ha).1
    exact ⟨hlast, fun h => by have := hlower _ h; omega⟩
  dropped := fun _ => k.held_or_passed
  prompt := fun a ha => by
    split
    next hdue => exact answer_item_iff.2 ⟨ha, hdue⟩
    next hdue =>
      cases hanswer : c.answer with
      | item b => exact absurd (answer_item_iff.1 hanswer).2 hdue
      | pending => rfl
      | ended => exact nomatch ha.symm.trans (k.answer_ended_iff.1 hanswer).2
  idle := fun h => by
    rw [ask_throttle, Throttle.poll_none h]
    exact Throttle.absorb_due
  ending := k.answer_ended_iff
  last := fun h a ha =>
    k.passed_getLast ha ((k.of_idle (k.answer_ended_iff.1 h).2).2
      (List.length_pos_of_mem (List.mem_of_getLast? ha)))
  forever := k.ended_run
  finishes := fun hclosed => by
    have ks := k.act (.sleep (c.feed.throttle.due - c.feed.now))
    refine (ks.act .poll).answer_ended_iff.2 ⟨hclosed, ks.inHand_poll fun _ _ => ?_⟩
    show c.feed.throttle.due ≤ c.feed.now + (c.feed.throttle.due - c.feed.now)
    omega

/-- **The law of throttles**: for every interval and after all that can happen to a feed. -/
theorem throttle_lawful (interval now : Nat) (acts : List (Act α)) :
    (Course.of interval now acts).Lawful :=
  ((kept_start interval now).run acts).lawful

example : (Course.of 100 0 [.emit [1, 2, 3, 4, 5], .finish]).answer = .item 5 := rfl

end Course
end Feed
end RaceLink
