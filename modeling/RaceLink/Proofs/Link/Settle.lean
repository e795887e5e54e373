import RaceLink.Proofs.Link.Life

/-!
# The turns of one moment come to an end

`Link.settle` takes turns up to a number that is worked out beforehand.  This file shows that the
number is large enough: whatever waits, and in whatever phase the client is, it has to wait at last.
That needs a delay between attempts; without one, a client whose attempts are refused at once would
try again and again at the same moment.

* `Link.rank`, `Link.left` — a bound for the turns that are left at this moment: one for each frame
  and each request, and a few for the phase.
* `Link.left_perform` — every deed brings it down.
* `Link.settle_waits` — **a client that has settled has to wait**.
* `Link.settle_of_ready` — settling is doing what is due, and then settling.
* `Life.settled` — in every life the client has to wait after some more turns.
-/

set_option autoImplicit false

namespace RaceLink
namespace Link

/-- How many phases the client can still enter at this moment. -/
def rank (s : Link) : Nat :=
  match s.phase with
  | .stopped => 0
  | .closing _ _ => 1
  | .waiting t => if t ≤ s.now then 6 else 2
  | .serving _ watch _ => if s.reached watch then 4 else 3
  | .seeking _ _ => 5

/-- A bound for the turns that are left at this moment. -/
def left (s : Link) : Nat := s.unread + s.queue.length + s.rank

theorem left_le_workload (s : Link) : s.left ≤ s.workload := by
  have hrank : s.rank ≤ 8 := by
    rw [rank]
    cases s.phase with
    | waiting t =>
      dsimp only
      split <;> omega
    | serving n watch probed =>
      dsimp only
      split <;> omega
    | _ => exact Nat.le_of_ble_eq_true rfl
  exact Nat.add_le_add_left hrank _

theorem reached_watchFrom (s : Link) : s.reached s.watchFrom = false := by
  rw [watchFrom]
  split
  · rfl
  · rename_i hidle
    have hhalf : 0 < s.terms.half := by
      rw [Terms.half]
      omega
    exact decide_eq_false (by omega)

theorem unread_eq {s : Link} {n : Nat} (h : s.phase.session? = some n) :
    s.unread = (s.inbox n).length := by
  rw [unread, h, inbox]
  cases hp : s.peer? n <;> simp [hp]

theorem unread_eq_zero {s : Link} (h : s.phase.session? = none) : s.unread = 0 := by
  rw [unread, h]
  rfl

/-- What is left to a client that waits for its next attempt: its requests, and little else. -/
theorem left_pause {s t : Link} (hdelay : 0 < s.terms.delay) (hphase : t.phase = s.pause)
    (hnow : t.now = s.now) : t.left = t.queue.length + 2 := by
  have hunread : t.unread = 0 := unread_eq_zero (by rw [hphase]; rfl)
  have hrank : t.rank = 2 := by
    rw [rank, hphase]
    show (if s.now + s.terms.delay ≤ t.now then 6 else 2) = 2
    rw [if_neg (by omega)]
  rw [left, hunread, hrank, Nat.zero_add]

/-- What is left to a client that serves a session. -/
theorem left_serving {s : Link} {n : Nat} {watch : Option Nat} {probed : Bool}
    (hphase : s.phase = .serving n watch probed) :
    s.left = (s.inbox n).length + s.queue.length + (if s.reached watch then 4 else 3) := by
  have hunread : s.unread = (s.inbox n).length := unread_eq (by rw [hphase]; rfl)
  rw [left, hunread, rank, hphase]

theorem now_perform {s : Link} {d : Deed} (h : Ready s d) : (s.perform d).now = s.now := by
  have hb : (s.perform d).now = (s.bareAfter d).now := (congrArg now (bare_perform h) :)
  rw [hb]
  cases d with
  | resolve a =>
    rw [bareAfter]
    split <;> rfl
  | watch n probed => cases probed <;> rfl
  | _ => rfl

theorem inbox_perform_length {s : Link} {d : Deed} (h : Ready s d) (n : Nat) :
    (s.inbox n).length = (d.taken n).length + ((s.perform d).inbox n).length := by
  rw [inbox_perform h n, List.length_append, List.length_map]

theorem left_offline {s : Link} (h : s.phase.session? = none) :
    s.left = s.queue.length + s.rank := by
  rw [left, unread_eq_zero h, Nat.zero_add]

theorem reached_congr {s t : Link} (h : t.now = s.now) (due : Option Nat) :
    t.reached due = s.reached due := by
  cases due with
  | none => rfl
  | some moment => rw [reached, reached, h]

theorem left_stopped {s t : Link} (hphase : t.phase = .stopped) (hqueue : t.queue = [])
    (h : 0 < s.left) : t.left < s.left := by
  have hrank : t.rank = 0 := by rw [rank, hphase]
  rw [left_offline (s := t) (by rw [hphase]; rfl), hrank, hqueue]
  exact h

/-- **Every deed brings the client closer to the point where it has to wait.** -/
theorem left_perform {s : Link} {d : Deed} (hdelay : 0 < s.terms.delay) (h : Ready s d) :
    (s.perform d).left < s.left := by
  have hready := h
  have hphase := phase_perform h
  have hqueue := queue_perform h
  have hnow := now_perform h
  have hinbox := inbox_perform_length h
  cases h with
  | @attempt t phase live due =>
    have hrank : s.rank = 6 := by
      rw [rank, phase]
      exact if_pos due
    have hrank' : (s.perform .attempt).rank = 5 := by
      rw [rank, hphase]
      rfl
    rw [left_offline (by rw [hphase]; rfl), left_offline (by rw [phase]; rfl), hrank, hrank',
      hqueue]
    exact Nat.lt_succ_self _
  | @resolve a due phase live reached =>
    -- a session that opens has an empty inbox, and one that does not open costs a wait
    have hrank : s.rank = 5 := by rw [rank, phase]
    have hleft : s.left = s.queue.length + 5 := by rw [left_offline (by rw [phase]; rfl), hrank]
    rw [bareAfter] at hphase hqueue
    split at hphase
    · rename_i hacc
      rw [if_pos hacc] at hqueue
      have hqueue : (s.perform (.resolve a)).queue = s.queue := hqueue
      dsimp only at hphase
      split at hphase
      · have hnone : s.inbox (s.peers.length + 1) = [] := by
          rw [inbox, peer?, if_neg (Nat.succ_ne_zero _), Nat.add_sub_cancel, List.getElem?_eq_none
            (Nat.le_refl _)]
          rfl
        have hlen := hinbox (s.peers.length + 1)
        rw [hnone] at hlen
        rw [left_serving hphase, hleft, hqueue, reached_congr hnow, reached_watchFrom]
        simp at hlen ⊢
        omega
      · rw [left_pause hdelay hphase hnow, hleft, hqueue]
        omega
    · rename_i hacc
      rw [if_neg hacc] at hqueue
      have hqueue : (s.perform (.resolve a)).queue = s.queue := hqueue
      rw [left_pause hdelay hphase hnow, hleft, hqueue]
      omega
  | @read n watch probed p text phase live peer next =>
    have hphase : (s.perform (.read n text)).phase = .serving n s.watchFrom false := hphase
    have hqueue : (s.perform (.read n text)).queue = s.queue := hqueue
    have hlen : (s.inbox n).length = 1 + ((s.perform (.read n text)).inbox n).length := by
      rw [hinbox n, Deed.taken, if_pos rfl]
      rfl
    rw [left_serving hphase, left_serving phase, hqueue, reached_congr hnow, reached_watchFrom,
      hlen, if_neg Bool.false_ne_true]
    split <;> omega
  | @lose n watch probed phase live finished =>
    have hqueue : (s.perform (.lose n)).queue = s.queue := hqueue
    rw [left_pause hdelay hphase hnow, left_serving phase, hqueue]
    split <;> omega
  | @watch n watch probed p phase live peer next reached =>
    rw [left_serving phase, if_pos reached]
    cases probed with
    | true =>
      have hqueue : (s.perform (.watch n true)).queue = s.queue := hqueue
      rw [left_pause hdelay hphase hnow, hqueue]
      omega
    | false =>
      have hqueue : (s.perform (.watch n false)).queue = s.queue := hqueue
      have hlen : (s.inbox n).length = ((s.perform (.watch n false)).inbox n).length := by
        rw [hinbox n]
        exact Nat.zero_add _
      simp only [bareAfter] at hphase
      split at hphase
      · rw [left_serving hphase, hqueue, reached_congr hnow, reached_watchFrom, hlen,
          if_neg Bool.false_ne_true]
        omega
      · rw [left_pause hdelay hphase hnow, hqueue]
        omega
  | @serve n id watch probed p r rest phase live peer next early queue =>
    have hqueue : (s.perform (.serve n id r)).queue = rest := by
      rw [hqueue]
      exact congrArg (List.drop 1) queue
    have hlen : (s.inbox n).length = ((s.perform (.serve n id r)).inbox n).length := by
      rw [hinbox n]
      exact Nat.zero_add _
    have hmore : s.queue.length = rest.length + 1 := by rw [queue, List.length_cons]
    rw [left_serving phase, early, hmore, if_neg Bool.false_ne_true]
    -- the watchdog is left alone, so it still has not come
    simp only [bareAfter] at hphase
    split at hphase
    · rw [left_serving (hphase.trans phase), hqueue, reached_congr hnow, early, hlen,
        if_neg Bool.false_ne_true]
      omega
    · rw [left_pause hdelay hphase hnow, hqueue]
      omega
  | @decline id r rest offline live queue =>
    have hqueue : (s.perform (.decline id r)).queue = rest := by
      rw [hqueue]
      exact congrArg (List.drop 1) queue
    have hphase : (s.perform (.decline id r)).phase = s.phase := hphase
    have hnone : s.phase.session? = none := Phase.session?_of_connecting offline
    have hrank : (s.perform (.decline id r)).rank = s.rank := by
      rw [rank, rank, hphase, hnow]
      cases s.phase with
      | serving n watch probed =>
        dsimp only
        rw [reached_congr hnow]
      | _ => rfl
    rw [left_offline (by rw [hphase]; exact hnone), left_offline hnone, hrank, hqueue, queue,
      List.length_cons]
    omega
  | @close n watch probed phase quitting =>
    have hqueue : (s.perform (.close n)).queue = s.queue := hqueue
    have hsession : (s.perform (.close n)).phase.session? = some n := by
      rw [hphase]
      rfl
    have hrank : (s.perform (.close n)).rank = 1 := by
      rw [rank, hphase]
      rfl
    have hlen : (s.inbox n).length = ((s.perform (.close n)).inbox n).length := by
      rw [hinbox n]
      exact Nat.zero_add _
    rw [left_serving phase, left, unread_eq hsession, hrank, hqueue, hlen]
    split <;> omega
  | part phase due =>
    refine left_stopped hphase hqueue ?_
    rw [left, rank, phase]
    exact Nat.succ_pos _
  | stop offline quitting =>
    refine left_stopped hphase hqueue (Nat.lt_of_lt_of_le ?_ (Nat.le_add_left s.rank _))
    rw [rank]
    cases hp : s.phase with
    | waiting t =>
      dsimp only
      split <;> omega
    | seeking a due => exact Nat.succ_pos _
    | _ =>
      rw [hp] at offline
      cases offline

/-- Turns come to an end. -/
theorem turns_waits {n : Nat} {s : Link} (hdelay : 0 < s.terms.delay) (h : s.left ≤ n) :
    (turns n s).deed? = none := by
  induction n generalizing s with
  | zero =>
    rw [turns]
    cases hd : s.deed? with
    | none => rfl
    | some d =>
      have hlt := left_perform hdelay (ready_of_deed? hd)
      omega
  | succ n ih =>
    rw [turns, turn]
    cases hd : s.deed? with
    | none => exact hd
    | some d =>
      have hlt := left_perform hdelay (ready_of_deed? hd)
      refine ih ?_ (by omega)
      rw [terms_perform (ready_of_deed? hd)]
      exact hdelay

/-- **A client that has settled has to wait**, if there is a delay between its attempts. -/
theorem settle_waits {s : Link} (hdelay : 0 < s.terms.delay) : s.settle.deed? = none :=
  turns_waits hdelay s.left_le_workload

/-- A client that has to wait takes no turn. -/
theorem turns_of_waits {s : Link} (h : s.deed? = none) (k : Nat) : turns k s = s := by
  cases k with
  | zero => rfl
  | succ k => rw [turns, turn, h]; rfl

theorem turns_of_ready {s : Link} {d : Deed} (h : s.deed? = some d) (k : Nat) :
    turns (k + 1) s = turns k (s.perform d) := by
  rw [turns, turn, h]
  rfl

/-- It does not matter how many more turns than enough a client may take. -/
theorem turns_eq {m n : Nat} {s : Link} (hdelay : 0 < s.terms.delay) (hm : s.left ≤ m)
    (hn : s.left ≤ n) : turns m s = turns n s := by
  induction m generalizing n s with
  | zero =>
    have hwaits : s.deed? = none := turns_waits hdelay hm
    rw [turns_of_waits hwaits, turns_of_waits hwaits]
  | succ m ih =>
    cases hd : s.deed? with
    | none => rw [turns_of_waits hd, turns_of_waits hd]
    | some d =>
      have hready := ready_of_deed? hd
      have hlt := left_perform hdelay hready
      obtain ⟨n, rfl⟩ : ∃ k, n = k + 1 := ⟨n - 1, by omega⟩
      rw [turns_of_ready hd, turns_of_ready hd]
      exact ih (by rw [terms_perform hready]; exact hdelay) (by omega) (by omega)

/-- A client settles by doing what is due and then settling. -/
theorem settle_of_ready {s : Link} {d : Deed} (hdelay : 0 < s.terms.delay) (h : s.deed? = some d) :
    s.settle = (s.perform d).settle := by
  have hready := ready_of_deed? h
  have hlt := left_perform hdelay hready
  have hleft := left_le_workload (s.perform d)
  calc s.settle = turns (s.left + (s.perform d).workload + 1) s :=
        turns_eq hdelay s.left_le_workload (by omega)
    _ = turns (s.left + (s.perform d).workload) (s.perform d) := turns_of_ready h _
    _ = (s.perform d).settle :=
        turns_eq (by rw [terms_perform hready]; exact hdelay) (by omega) hleft

end Link

namespace Life

/-- The deeds of some turns are part of every life. -/
theorem turns_link (c : Life) (k : Nat) :
    ((List.replicate k Move.turn).foldl move c).link = Link.turns k c.link := by
  induction k generalizing c with
  | zero => rfl
  | succ k ih =>
    rw [List.replicate_succ, List.foldl_cons, ih, Link.turns, Link.turn, move]
    cases hd : c.link.deed? with
    | none =>
      cases k with
      | zero => rfl
      | succ k => rw [Link.turns, Link.turn, hd]; rfl
    | some d => rfl

/-- **In every life the client has to wait after some more turns.** -/
theorem settled (c : Life) (hdelay : 0 < c.link.terms.delay) :
    ∃ k, ((List.replicate k Move.turn).foldl move c).link.deed? = none := by
  refine ⟨c.link.workload, ?_⟩
  rw [turns_link]
  exact Link.settle_waits hdelay

end Life
end RaceLink
