import RaceLink.Proofs.Link.Leaving
import RaceLink.Proofs.Link.Replies

/-!
# Shutting a client down

A client is closed through any of its handles, or its last handle is dropped.  Either way it is on
its way out from then on, and nobody can call it back.

* `Life.Final` — what shutting down means: the client does nothing more but announce its end, at a
  moment that is known from the beginning, and whoever still asks for something is refused.
* `Leaving.final` — this holds of every client on its way out.
* `Dismissal`, `Dismissal.Unhindered` — the two ways to end a client.  One that is closed looks for
  that first.  That its last handle is gone is the last thing a client looks for, so what its
  session brings until its next turn still comes before.
* `Link.dismissed`, `Life.abandoned_run` — **both ways agree**: a client that lost its last handle
  goes on like the same client that was closed.
* `Life.shutdown_final` — both ways are final, and bounded in time.
-/

set_option autoImplicit false

namespace RaceLink

/-! ## What shutting down means -/

namespace Life

/-- `c` is the client when it was shut down, and `c'` the same client at any time afterwards. -/
structure Final (c c' : Life) : Prop where
  /-- No attempt is begun any more. -/
  attempts : c'.link.attempts = c.link.attempts
  /-- The model stays, and so does what handles read of it. -/
  model : c'.link.model = c.link.model ∧ c'.link.modelCell = c.link.modelCell
  /-- As long as the client has not stopped nothing happens: nothing is sent or announced and no
  frame is taken.  The moment of its end is not missed. -/
  quiet : c'.link.phase ≠ .stopped → c'.link.log = c.link.log ∧ c'.link.now ≤ c.link.partsAt ∧
    (c'.link.deed? = none → c'.link.now < c.link.partsAt)
  /-- When it stops, at that moment, it announces that; afterwards it only refuses requests. -/
  ended : c'.link.phase = .stopped → ∃ refusals : List Entry,
    c'.link.log.toList = c.link.log.toList ++
      ⟨c.link.partsAt, .notified (.link .closed none) c.link.model⟩ :: refusals ∧
    ∀ e ∈ refusals, ∃ id, e.event = .answered id (.error .shutdown)
  /-- The moment is now if no session is open, or else when the session has been closed, with or
  without an error; it is near in any case. -/
  moment : (c.link.phase.session? = none → c.link.partsAt = c.link.now) ∧
    (∀ n p delay failing, c.link.phase.session? = some n → c.link.peer? n = some p →
      p.farewell = .after delay failing → delay ≤ Link.closeLimit →
        c.link.partsAt = c.link.now + delay) ∧
    c.link.partsAt ≤ c.link.now + Link.closeLimit
  /-- Handles read that the client is closed as soon as it has stopped, and ever after. -/
  closed : (c'.link.stateCell.value = .closed ↔ c'.link.phase = .stopped) ∧
    (c'.link.phase = .stopped → ∀ ns : List Move,
      (ns.foldl move c').link.stateCell.value = .closed)
  /-- Requests that waited, and those that came later, are refused, and not before it stops. -/
  requests : ∀ id, id ∈ numbers c.link.queue ∨ c.asked.length ≤ id → id < c'.asked.length →
    c'.link.outcome? (.answer id) =
      if c'.link.phase = .stopped then some (.failed .shutdown) else none
  /-- Whoever waits for another state of the connection is refused. -/
  states : c'.link.phase = .stopped → ∀ wanted deadline, wanted ≠ .closed →
    c'.link.outcome? (.state wanted deadline) = some (.failed .shutdown)
  /-- Whoever waits for its end gets it when it has stopped, and not before. -/
  closers : c'.link.outcome? .closed = if c'.link.phase = .stopped then some .done else none

/-! ## Requests and their answers -/

variable {c : Life}

/-- A caller gets the last answer that was given to its request. -/
theorem answerTo?_eq (c : Life) (id : Nat) : c.link.answerTo? id = (c.answersTo id).getLast? := by
  rw [Link.answerTo?, ← Array.back?_filterMap, ← Array.getLast?_toList, Array.toList_filterMap,
    answersTo, Link.events, List.filterMap_map, List.filterMap_filterMap]
  congr 2
  funext e
  show _ = (Event.answer? e.event).bind _
  cases e.event <;> rfl

/-- A request that waits, or that is still to come, has no answer. -/
theorem Kept.unanswered (h : c.Kept) {id : Nat}
    (hid : id ∈ Life.numbers c.link.queue ∨ c.asked.length ≤ id) : c.answersTo id = [] := by
  rw [List.eq_nil_iff_forall_not_mem]
  intro outcome ho
  have hkey : id ∈ (c.link.events.filterMap Event.answer?).map Prod.fst :=
    List.mem_map.2 ⟨(id, outcome), mem_lookup.1 ho, rfl⟩
  rw [h.answered_keys, List.mem_append] at hkey
  have hall : (List.range c.asked.length).Nodup := List.nodup_range
  rw [← h.numbers, List.nodup_append, List.nodup_append] at hall
  obtain ⟨⟨-, -, hsettled⟩, -, hlate⟩ := hall
  rcases hid with hqueue | hlater
  · rcases hkey with hkey | hkey
    · exact hsettled id hkey id hqueue rfl
    · exact hlate id (List.mem_append_right _ hqueue) id hkey rfl
  · have hlt : id ∈ List.range c.asked.length := by
      rw [← h.numbers, List.mem_append, List.mem_append]
      rcases hkey with hkey | hkey
      · exact .inl (.inl hkey)
      · exact .inr hkey
    exact absurd (List.mem_range.1 hlt) (Nat.not_lt_of_le hlater)

/-- Once no request waits, each has an answer. -/
theorem Kept.answered (h : c.Kept) (hqueue : c.link.queue = []) {id : Nat}
    (hid : id < c.asked.length) : ∃ outcome, c.answersTo id = [outcome] := by
  rw [← List.mem_range, ← h.numbers, hqueue, Life.numbers, List.map_nil, List.append_nil,
    ← h.answered_keys] at hid
  obtain ⟨⟨id, outcome⟩, hmem, rfl⟩ := List.mem_map.1 hid
  exact ⟨outcome, h.answersTo_eq (mem_lookup.2 hmem)⟩

/-- A client that has stopped remains so, whatever happens. -/
theorem stopped_forever (hs : c.link.Sound) (h : c.link.phase = .stopped) (ns : List Move) :
    (ns.foldl move c).link.phase = .stopped ∧ (ns.foldl move c).link.Sound := by
  induction ns generalizing c with
  | nil => exact ⟨h, hs⟩
  | cons m ns ih =>
    obtain ⟨d, hd, -⟩ | ⟨hm, -⟩ := deed_or_meanwhile c m
    · exact absurd h (Link.not_stopped_of_ready hd)
    · exact ih (hm.sound hs) (hm.phase.trans h)

/-! ## Shutting down is final -/

namespace Leaving

variable {c c' : Life}

theorem log_eq {o s : Link} (h : Leaving o s) (hrunning : s.phase ≠ .stopped) :
    s.log = o.log ∧ s.now ≤ o.partsAt := by
  cases h.stage with
  | told live phase now log farewell => exact ⟨log, now ▸ o.le_partsAt⟩
  | closing held phase now log => exact ⟨log, now⟩
  | stopped phase refusals log only => exact absurd phase hrunning

theorem log_stopped {o s : Link} (h : Leaving o s) (hstop : s.phase = .stopped) :
    ∃ refusals : List Entry,
      s.log.toList = o.log.toList ++
        ⟨o.partsAt, .notified (.link .closed none) o.model⟩ :: refusals ∧
      ∀ e ∈ refusals, ∃ id, e.event = .answered id (.error .shutdown) := by
  cases h.stage with
  | told live phase now log farewell =>
    rw [← phase, hstop] at live
    cases live
  | closing held phase now log => exact absurd (phase.symm.trans hstop) Phase.noConfusion
  | stopped phase refusals log only => exact ⟨refusals, log, only⟩

/-- A request that has no answer yet gets one when the client stops: it is refused. -/
theorem answersTo (h : Leaving c.link c'.link) (hk' : c'.Kept) {id : Nat}
    (hnone : c.answersTo id = []) (hid : id < c'.asked.length) :
    c'.answersTo id = if c'.link.phase = .stopped then [.error .shutdown] else [] := by
  by_cases hstop : c'.link.phase = .stopped
  · rw [if_pos hstop]
    obtain ⟨outcome, hanswer⟩ := hk'.answered (hk'.queue hstop) hid
    obtain ⟨refusals, hlog, honly⟩ := h.log_stopped hstop
    have hmem : outcome ∈ c'.answersTo id := by
      rw [hanswer]
      exact List.mem_singleton_self _
    obtain ⟨e, he, hevent⟩ := List.mem_filterMap.1 (mem_lookup.1 hmem)
    rw [Link.events, hlog, List.map_append, List.mem_append, List.map_cons, List.mem_cons] at he
    rcases he with hold | rfl | hnew
    · -- it had no answer before
      have hbefore : outcome ∈ c.answersTo id :=
        mem_lookup.2 (List.mem_filterMap.2 ⟨e, hold, hevent⟩)
      rw [hnone] at hbefore
      cases hbefore
    · cases hevent
    · obtain ⟨entry, hentry, rfl⟩ := List.mem_map.1 hnew
      obtain ⟨k, hrefused⟩ := honly entry hentry
      rw [hrefused] at hevent
      obtain ⟨-, rfl⟩ := Prod.mk.inj (Option.some_inj.1 hevent)
      exact hanswer
  · rw [if_neg hstop, ← hnone, Life.answersTo, Life.answersTo, Link.events, Link.events,
      (h.log_eq hstop).1]

/-- **Shutting down is final.** -/
theorem final (h : Leaving c.link c'.link) (hk : c.Kept) (hk' : c'.Kept)
    (hnext : c'.link.phase.parting = false → c'.link.deed? = some c'.link.leave) : Final c c' where
  attempts := h.attempts
  model := ⟨h.model, h.modelCell⟩
  quiet := fun hrunning => by
    obtain ⟨hlog, hnow⟩ := h.log_eq hrunning
    refine ⟨hlog, hnow, fun hwait => ?_⟩
    obtain hstop | ⟨n, -, hearly⟩ := h.stopped_or_early hnext hwait
    · exact absurd hstop hrunning
    · exact hearly
  ended := h.log_stopped
  moment := by
    refine ⟨Link.partsAt_of_offline, fun n p delay failing hn hp hfarewell hle => ?_,
      c.link.partsAt_le⟩
    rw [Link.partsAt_of_session hn, Link.partingTime, hp, Option.map_some, hfarewell]
    exact congrArg (_ + ·) (Nat.min_eq_left hle)
  closed := by
    refine ⟨hk'.sound.closed_iff, fun hstop ns => ?_⟩
    obtain ⟨hstop', hs⟩ := stopped_forever hk'.sound hstop ns
    exact hs.closed_iff.2 hstop'
  requests := fun id hid hasked => by
    rw [Link.outcome?, answerTo?_eq, h.answersTo hk' (hk.unanswered hid) hasked]
    split <;> rfl
  states := fun hstop wanted deadline hwanted => by
    rw [Link.outcome?, hk'.sound.closed_iff.2 hstop, if_neg (Ne.symm hwanted), if_pos hstop]
  closers := Link.outcome?_closed hk'.sound

end Leaving

end Life

/-! ## A client without handles -/

namespace Link

/-- The same client, if it had been told to stop through a handle. -/
def dismissed (s : Link) : Link := { s with cancelled := true, handles := 1 }

theorem dismissed_enter (s : Link) (state : LinkState) (session : Option Nat) :
    s.dismissed.enter state session = (s.enter state session).dismissed := by
  show (if s.state = state then _ else _) = _
  rw [enter]
  split <;> rfl

theorem dismissed_refuseAll (s : Link) (q : List (Nat × Request)) :
    s.dismissed.refuseAll q = (s.refuseAll q).dismissed := by
  induction q generalizing s with
  | nil => rfl
  | cons e q ih => exact ih (s.answer e.1 (.error .shutdown))

theorem dismissed_stop (s : Link) : s.dismissed.stop = s.stop.dismissed := by
  let t : Link := { s with phase := .stopped }.enter .closed none
  have henter : ({ s with phase := .stopped } : Link).dismissed.enter .closed none = t.dismissed :=
    dismissed_enter _ _ _
  have hstop : s.dismissed.stop = { t.dismissed.refuseAll t.dismissed.queue with queue := [] } :=
    congrArg (fun u : Link => { u.refuseAll u.queue with queue := [] }) henter
  rw [hstop, dismissed_refuseAll]
  rfl

/-- Both do the same when they stop. -/
theorem dismissed_leave (s : Link) :
    s.dismissed.perform s.leave = (s.perform s.leave).dismissed := by
  rw [leave]
  split
  · rfl
  · exact dismissed_stop s

theorem dismissed_onPeer (s : Link) (n : Nat) (f : Peer → Peer) :
    s.dismissed.onPeer n f = (s.onPeer n f).dismissed := by
  have hpeer : s.dismissed.peer? n = s.peer? n := rfl
  rw [onPeer, onPeer, hpeer]
  cases s.peer? n <;> rfl

/-- Once a session is being closed it does not matter any more why. -/
theorem deed?_dismissed {s : Link} (h : s.phase.parting = true) : s.dismissed.deed? = s.deed? := by
  cases hphase : s.phase with
  | closing n t => simp only [deed?, dismissed, hphase]
  | stopped => simp only [deed?, dismissed, hphase]
  | _ =>
    rw [hphase] at h
    cases h

/-- What happens on another session does not matter to a client. -/
theorem deed?_onPeer {s : Link} {k : Nat} (f : Peer → Peer)
    (h : s.phase.parting = true ∨ s.phase.session? ≠ some k) : (s.onPeer k f).deed? = s.deed? := by
  obtain ⟨ps, -, he⟩ := onPeer_frame s k f
  have hpeer : ∀ n, s.phase.session? = some n → s.phase.parting = false →
      (s.onPeer k f).peer? n = s.peer? n := by
    intro n hn hlive
    have hne : n ≠ k := by
      rintro rfl
      rcases h with hparting | hother
      · exact absurd (hparting.symm.trans hlive) (by decide)
      · exact hother hn
    rcases Nat.eq_zero_or_pos k with rfl | hk
    · rfl
    · rw [onPeer_eq s hk, peer?_modify hk rfl, if_neg hne]
  rw [he] at hpeer ⊢
  rw [deed?, deed?]
  dsimp only
  cases hphase : s.phase with
  | serving n watch probed =>
    rw [hphase] at hpeer
    dsimp only
    rw [deedServing?, deedServing?, hpeer n rfl rfl]
    rfl
  | _ => rfl

/-- A client that has to wait, and then loses its last handle, is to stop. -/
theorem deed?_of_last {s t : Link} (hwait : s.deed? = none) (hlive : s.phase.parting = false)
    (ht : t = { s with handles := 0 }) : t.deed? = some t.leave := by
  have hphase : t.phase = s.phase := by rw [ht]
  have hcancelled : t.cancelled = s.cancelled := by rw [ht]
  have hhandles : t.handles = 0 := by rw [ht]
  have hqueue : t.queue = s.queue := by rw [ht]
  have hlater : ∀ {moment}, s.phase.due? = some moment → ¬ moment ≤ t.now := fun h => by
    rw [ht]
    exact Nat.not_le_of_lt (lt_of_waits hwait h)
  cases waits_of_deed? hwait with
  | stopped phase =>
    rw [phase] at hlive
    cases hlive
  | closing phase early =>
    rw [phase] at hlive
    cases hlive
  | @serving n watch probed p phase live peer next early queue handles =>
    have hpeer : t.peer? n = some p := by
      rw [ht]
      exact peer
    have hearly : t.reached watch = false := by
      rw [ht]
      exact early
    rw [phase] at hphase
    rw [live] at hcancelled
    rw [queue] at hqueue
    simp only [deed?, deedServing?, nextRequest?, leave, hphase, hcancelled, hpeer, next, hearly,
      hqueue, hhandles, if_neg Bool.false_ne_true]
    rfl
  | offline offline live queue handles =>
    rw [live] at hcancelled
    rw [queue] at hqueue
    cases hold : s.phase with
    | waiting moment =>
      have hearly : ¬ moment ≤ t.now := hlater (by rw [hold]; rfl)
      rw [hold] at hphase
      simp only [deed?, nextRequest?, leave, hphase, hcancelled, hqueue, hhandles, if_neg hearly,
        if_neg Bool.false_ne_true]
      rfl
    | seeking a due =>
      have hearly : t.reached due = false := by
        cases hdue : due with
        | none => rfl
        | some moment => exact decide_eq_false (hlater (by rw [hold]; exact hdue))
      rw [hold] at hphase
      simp only [deed?, nextRequest?, leave, hphase, hcancelled, hqueue, hhandles, hearly,
        if_neg Bool.false_ne_true]
      rfl
    | _ =>
      rw [hold] at offline
      cases offline

/-- A client without handles does next what it would do if it had been told to stop. -/
structure Abandoned (s : Link) : Prop where
  alone : s.handles = 0
  next : s.dismissed.deed? = s.deed?

/-- If it has to wait, its session is being closed already, or it has stopped. -/
theorem Abandoned.parting {s : Link} (h : s.Abandoned) (hwait : s.deed? = none) :
    s.phase.parting = true := by
  by_contra hlive
  have hleave : s.dismissed.deed? = some s.dismissed.leave :=
    deed?_of_cancelled rfl (Bool.eq_false_iff.2 hlive)
  rw [h.next, hwait] at hleave
  cases hleave

/-- It does nothing but leave. -/
theorem Abandoned.leave {s : Link} {d : Deed} (h : s.Abandoned) (hd : s.deed? = some d) :
    d = s.leave := by
  have hready : s.dismissed.Ready d := ready_of_deed? (h.next.trans hd)
  exact leave_of_ready (s := s.dismissed) hready rfl

theorem abandoned_last {s t : Link} (hwait : s.deed? = none) (hlive : s.phase.parting = false)
    (ht : t = { s with handles := 0 }) : t.Abandoned := by
  have hleave : t.dismissed.deed? = some t.dismissed.leave :=
    deed?_of_cancelled rfl (by rw [ht]; exact hlive)
  exact ⟨by rw [ht], hleave.trans (deed?_of_last hwait hlive ht).symm⟩

theorem Abandoned.onPeer {s : Link} (h : s.Abandoned) {k : Nat} (f : Peer → Peer)
    (hspared : s.phase.parting = true ∨ s.phase.session? ≠ some k) : (s.onPeer k f).Abandoned := by
  obtain ⟨ps, -, he⟩ := onPeer_frame s k f
  refine ⟨?_, ?_⟩
  · rw [he]
    exact h.alone
  · rw [← dismissed_onPeer, deed?_onPeer f hspared, deed?_onPeer (s := s.dismissed) f hspared]
    exact h.next

end Link

/-! ## The two ways to end a client -/

/-- The session on whose far side something happens. -/
def Move.session? : Move → Option Nat
  | .far n _ => some n
  | .vanish n => some n
  | _ => none

/-- How a client is ended. -/
inductive Dismissal where
  /-- It is closed through a handle. -/
  | close
  /-- Its last handle is dropped. -/
  | abandon
  deriving DecidableEq, Repr

/-- The move that ends the client. -/
def Dismissal.move : Dismissal → Move
  | close => .cancel
  | abandon => .release

namespace Life

/-- On the far side of the session that is held nothing happens until the client has its next
turn. -/
def Spares (held : Option Nat) (ns : List Move) : Prop :=
  ∀ n ∈ (ns.takeWhile (· ≠ .turn)).filterMap Move.session?, held ≠ some n

theorem Spares.cons {held : Option Nat} {m : Move} {ns : List Move} (h : Spares held (m :: ns))
    (hm : m ≠ .turn) : (∀ n, m.session? = some n → held ≠ some n) ∧ Spares held ns := by
  rw [Spares, List.takeWhile_cons_of_pos (p := fun m => decide (m ≠ Move.turn))
    (decide_eq_true hm)] at h
  refine ⟨fun n hn => h n (List.mem_filterMap.2 ⟨m, List.mem_cons_self, hn⟩), fun n hn => ?_⟩
  obtain ⟨m', hmem, hm'⟩ := List.mem_filterMap.1 hn
  exact h n (List.mem_filterMap.2 ⟨m', List.mem_cons_of_mem m hmem, hm'⟩)

end Life

/-- Nothing comes before a dismissal is noticed.  A client that is closed looks for that first.
Otherwise it had to wait when it lost its last handle, and no session brings anything since. -/
def Dismissal.Unhindered (s : Link) (ns : List Move) : Dismissal → Prop
  | close => True
  | abandon => s.deed? = none ∧ s.handles = 1 ∧ Life.Spares s.phase.session? ns

namespace Life

variable {c c' : Life}

/-- **Both go on in the same way**: a client that was abandoned, and one that was told to stop. -/
theorem abandoned_move (h : c.link.Abandoned) (hsame : c'.link = c.link.dismissed) {m : Move}
    (hm : c.link.Allows m)
    (hspared : ∀ n, m.session? = some n →
      c.link.phase.parting = true ∨ c.link.phase.session? ≠ some n) :
    (c.move m).link.Abandoned ∧ (c'.move m).link = (c.move m).link.dismissed ∧
      c'.link.Allows m := by
  cases m with
  | turn =>
    cases hd : c.link.deed? with
    | none =>
      have hd' : c'.link.deed? = none := by rw [hsame, h.next, hd]
      simp only [move, hd, hd']
      exact ⟨h, hsame, trivial⟩
    | some d =>
      have hd' : c'.link.deed? = some d := by rw [hsame, h.next, hd]
      have hready := Link.ready_of_deed? hd
      simp only [move, hd, hd']
      obtain rfl := h.leave hd
      refine ⟨⟨?_, Link.deed?_dismissed Link.parting_leave⟩, ?_, trivial⟩
      · exact (Link.handles_perform hready).trans h.alone
      · show c'.link.perform c.link.leave = _
        rw [hsame, Link.dismissed_leave]
        rfl
  | pass ms =>
    obtain ⟨hwait, hdue⟩ := hm
    have hparting : c.link.phase.parting = true := h.parting hwait
    refine ⟨⟨h.alone, Link.deed?_dismissed (s := { c.link with now := c.link.now + ms }) hparting⟩,
      ?_, ?_⟩
    · show ({ c'.link with now := c'.link.now + ms } : Link) = _
      rw [hsame]
      rfl
    · rw [hsame]
      exact ⟨h.next.trans hwait, hdue⟩
  | far k what =>
    refine ⟨h.onPeer (·.does what) (hspared k rfl), ?_, trivial⟩
    show c'.link.onPeer k (·.does what) = _
    rw [hsame]
    exact Link.dismissed_onPeer _ _ _
  | vanish k =>
    refine ⟨h.onPeer Peer.vanish (hspared k rfl), ?_, trivial⟩
    show c'.link.onPeer k Peer.vanish = _
    rw [hsame]
    exact Link.dismissed_onPeer _ _ _
  | submit r => exact absurd h.alone hm
  | cancel => exact absurd h.alone hm
  | clone => exact absurd h.alone hm
  | release => exact absurd h.alone hm

/-- After its next turn its session is being closed, or it has stopped. -/
theorem parting_turn (h : c.link.Abandoned) : (c.move .turn).link.phase.parting = true := by
  cases hd : c.link.deed? with
  | none =>
    simp only [move, hd]
    exact h.parting hd
  | some d =>
    simp only [move, hd, h.leave hd]
    exact Link.parting_leave

/-- **Both go on in the same way for ever.** -/
theorem abandoned_run {ns : List Move} (h : c.link.Abandoned)
    (hsame : c'.link = c.link.dismissed) (hns : c.Orderly ns)
    (hspared : c.link.phase.parting = true ∨ Spares c.link.phase.session? ns) :
    (ns.foldl move c).link.Abandoned ∧
      (ns.foldl move c').link = (ns.foldl move c).link.dismissed ∧ c'.Orderly ns := by
  induction ns generalizing c c' with
  | nil => exact ⟨h, hsame, trivial⟩
  | cons m ns ih =>
    have hstep : ∀ n, m.session? = some n →
        c.link.phase.parting = true ∨ c.link.phase.session? ≠ some n := by
      intro n hn
      refine hspared.imp id fun hs => (hs.cons ?_).1 n hn
      rintro rfl
      cases hn
    obtain ⟨h', hsame', hm⟩ := abandoned_move h hsame hns.1 hstep
    have hspared' : (c.move m).link.phase.parting = true ∨
        Spares (c.move m).link.phase.session? ns := by
      by_cases hturn : m = .turn
      · subst hturn
        exact .inl (parting_turn h)
      · rw [(rests_move hns.1 hturn).phase]
        exact hspared.imp id fun hs => (hs.cons hturn).2
    obtain ⟨hend, hsame'', horderly⟩ := ih h' hsame' hns.2 hspared'
    exact ⟨hend, hsame'', hm, horderly⟩

/-- One that was abandoned is on its way out if the one that was told to stop is. -/
theorem Leaving.of_dismissed {o s : Link} (h : Leaving o s.dismissed) : Leaving o s :=
  ⟨h.attempts, h.model, h.modelCell, by
    cases h.stage with
    | told live phase now log farewell => exact .told live phase now log farewell
    | closing held phase now log => exact .closing held phase now log
    | stopped phase refusals log only => exact .stopped phase refusals log only⟩

/-! ## The law -/

/-- A client is ended in one of the two ways, and then some moves are made. -/
structure Dismissed (w : Dismissal) (c : Life) (ns : List Move) : Prop where
  final : Final c ((w.move :: ns).foldl move c)
  /-- Whoever closes it, now or later, as often as they like, gets the end of it. -/
  closes : w = .close → ∀ k, Closes c.link ((w.move :: ns).foldl move c).link (k + 1)
  /-- A client that is abandoned becomes what it would have become if it had been closed. -/
  agrees : w = .abandon → c.Orderly (.cancel :: ns) ∧
    ((Move.cancel :: ns).foldl move c).link = ((Move.release :: ns).foldl move c).link.dismissed

variable {terms : Terms} {script : List Attempt} {hub : Hub}

/-- **Shutting a client down is final and bounded, and both ways to do it agree.** -/
theorem shutdown_final {w : Dismissal} {ms ns : List Move}
    (h : (start terms script hub).Orderly (ms ++ w.move :: ns))
    (hlive : (of terms script hub ms).link.phase.parting = false)
    (hplain : w.Unhindered (of terms script hub ms).link ns) :
    Dismissed w (of terms script hub ms) ns := by
  have hkept : (of terms script hub ms).Kept := kept ms
  have hkept' : ∀ m : Move, ((m :: ns).foldl move (of terms script hub ms)).Kept := fun m => by
    have hlater : (of terms script hub (ms ++ m :: ns)).Kept := kept _
    rwa [of, List.foldl_append] at hlater
  obtain ⟨hallows, hns⟩ : (of terms script hub ms).Orderly (w.move :: ns) :=
    ((orderly_append _ ms _).1 h).2
  have hrun : ((of terms script hub ms).move .cancel).Orderly ns →
      Leaving (of terms script hub ms).link
          ((Move.cancel :: ns).foldl move (of terms script hub ms)).link ∧
        ((Move.cancel :: ns).foldl move (of terms script hub ms)).link.cancelled = true :=
    (Leaving.begin hlive).run (c := (of terms script hub ms).move .cancel)
      ⟨hkept.sound.state, hkept.sound.cell, hkept.sound.session⟩ rfl
  cases w with
  | close =>
    obtain ⟨hleaving, hcancelled⟩ := hrun hns
    exact ⟨hleaving.final hkept (hkept' .cancel) (Link.deed?_of_cancelled hcancelled),
      fun _ k => hleaving.closes (hkept' .cancel).sound hcancelled k, fun hw => by cases hw⟩
  | abandon =>
    obtain ⟨hwait, hlast, hspares⟩ := hplain
    have hreleased : ((of terms script hub ms).move .release).link =
        { (of terms script hub ms).link with handles := 0 } := by
      show ({ (of terms script hub ms).link with
        handles := (of terms script hub ms).link.handles - 1 } : Link) = _
      rw [hlast]
    have hsame : ((of terms script hub ms).move .cancel).link =
        ((of terms script hub ms).move .release).link.dismissed := by
      rw [hreleased]
      show ({ (of terms script hub ms).link with cancelled := true } : Link) =
        { (of terms script hub ms).link with cancelled := true, handles := 1 }
      rw [← hlast]
    have hspared : Spares ((of terms script hub ms).move .release).link.phase.session? ns := hspares
    obtain ⟨hend, hagree, horderly⟩ :=
      abandoned_run (Link.abandoned_last hwait hlive hreleased) hsame hns (.inr hspared)
    obtain ⟨hleaving, -⟩ := hrun horderly
    rw [List.foldl_cons, hagree] at hleaving
    refine ⟨hleaving.of_dismissed.final hkept (hkept' .release) fun hrunning => ?_,
      fun hw => (by cases hw), fun _ => ⟨⟨?_, horderly⟩, hagree⟩⟩
    · exact hend.next.symm.trans (Link.deed?_of_cancelled rfl hrunning)
    · show (of terms script hub ms).link.handles ≠ 0
      rw [hlast]
      exact Nat.one_ne_zero

/-- A session opens, and the client has to wait. -/
def opening : List Move := [.turn, .turn]

/-- The close of the session hangs.  Requests are handed in before and after the end, and the client
is closed once more. -/
def hanging : List Move :=
  [.submit (.send .startRace), .turn, .far 1 [.text "?"], .pass 2000, .turn, .submit .refresh,
    .cancel]

theorem shutdown_final_hanging :
    (start ⟨2000, 0, true⟩ [⟨.accepted, 0, none, .never⟩] (Hub.make 4)).Orderly
        (opening ++ Dismissal.close.move :: hanging) ∧
      Dismissed .close
        (of ⟨2000, 0, true⟩ [⟨.accepted, 0, none, .never⟩] (Hub.make 4) opening) hanging ∧
      (start ⟨2000, 0, true⟩ [] (Hub.make 4)).Orderly
        (opening ++ Dismissal.abandon.move :: opening) ∧
      Dismissed .abandon (of ⟨2000, 0, true⟩ [] (Hub.make 4) opening) opening := by
  have hclose : (start ⟨2000, 0, true⟩ [⟨.accepted, 0, none, .never⟩] (Hub.make 4)).Orderly
      (opening ++ Dismissal.close.move :: hanging) := by decide
  have habandon : (start ⟨2000, 0, true⟩ [] (Hub.make 4)).Orderly
      (opening ++ Dismissal.abandon.move :: opening) := by decide
  have hidle : Dismissal.abandon.Unhindered
      (of ⟨2000, 0, true⟩ [] (Hub.make 4) opening).link opening := by
    refine ⟨by decide, by decide, fun n hn => ?_⟩
    cases hn
  exact ⟨hclose, shutdown_final hclose (by decide) trivial,
    habandon, shutdown_final habandon (by decide) hidle⟩

/-- A lap arrives before the client has noticed that its last handle is gone. -/
def overtaking : List Move :=
  [.far 1 [.text "\x7b\"type\":\"lap\",\"lap_time_ms\":41000,\"rssi_peak\":130\x7d"], .turn, .turn,
    .turn]

/-- A client that has to wait and loses its last handle still takes that lap. -/
theorem lap_overtakes_release :
    (start ⟨2000, 0, true⟩ [] (Hub.make 4)).Orderly (opening ++ .release :: overtaking) ∧
      (of ⟨2000, 0, true⟩ [] (Hub.make 4) opening).link.deed? = none ∧
      (of ⟨2000, 0, true⟩ [] (Hub.make 4) opening).link.phase.parting = false ∧
      (of ⟨2000, 0, true⟩ [] (Hub.make 4) opening).link.handles = 1 ∧
      ¬ Final (of ⟨2000, 0, true⟩ [] (Hub.make 4) opening)
        (of ⟨2000, 0, true⟩ [] (Hub.make 4) (opening ++ .release :: overtaking)) := by
  refine ⟨by decide +kernel, by decide, by decide, by decide, fun h => ?_⟩
  have hlaps := congrArg (fun m : Model => m.laps.length) h.model.1
  revert hlaps
  decide +kernel

end Life
end RaceLink
