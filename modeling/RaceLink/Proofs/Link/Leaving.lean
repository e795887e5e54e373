import RaceLink.Proofs.Link.Clock

/-!
# The way out

A client that was told to stop does nothing but stop: at once, if it holds no session, or else after
it has closed the one that it holds, which takes a limited time.

* `Link.leave` — the only deed of a client that was told to stop (`deed?_of_cancelled`).
* `Link.partsAt` — the moment at which it has stopped.
* `Life.Leaving` — **all that can have happened since**: nothing; or the session is being closed; or
  the end was announced, and requests are refused.
* `Leaving.perform`, `Leaving.rests`, `Leaving.run` — this is kept by its deeds, by all that happens
  while it rests, and so by all that can still come.
* `Leaving.settle` — once it has to wait it has stopped, or the moment of its end is yet to come.
-/

set_option autoImplicit false

namespace RaceLink
namespace Link

/-! ## The way out -/

/-- The time that the far side of a session takes for its end, or the client allows for it. -/
def partingTime (s : Link) (n : Nat) : Nat :=
  match (s.peer? n).map Peer.farewell with
  | some (.after delay _) => min delay closeLimit
  | _ => closeLimit

/-- The moment at which a client that is shut down now has stopped: at once if no session is open,
or else when the session has been closed, and no later than `closeLimit`. -/
def partsAt (s : Link) : Nat :=
  match s.phase.session? with
  | none => s.now
  | some n => s.now + s.partingTime n

theorem partingTime_le (s : Link) (n : Nat) : s.partingTime n ≤ closeLimit := by
  rw [partingTime]
  split
  · exact Nat.min_le_right _ _
  · exact Nat.le_refl _

/-- A far side says from the beginning how it takes its end. -/
theorem farewell_onPeer (s : Link) (k : Nat) (f : Peer → Peer)
    (hf : ∀ p, (f p).farewell = p.farewell) (n : Nat) :
    ((s.onPeer k f).peer? n).map Peer.farewell = (s.peer? n).map Peer.farewell := by
  rcases Nat.eq_zero_or_pos k with rfl | hk
  · rfl
  · rw [Link.onPeer_eq s hk, Link.peer?_modify hk rfl]
    split
    · rw [Option.map_map]
      exact congrArg (Option.map · _) (funext hf)
    · rfl

/-- The only deed of a client that was told to stop. -/
def leave (s : Link) : Deed :=
  match s.phase with
  | .serving n _ _ => .close n
  | _ => .stop

/-- A client that was told to stop does nothing else. -/
theorem deed?_of_cancelled {s : Link} (hc : s.cancelled = true)
    (hlive : s.phase.parting = false) : s.deed? = some s.leave := by
  rw [deed?, leave]
  cases hphase : s.phase with
  | waiting t => exact if_pos hc
  | seeking a due => exact if_pos hc
  | serving n watch probed => exact if_pos hc
  | closing n t =>
    rw [hphase] at hlive
    cases hlive
  | stopped =>
    rw [hphase] at hlive
    cases hlive

theorem leave_of_ready {s : Link} {d : Deed} (h : s.Ready d) (hc : s.cancelled = true) :
    d = s.leave := by
  have hdead : s.cancelled ≠ false := by
    rw [hc]
    exact Bool.noConfusion
  rw [leave]
  cases h with
  | close phase quitting => rw [phase]
  | part phase due => rw [phase]
  | stop offline quitting =>
    cases hphase : s.phase with
    | serving n watch probed =>
      rw [hphase] at offline
      cases offline
    | _ => rfl
  | attempt phase live due => exact absurd live hdead
  | resolve phase live reached => exact absurd live hdead
  | read phase live peer next => exact absurd live hdead
  | lose phase live finished => exact absurd live hdead
  | watch phase live peer next reached => exact absurd live hdead
  | serve phase live peer next early queue => exact absurd live hdead
  | decline offline live queue => exact absurd live hdead

theorem partsAt_of_session {s : Link} {n : Nat} (h : s.phase.session? = some n) :
    s.partsAt = s.now + s.partingTime n := by
  rw [partsAt, h]

theorem partsAt_of_offline {s : Link} (h : s.phase.session? = none) : s.partsAt = s.now := by
  rw [partsAt, h]

theorem le_partsAt (s : Link) : s.now ≤ s.partsAt := by
  rw [partsAt]
  split
  · exact Nat.le_refl _
  · exact Nat.le_add_right _ _

theorem partsAt_le (s : Link) : s.partsAt ≤ s.now + closeLimit := by
  rw [partsAt]
  split
  · exact Nat.le_add_right _ _
  · exact Nat.add_le_add_left (s.partingTime_le _) _

theorem refuseAll_frame (s : Link) (q : List (Nat × Request)) :
    ∃ log, s.refuseAll q = { s with log := log } := by
  induction q generalizing s with
  | nil => exact ⟨s.log, rfl⟩
  | cons e q ih =>
    obtain ⟨log, he⟩ := ih (s.answer e.1 (.error .shutdown))
    exact ⟨log, he⟩

theorem modelCell_stop (s : Link) : s.stop.modelCell = s.modelCell := by
  let t : Link := { s with phase := .stopped }.enter .closed none
  have ht : t.modelCell = s.modelCell := by
    show (enter _ _ _).modelCell = s.modelCell
    rw [enter]
    split <;> rfl
  obtain ⟨log, he⟩ := refuseAll_frame t t.queue
  show (t.refuseAll t.queue).modelCell = s.modelCell
  rw [he]
  exact ht

end Link

namespace Life

/-! ## A client that was told to stop -/

/-- How far a client has come on its way out; `o` is the client that was told to stop. -/
inductive Stage (o s : Link) : Prop
  /-- It has not noticed yet. -/
  | told (live : o.phase.parting = false) (phase : s.phase = o.phase) (now : s.now = o.now)
      (log : s.log = o.log)
      (farewell : ∀ n, (s.peer? n).map Peer.farewell = (o.peer? n).map Peer.farewell)
  | closing {n : Nat} (held : o.phase.session? = some n)
      (phase : s.phase = .closing n o.partsAt) (now : s.now ≤ o.partsAt) (log : s.log = o.log)
  | stopped (phase : s.phase = .stopped) (refusals : List Entry)
      (log : s.log.toList =
        o.log.toList ++ ⟨o.partsAt, .notified (.link .closed none) o.model⟩ :: refusals)
      (only : ∀ e ∈ refusals, ∃ id, e.event = .answered id (.error .shutdown))

/-- A client on its way out; `o` is the client that was told to stop. -/
structure Leaving (o s : Link) : Prop where
  attempts : s.attempts = o.attempts
  model : s.model = o.model
  modelCell : s.modelCell = o.modelCell
  stage : Stage o s

theorem log_stop {s : Link} (hs : s.Sound) (h : s.Ready .stop) {moment : Nat}
    (hnow : s.now = moment) : ∃ refusals : List Entry,
      (s.perform .stop).log.toList =
        s.log.toList ++ ⟨moment, .notified (.link .closed none) s.model⟩ :: refusals ∧
      ∀ e ∈ refusals, ∃ id, e.event = .answered id (.error .shutdown) := by
  refine ⟨s.queue.map fun e => ⟨s.now, .answered e.1 (.error .shutdown)⟩, ?_, fun e he => ?_⟩
  · rw [Link.log_perform hs h, ← hnow, Link.story, List.map_cons, List.map_map]
    rfl
  · obtain ⟨r, -, rfl⟩ := List.mem_map.1 he
    exact ⟨r.1, rfl⟩

namespace Leaving

variable {o s : Link}

/-- It begins when a client that is neither stopping nor stopped is told to stop. -/
theorem begin (hlive : o.phase.parting = false) : Leaving o { o with cancelled := true } :=
  ⟨rfl, rfl, rfl, .told hlive rfl rfl rfl fun _ => rfl⟩

/-- If it is to stop now, nothing has been told since, and this is the moment. -/
theorem at_end (h : Leaving o s) (hd : s.Ready .stop) : s.log = o.log ∧ s.now = o.partsAt := by
  cases h.stage with
  | told live phase now log farewell =>
    refine ⟨log, ?_⟩
    cases hd with
    | part held due =>
      rw [← phase, held] at live
      cases live
    | stop offline quitting =>
      rw [phase] at offline
      rw [now, Link.partsAt_of_offline (Phase.session?_of_connecting offline)]
  | closing held phase now log =>
    refine ⟨log, ?_⟩
    cases hd with
    | part held' due =>
      obtain ⟨-, rfl⟩ := Phase.closing.inj (phase.symm.trans held')
      exact Nat.le_antisymm now due
    | stop offline quitting =>
      rw [phase] at offline
      cases offline
  | stopped phase refusals log only => exact absurd phase (Link.not_stopped_of_ready hd)

/-- **A deed takes it further on its way out**, and changes nothing else. -/
theorem perform {d : Deed} (h : Leaving o s) (hs : s.Sound) (hc : s.cancelled = true)
    (hd : s.Ready d) : Leaving o (s.perform d) := by
  obtain rfl := Link.leave_of_ready hd hc
  cases hphase : s.phase with
  | serving n watch probed =>
    have hleave : s.leave = .close n := by rw [Link.leave, hphase]
    rw [hleave]
    cases h.stage with
    | told live phase now log farewell =>
      -- the far side takes the same time for its end as when the client was told to stop
      have hheld : o.phase.session? = some n := by rw [← phase, hphase]; rfl
      have hparts : o.partsAt = s.now + s.partingTime n := by
        rw [Link.partsAt_of_session hheld, now, Link.partingTime, Link.partingTime, farewell n]
      refine ⟨h.attempts, h.model, h.modelCell, .closing hheld ?_ ?_ log⟩
      · rw [hparts]
        rfl
      · rw [hparts]
        exact Nat.le_add_right _ _
    | closing held phase now log => exact absurd (phase.symm.trans hphase) Phase.noConfusion
    | stopped phase refusals log only => exact absurd (phase.symm.trans hphase) Phase.noConfusion
  | _ =>
    have hleave : s.leave = .stop := by rw [Link.leave, hphase]
    rw [hleave] at hd ⊢
    obtain ⟨log, now⟩ := h.at_end hd
    obtain ⟨refusals, hlog, honly⟩ := log_stop hs hd now
    rw [log, h.model] at hlog
    exact ⟨(congrArg Link.attempts (Link.bare_stop s) :).trans h.attempts,
      (Link.model_perform hd).trans h.model, (Link.modelCell_stop s).trans h.modelCell,
      .stopped ((Link.stopped_perform_iff hd).2 rfl) refusals hlog honly⟩

/-- Nothing changes while it rests; at most a request is refused. -/
theorem rests {t : Link} (h : Leaving o s) (hc : s.cancelled = true) (hr : Rests s t)
    (hfarewell : ∀ n, (t.peer? n).map Peer.farewell = (s.peer? n).map Peer.farewell) :
    Leaving o t := by
  refine ⟨hr.attempts.trans h.attempts, hr.model.trans h.model,
    hr.modelCell.trans h.modelCell, ?_⟩
  have hlog : s.phase ≠ .stopped → t.log = s.log := fun hrunning =>
    hr.log.resolve_right fun hstop => hrunning hstop.1
  cases h.stage with
  | told live phase now log farewell =>
    have hwait : s.deed? = some s.leave := Link.deed?_of_cancelled hc (by rw [phase]; exact live)
    have hnow : t.now = s.now := by
      refine hr.clock.resolve_right fun hidle => ?_
      rw [hwait] at hidle
      cases hidle.1
    have hrunning : s.phase ≠ .stopped := by
      intro hstop
      rw [← phase, hstop] at live
      cases live
    exact .told live (hr.phase.trans phase) (hnow.trans now) ((hlog hrunning).trans log)
      fun n => (hfarewell n).trans (farewell n)
  | closing held phase now log =>
    have hrunning : s.phase ≠ .stopped := by
      rw [phase]
      exact Phase.noConfusion
    refine .closing held (hr.phase.trans phase) ?_ ((hlog hrunning).trans log)
    rcases hr.clock with hnow | ⟨-, hdue⟩
    · rw [hnow]
      exact now
    · exact hdue o.partsAt (by rw [phase]; rfl)
  | stopped phase refusals log only =>
    rcases hr.log with hsame | ⟨-, id, hpush⟩
    · exact .stopped (hr.phase.trans phase) refusals (by rw [hsame, log]) only
    · refine .stopped (hr.phase.trans phase)
        (refusals ++ [⟨s.now, .answered id (.error .shutdown)⟩]) ?_ fun e he => ?_
      · rw [hpush, Array.toList_push, log, List.append_assoc]
        rfl
      · rcases List.mem_append.1 he with hold | hnew
        · exact only e hold
        · rw [List.mem_singleton.1 hnew]
          exact ⟨id, rfl⟩

end Leaving

/-! ## All that can still come -/

theorem farewell_move {c : Life} {m : Move} (hm : m ≠ .turn) (n : Nat) :
    ((c.move m).link.peer? n).map Peer.farewell = (c.link.peer? n).map Peer.farewell := by
  cases m with
  | turn => exact absurd rfl hm
  | far k what =>
    refine Link.farewell_onPeer c.link k (·.does what) (fun p => ?_) n
    rw [Peer.does]
    split <;> rfl
  | vanish k => exact Link.farewell_onPeer c.link k Peer.vanish (fun _ => rfl) n
  | submit r =>
    show ((c.link.submit _ r).peer? n).map Peer.farewell = _
    rw [Link.submit]
    split <;> rfl
  | _ => rfl

theorem cancelled_move {c : Life} {m : Move} (hm : c.link.Allows m)
    (hc : c.link.cancelled = true) : (c.move m).link.cancelled = true := by
  obtain ⟨d, hd, he⟩ | ⟨hr, -⟩ := deed_or_rests hm
  · rw [he]
    exact (Link.cancelled_perform hd).trans hc
  · exact hr.cancelled hc

namespace Leaving

variable {o : Link} {c : Life}

theorem move {m : Move} (h : Leaving o c.link) (hs : c.link.Sound)
    (hc : c.link.cancelled = true) (hm : c.link.Allows m) : Leaving o (c.move m).link := by
  by_cases hturn : m = .turn
  · subst hturn
    rw [Life.move]
    split
    · exact h
    · rename_i d hd
      exact h.perform hs hc (Link.ready_of_deed? hd)
  · exact h.rests hc (rests_move hm hturn) (farewell_move hturn)

/-- **A client that was told to stop is on its way out ever after.** -/
theorem run {ns : List Move} (h : Leaving o c.link) (hs : c.link.Sound)
    (hc : c.link.cancelled = true) (hns : c.Orderly ns) :
    Leaving o (ns.foldl Life.move c).link ∧ (ns.foldl Life.move c).link.cancelled = true := by
  refine (hns.keeps
    (P := fun c => c.link.Sound ∧ Leaving o c.link ∧ c.link.cancelled = true)
    ⟨hs, h, hc⟩ fun c m hm hp => ?_).2
  obtain ⟨hs, h, hc⟩ := hp
  refine ⟨?_, h.move hs hc hm, cancelled_move hm hc⟩
  obtain ⟨d, hd, he⟩ | ⟨hr, -⟩ := deed_or_rests hm
  · rw [he]
    exact hs.perform hd
  · exact hr.sound hs

end Leaving

end Life

/-! ## When it has to wait -/

namespace Link

theorem parting_leave {s : Link} : (s.perform s.leave).phase.parting = true := by
  rw [leave]
  split
  · rfl
  · have hphase : s.stop.phase = .stopped := (congrArg phase (bare_stop s) :)
    show s.stop.phase.parting = true
    rw [hphase]
    rfl

theorem deed?_of_stopped {s : Link} (h : s.phase = .stopped) : s.deed? = none := by
  rw [deed?, h]

/-- A client that was told to stop has to wait after two turns at most. -/
theorem turns_cancelled {s : Link} (hc : s.cancelled = true) (k : Nat) :
    (turns (k + 2) s).deed? = none := by
  cases hd : s.deed? with
  | none => rw [turns_of_waits hd, hd]
  | some d =>
    have hready := ready_of_deed? hd
    obtain rfl := leave_of_ready hready hc
    rw [turns_of_ready hd]
    cases hd' : (s.perform s.leave).deed? with
    | none => rw [turns_of_waits hd', hd']
    | some d' =>
      -- the first deed closed the session, so the second one stops the client
      have hready' := ready_of_deed? hd'
      obtain rfl := leave_of_ready hready' ((cancelled_perform hready).trans hc)
      have hstop : (s.perform s.leave).leave = .stop := by
        have hparting := parting_leave (s := s)
        rw [leave]
        split
        · rename_i hphase
          rw [hphase] at hparting
          cases hparting
        · rfl
      rw [hstop] at hready' hd'
      have hstopped := deed?_of_stopped ((stopped_perform_iff hready').2 rfl)
      rw [turns_of_ready hd', turns_of_waits hstopped, hstopped]

end Link

namespace Life
namespace Leaving

variable {o s : Link}

/-- **Once it has to wait it has stopped**, or the moment of its end is yet to come. -/
theorem stopped_or_early (h : Leaving o s)
    (hnext : s.phase.parting = false → s.deed? = some s.leave) (hwait : s.deed? = none) :
    s.phase = .stopped ∨ ∃ n, s.phase = .closing n o.partsAt ∧ s.now < o.partsAt := by
  cases h.stage with
  | told live phase now log farewell =>
    have hdeed := hnext (by rw [phase]; exact live)
    rw [hwait] at hdeed
    cases hdeed
  | @closing n held phase now log =>
    exact .inr ⟨n, phase, Link.lt_of_waits hwait (by rw [phase]; rfl)⟩
  | stopped phase refusals log only => exact .inl phase

/-- Turns take it further on its way out.  It stops at the moment that was set for that. -/
theorem turns (k : Nat) (h : Leaving o s) (hs : s.Sound) (hc : s.cancelled = true) :
    Leaving o (Link.turns k s) ∧ (Link.turns k s).Sound ∧ (Link.turns k s).cancelled = true ∧
      (Link.turns k s).now = s.now ∧
      ((Link.turns k s).phase = .stopped → s.phase = .stopped ∨ s.now = o.partsAt) := by
  induction k generalizing s with
  | zero => exact ⟨h, hs, hc, rfl, .inl⟩
  | succ k ih =>
    cases hd : s.deed? with
    | none =>
      rw [Link.turns_of_waits hd]
      exact ⟨h, hs, hc, rfl, .inl⟩
    | some d =>
      have hready := Link.ready_of_deed? hd
      obtain ⟨h', hs', hc', hnow, hstop⟩ :=
        ih (h.perform hs hc hready) (hs.perform hready) ((Link.cancelled_perform hready).trans hc)
      rw [Link.now_perform hready] at hnow hstop
      rw [Link.turns_of_ready hd]
      refine ⟨h', hs', hc', hnow, fun hstopped => .inr ?_⟩
      rcases hstop hstopped with hfirst | hmoment
      · obtain rfl := (Link.stopped_perform_iff hready).1 hfirst
        exact (h.at_end hready).2
      · exact hmoment

/-- The client once it has to wait. -/
theorem settle (h : Leaving o s) (hs : s.Sound) (hc : s.cancelled = true) :
    Leaving o s.settle ∧ s.settle.Sound ∧ s.settle.cancelled = true ∧ s.settle.now = s.now ∧
      ((s.settle.phase = .stopped ∧ (s.phase = .stopped ∨ s.now = o.partsAt)) ∨
        ∃ n, s.settle.phase = .closing n o.partsAt ∧ s.now < o.partsAt) := by
  obtain ⟨h', hs', hc', hnow, hstop⟩ := h.turns s.workload hs hc
  have hwait : s.settle.deed? = none := Link.turns_cancelled hc (s.unread + s.queue.length + 6)
  refine ⟨h', hs', hc', hnow, ?_⟩
  rcases h'.stopped_or_early (Link.deed?_of_cancelled hc') hwait with hstopped | ⟨n, hn, hlt⟩
  · exact .inl ⟨hstopped, hstop hstopped⟩
  · exact .inr ⟨n, hn, hnow ▸ hlt⟩

/-- The moment of its end comes. -/
theorem expire {n : Nat} (h : Leaving o s) (hphase : s.phase = .closing n o.partsAt) :
    Leaving o { s with now := o.partsAt } := by
  refine ⟨h.attempts, h.model, h.modelCell, ?_⟩
  cases h.stage with
  | told live phase now log farewell =>
    rw [← phase, hphase] at live
    cases live
  | closing held phase now log => exact .closing held phase (Nat.le_refl _) log
  | stopped phase refusals log only => exact .stopped phase refusals log only

end Leaving
end Life

/-! ## Waiting for the end -/

namespace Link

/-- Callers who wait for the end, and what each of them has got so far. -/
def closers (k : Nat) (got : Option Outcome) : List Pending := List.replicate k (.closed, got)

/-- Handles read that a client is closed as soon as it has stopped. -/
theorem Sound.closed_iff {s : Link} (hs : s.Sound) :
    s.stateCell.value = .closed ↔ s.phase = .stopped := by
  rw [hs.cell, hs.state]
  cases s.phase <;> simp [Phase.shown]

/-- Who waits for the end gets it as soon as the client has stopped, and not before. -/
theorem outcome?_closed {s : Link} (hs : s.Sound) :
    s.outcome? .closed = if s.phase = .stopped then some .done else none := by
  rw [outcome?]
  simp only [hs.closed_iff]

theorem serveWaiters_closers (s : Link) (k : Nat) (got : Option Outcome) :
    s.serveWaiters (closers k got) = closers k (got.or (s.outcome? .closed)) :=
  List.map_replicate

theorem horizon_closed (s : Link) (k : Nat) :
    s.horizon (List.replicate k .closed) = s.now + closeLimit := by
  induction k with
  | zero => rfl
  | succ k ih => exact ih

theorem nextMoment_closers {s : Link} {t : Nat} (hdue : s.phase.due? = some t) (hlt : s.now < t)
    (k : Nat) (got : Option Outcome) : s.nextMoment (closers k got) = some t := by
  -- none of them has a deadline
  have hnone : ∀ f : Pending → Option Nat, f (.closed, got) = none →
      (closers k got).filterMap f = [] := fun f hf =>
    List.filterMap_eq_nil_iff.2 fun w hw => by rw [List.eq_of_mem_replicate hw, hf]
  rw [nextMoment, hnone _ rfl, hdue]
  show (List.filter (fun x => decide (s.now < x)) [t]).min? = some t
  have hlater : [t].filter (fun x => decide (s.now < x)) = [t] :=
    List.filter_cons_of_pos (decide_eq_true hlt)
  rw [hlater]
  rfl

/-- All who wait for the end get it once the client has settled and has stopped. -/
theorem awaitWithin_stopped {s : Link} (hs : s.Sound) (hs' : s.settle.Sound)
    (hstop : s.settle.phase = .stopped) (n k : Nat) :
    awaitWithin (n + 1) s (closers k (s.outcome? .closed)) =
      (s.settle, closers k (some .done)) := by
  have hgot : (s.outcome? .closed).or (s.settle.outcome? .closed) = some .done := by
    rw [outcome?_closed hs, outcome?_closed hs', if_pos hstop]
    split <;> rfl
  rw [awaitWithin]
  dsimp only
  rw [serveWaiters_closers, hgot]
  exact if_pos (List.all_eq_true.2 fun w hw => by rw [List.eq_of_mem_replicate hw]; rfl)

/-- Or else they wait for the moment of its end. -/
theorem awaitWithin_closing {s : Link} {t : Nat} (hs : s.Sound) (hs' : s.settle.Sound)
    (hrunning : s.phase ≠ .stopped) (hrunning' : s.settle.phase ≠ .stopped)
    (hdue : s.settle.phase.due? = some t) (hlt : s.settle.now < t) (n k : Nat) :
    awaitWithin (n + 1) s (closers (k + 1) (s.outcome? .closed)) =
      awaitWithin n { s.settle with now := t }
        (closers (k + 1) (({ s.settle with now := t } : Link).outcome? .closed)) := by
  have hgot : (s.outcome? .closed).or (s.settle.outcome? .closed) = none := by
    rw [outcome?_closed hs, outcome?_closed hs', if_neg hrunning, if_neg hrunning']
    rfl
  rw [awaitWithin]
  dsimp only
  rw [serveWaiters_closers, hgot, nextMoment_closers hdue hlt]
  refine (if_neg Bool.false_ne_true).trans (congrArg (awaitWithin n _) ?_)
  exact serveWaiters_closers _ _ _

end Link

namespace Life

/-- Some callers close a client, and wait for its end; `o` is the client that was first told to
stop.  All of them get it, at the moment at which it has stopped, or at once if it already has. -/
structure Closes (o s : Link) (callers : Nat) : Prop where
  outcomes : (s.await (List.replicate callers .closed)).2 = List.replicate callers (some .done)
  stopped : (s.await (List.replicate callers .closed)).1.phase = .stopped
  moment : (s.await (List.replicate callers .closed)).1.now =
    if s.phase = .stopped then s.now else o.partsAt

namespace Leaving

variable {o s : Link}

theorem awaitWithin (h : Leaving o s) (hs : s.Sound) (hc : s.cancelled = true) (n k : Nat) :
    ∃ t, Link.awaitWithin (n + 2) s (Link.closers (k + 1) (s.outcome? .closed)) =
        (t, Link.closers (k + 1) (some .done)) ∧
      t.phase = .stopped ∧ t.now = if s.phase = .stopped then s.now else o.partsAt := by
  obtain ⟨h₁, hs₁, hc₁, hnow₁, ⟨hstop₁, hmoment₁⟩ | ⟨m, hphase₁, hlt₁⟩⟩ := h.settle hs hc
  · refine ⟨s.settle, Link.awaitWithin_stopped hs hs₁ hstop₁ _ _, hstop₁, ?_⟩
    rw [hnow₁]
    split
    · rfl
    · rename_i hrunning
      exact hmoment₁.resolve_left hrunning
  · -- time passes up to the moment of its end, and then it stops
    have hrunning₁ : s.settle.phase ≠ .stopped := by
      rw [hphase₁]
      exact Phase.noConfusion
    have hrunning : s.phase ≠ .stopped := by
      intro hstop
      have hsame : s.settle = s := Link.turns_of_waits (Link.deed?_of_stopped hstop) _
      rw [hsame] at hrunning₁
      exact hrunning₁ hstop
    have hdue : s.settle.phase.due? = some o.partsAt := by rw [hphase₁]; rfl
    rw [Link.awaitWithin_closing hs hs₁ hrunning hrunning₁ hdue (hnow₁ ▸ hlt₁), if_neg hrunning]
    have hs₂ : ({ s.settle with now := o.partsAt } : Link).Sound :=
      ⟨hs₁.state, hs₁.cell, hs₁.session⟩
    obtain ⟨-, hs₃, -, hnow₃, hend⟩ := (h₁.expire hphase₁).settle hs₂ hc₁
    rcases hend with ⟨hstop₃, -⟩ | ⟨-, -, hlate⟩
    · exact ⟨_, Link.awaitWithin_stopped hs₂ hs₃ hstop₃ _ _, hstop₃, hnow₃⟩
    · exact absurd hlate (Nat.lt_irrefl _)

/-- **Whoever waits for the end gets it.** -/
theorem closes (h : Leaving o s) (hs : s.Sound) (hc : s.cancelled = true) (k : Nat) :
    Closes o s (k + 1) := by
  obtain ⟨t, hawait, hstop, hnow⟩ := h.awaitWithin hs hc Link.closeLimit k
  have heq : s.await (List.replicate (k + 1) .closed) =
      (t, List.replicate (k + 1) (some .done)) := by
    have hpending : (List.replicate (k + 1) Waiter.closed).map (·, (none : Option Outcome)) =
        Link.closers (k + 1) none := List.map_replicate
    rw [Link.await, Link.horizon_closed, Nat.add_sub_cancel_left, hpending,
      Link.serveWaiters_closers, Option.none_or, hawait]
    exact congrArg (Prod.mk t) List.map_replicate
  refine ⟨?_, ?_, ?_⟩
  · rw [heq]
  · rw [heq]
    exact hstop
  · rw [heq]
    exact hnow

end Leaving
end Life
end RaceLink
