import RaceLink.Proofs.Link.Deed

/-!
# Sound clients

A client says of its connection what is true of it.

* `Sound` — the state that is announced is that of the phase, handles read that same state, and the
  session that is held is the last one that was opened.
* `Sound.perform` — **deeds keep a client sound**.  What the state cell and the state become is
  followed through each deed (`Shows`); the rest is read off `Link.bareAfter`.
-/

set_option autoImplicit false

namespace RaceLink
namespace Link

/-! ## Sound clients -/

/-- What holds of a client at all times. -/
structure Sound (s : Link) : Prop where
  /-- The state that was announced is that of the phase. -/
  state : s.state = s.phase.shown
  /-- Handles read the state that was announced. -/
  cell : s.stateCell.value = s.state
  /-- The session that is held is the last one that was opened. -/
  session : ∀ n, s.phase.session? = some n → 0 < n ∧ n = s.peers.length

theorem sound_start (terms : Terms) (script : List Attempt) (hub : Hub) :
    Sound (start terms script hub) :=
  ⟨rfl, rfl, fun _ h => by cases h⟩

theorem stateCell_enter {s : Link} (h : s.stateCell.value = s.state) (state : LinkState)
    (session : Option Nat) : (s.enter state session).stateCell.value = state := by
  rw [enter]
  split
  · rename_i hs
    rw [h, hs]
  · rfl

@[simp] theorem stateCell_update (s : Link) (r : Model × Option Change) :
    (s.update r).stateCell = s.stateCell := by
  obtain ⟨m, _ | c⟩ := r
  · rfl
  · show (publish { s with model := m } c).stateCell = s.stateCell
    rw [publish]
    split <;> rfl

@[simp] theorem stateCell_prepare (s : Link) (r : Request) :
    (s.prepare r).stateCell = s.stateCell := by
  cases r with
  | reset => exact stateCell_update _ _
  | send c => rfl
  | refresh => rfl

theorem shows_refuseAll (s : Link) (q : List (Nat × Request)) :
    (s.refuseAll q).state = s.state ∧ (s.refuseAll q).stateCell = s.stateCell ∧
      (s.refuseAll q).model = s.model := by
  induction q generalizing s with
  | nil => exact ⟨rfl, rfl, rfl⟩
  | cons head rest ih => exact ih _

/-- A client announces a state, and handles read that one. -/
def Shows (s : Link) (state : LinkState) : Prop := s.state = state ∧ s.stateCell.value = state

theorem Sound.shows {s : Link} (h : Sound s) : s.Shows s.phase.shown :=
  ⟨h.state, h.cell.trans h.state⟩

theorem Shows.enter {s : Link} {old : LinkState} (h : s.Shows old) (state : LinkState)
    (session : Option Nat) : (s.enter state session).Shows state :=
  ⟨state_enter s state session, stateCell_enter (h.2.trans h.1.symm) state session⟩

theorem Shows.lose {s : Link} {state : LinkState} (h : s.Shows state) (n : Nat) :
    (s.lose n).Shows .connecting := by
  have hr : ({ s with phase := s.pause }.record (.lost n)).Shows state := h
  exact hr.enter .connecting none

theorem Shows.stop {s : Link} {state : LinkState} (h : s.Shows state) : s.stop.Shows .closed := by
  have hp : ({ s with phase := .stopped } : Link).Shows state := h
  have he := hp.enter .closed none
  obtain ⟨hstate, hcell, -⟩ := shows_refuseAll ({ s with phase := .stopped }.enter .closed none)
    ({ s with phase := .stopped }.enter .closed none).queue
  exact ⟨hstate.trans he.1, (congrArg Latest.value hcell).trans he.2⟩

theorem Shows.prepare {s : Link} {state : LinkState} (h : s.Shows state) (r : Request) :
    (s.prepare r).Shows state :=
  ⟨(state_prepare s r).trans h.1, (congrArg Latest.value (stateCell_prepare s r)).trans h.2⟩

theorem Shows.update {s : Link} {state : LinkState} (h : s.Shows state)
    (r : Model × Option Change) : (s.update r).Shows state :=
  ⟨(state_update s r).trans h.1, (congrArg Latest.value (stateCell_update s r)).trans h.2⟩

theorem Shows.opened {s : Link} {state : LinkState} (h : s.Shows state) (a : Attempt) :
    (s.opened a).Shows .isOpen := by
  have hr : Shows { s with
      peers := s.peers ++ [Peer.accept a]
      phase := .serving (s.peers.length + 1) s.watchFrom false
      log := s.log.push ⟨s.now, .opened (s.peers.length + 1)⟩ } state := h
  exact hr.enter .isOpen (some (s.peers.length + 1))

theorem Shows.posted {s : Link} {state : LinkState} (h : s.Shows state) (n : Nat) (p : Peer)
    (cs : List Command) : (s.posted n p cs).Shows state := h

theorem shows_endAttempt {s : Link} (h : s.Shows .connecting) (a : Attempt) :
    (s.endAttempt a).Shows (s.bareAfter (.resolve a)).phase.shown := by
  rw [endAttempt, bareAfter]
  cases a.ending with
  | accepted =>
    show (s.openSession a).Shows _
    have hp := (h.opened a).posted (s.peers.length + 1) (Peer.accept a) s.questions
    rw [openSession_eq, if_pos rfl]
    by_cases hall : (Peer.accept a).accepted s.questions = s.questions
    · simp only [if_pos hall]
      exact hp
    · simp only [if_neg hall]
      exact hp.lose _
  | refused => exact h
  | never => exact h

theorem shows_takeFrame {s : Link} {state : LinkState} (h : s.Shows state) {n : Nat} (hn : 0 < n)
    (text : String) : (s.takeFrame n text).Shows state := by
  rw [takeFrame, onPeer_eq s hn]
  split
  · exact h
  · apply Shows.update
    exact h

theorem shows_watchdog {s : Link} (h : s.Shows .isOpen) {n : Nat} {p : Peer}
    (peer : s.peer? n = some p) :
    (s.watchdog n false).Shows (s.bareAfter (.watch n false)).phase.shown := by
  have hp := h.posted n p [.getStatus]
  rw [watchdog_eq peer, bareAfter, accepted_eq peer]
  by_cases hall : p.accepted [.getStatus] = [.getStatus]
  · simp only [if_pos hall]
    exact hp
  · simp only [if_neg hall]
    exact hp.lose n

theorem shows_serve {s : Link} (h : s.Shows .isOpen) {n id : Nat} {p : Peer} {r : Request}
    (phase : s.phase.shown = .isOpen) (peer : s.peer? n = some p) :
    (s.perform (.serve n id r)).Shows (s.bareAfter (.serve n id r)).phase.shown := by
  let t : Link := { s with queue := s.queue.drop 1 }
  have ht : t.Shows .isOpen := h
  have hp : t.peer? n = some p := peer
  have ha : ∀ outcome,
      (((t.prepare r).posted n p r.commands).answer id outcome).Shows .isOpen :=
    fun _ => (ht.prepare r).posted n p r.commands
  show (t.serve n id r).Shows _
  rw [serve_eq r hp, bareAfter, accepted_eq peer]
  by_cases hall : p.accepted r.commands = r.commands
  · simp only [if_pos hall, phase]
    exact ha _
  · simp only [if_neg hall]
    exact (ha _).lose n

/-- What is announced after a deed is the state of the new phase. -/
theorem shows_perform {s : Link} {d : Deed} (hs : Sound s) (h : Ready s d) :
    (s.perform d).Shows (s.perform d).phase.shown := by
  have hshows := hs.shows
  rw [phase_perform h]
  cases h with
  | attempt phase live due =>
    rw [phase] at hshows
    exact hshows
  | resolve phase live reached =>
    rw [phase] at hshows
    exact shows_endAttempt hshows _
  | read phase live peer next =>
    rw [phase] at hshows
    exact shows_takeFrame hshows (peer?_eq_some peer).1 _
  | lose phase live finished => exact hshows.lose _
  | @watch n watch probed p phase live peer next reached =>
    rw [phase] at hshows
    cases probed with
    | true =>
      have hr : (s.record (.silent n)).Shows .isOpen := hshows
      exact hr.lose n
    | false => exact shows_watchdog hshows peer
  | serve phase live peer next early queue =>
    have hopen : s.phase.shown = .isOpen := by rw [phase]; rfl
    rw [hopen] at hshows
    exact shows_serve hshows hopen peer
  | @decline id r rest offline live queue =>
    have hq : ({ s with queue := s.queue.drop 1 } : Link).Shows s.phase.shown := hshows
    exact hq.prepare r
  | close phase quitting =>
    rw [phase] at hshows
    exact hshows
  | part phase due => exact hshows.stop
  | stop offline quitting => exact hshows.stop

/-- A session that is held after a deed was held before it or has just been opened. -/
theorem session_bareAfter {s : Link} {d : Deed} {n : Nat} (h : Ready s d)
    (hn : (s.bareAfter d).phase.session? = some n) :
    (s.phase.session? = some n ∧ (s.bareAfter d).peers.length = s.peers.length) ∨
      (n = s.peers.length + 1 ∧ (s.bareAfter d).peers.length = n) := by
  cases h with
  | attempt phase live due => simp [bareAfter, beginAttempt, record, bare, Phase.session?] at hn
  | @resolve a due phase live reached =>
    rw [bareAfter] at hn ⊢
    split at hn
    · rename_i hacc
      rw [if_pos hacc]
      simp only at hn
      split at hn
      · obtain rfl := Option.some_inj.1 hn
        exact .inr ⟨rfl, by simp⟩
      · cases hn
    · cases hn
  | read phase live peer next =>
    rw [phase]
    exact .inl ⟨hn, by simp [bareAfter, bare]⟩
  | lose phase live finished => cases hn
  | @watch n watch probed p phase live peer next reached =>
    cases probed with
    | true => cases hn
    | false =>
      rw [phase]
      simp only [bareAfter] at hn
      split at hn
      · exact .inl ⟨hn, by simp [bareAfter, bare]⟩
      · cases hn
  | serve phase live peer next early queue =>
    simp only [bareAfter] at hn
    split at hn
    · exact .inl ⟨hn, by simp [bareAfter, bare]⟩
    · cases hn
  | decline offline live queue => exact .inl ⟨hn, rfl⟩
  | close phase quitting =>
    rw [phase]
    exact .inl ⟨hn, rfl⟩
  | part phase due => cases hn
  | stop offline quitting => cases hn

/-- **Clients stay sound**, whatever they do. -/
theorem Sound.perform {s : Link} {d : Deed} (hs : Sound s) (h : Ready s d) :
    Sound (s.perform d) := by
  obtain ⟨hstate, hcell⟩ := shows_perform hs h
  refine ⟨hstate, hcell.trans hstate.symm, fun n hn => ?_⟩
  rw [phase_perform h] at hn
  rw [peers_perform h]
  obtain ⟨hold, hlen⟩ | ⟨hnew, hlen⟩ := session_bareAfter h hn
  · rw [hlen]
    exact hs.session n hold
  · exact ⟨by omega, hlen.symm⟩

end Link
end RaceLink
