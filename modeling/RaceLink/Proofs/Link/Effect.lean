import RaceLink.Link.Turn

/-!
# What the steps of a client change

A client is changed by small steps: one thing is written down, one text is sent, one state is
entered.  This file says of each of them what it changes, so that nothing below has to look into
one again.

* `Link.bare` — the client without all that others see of it.  Steps that only tell something leave
  it as it is (`bare_enter`, `bare_update`, `bare_prepare`).
* `Link.events` — what has happened so far; each step adds a list that is said here
  (`events_enter`, `events_update`, `events_prepare`).
* `deliver_eq` — sending commands, in one formula: which of them a peer accepts and what is left of
  it is decided by `Peer.accepted` and `Peer.spent`, without any loop.
-/

set_option autoImplicit false

namespace RaceLink

/-! ## What a peer accepts -/

namespace Peer

/-- Those of some commands that are accepted when they are sent in order. -/
def accepted (p : Peer) (cs : List Command) : List Command :=
  if p.gone then []
  else
    match p.sends with
    | none => cs
    | some k => cs.take k

/-- The peer after some commands were sent, up to the first one that was not accepted. -/
def spent (p : Peer) (cs : List Command) : Peer :=
  if p.gone then p else { p with sends := p.sends.map (· - cs.length) }

/-- Why a peer accepts no more. -/
def excuse (p : Peer) : String :=
  if p.sends = some 0 then "scripted send failure" else "mock server gone"

@[simp] theorem accepted_nil (p : Peer) : p.accepted [] = [] := by
  rw [accepted]
  split
  · rfl
  · split <;> simp

@[simp] theorem spent_nil (p : Peer) : p.spent [] = p := by
  rw [spent]
  split
  · rfl
  · cases p; simp

theorem accepted_prefix (p : Peer) (cs : List Command) : p.accepted cs <+: cs := by
  rw [accepted]
  split
  · exact List.nil_prefix
  · split
    · exact List.prefix_rfl
    · exact List.take_prefix _ _

@[simp] theorem inbox_spent (p : Peer) (cs : List Command) : (p.spent cs).inbox = p.inbox := by
  rw [spent]; split <;> rfl

/-- A peer that refuses a text accepts none and stays as it is. -/
theorem accepted_of_send_error {p : Peer} {reason : String} (h : p.send = .error reason)
    (cs : List Command) : p.accepted cs = [] ∧ p.spent cs = p ∧ p.excuse = reason := by
  obtain ⟨inbox, gone, sends, farewell⟩ := p
  rcases sends with _ | _ | k <;> cases gone <;>
    simp_all [Peer.send, accepted, spent, excuse]

/-- A peer that accepts a text goes on as the peer that is left. -/
theorem accepted_of_send_ok {p q : Peer} (h : p.send = .ok q) (c : Command) (cs : List Command) :
    p.accepted (c :: cs) = c :: q.accepted cs ∧ p.spent (c :: cs) = q.spent cs := by
  obtain ⟨inbox, gone, sends, farewell⟩ := p
  rcases sends with _ | _ | k <;> cases gone <;> simp [Peer.send] at h <;> subst h <;>
    simp [accepted, spent]

/-- After commands of which not all were accepted, the peer accepts nothing more. -/
theorem send_spent {p : Peer} {cs : List Command} (h : p.accepted cs ≠ cs) :
    (p.spent cs).send = .error (p.spent cs).excuse := by
  obtain ⟨inbox, gone, sends, farewell⟩ := p
  cases gone <;> rcases sends with _ | k
  · simp [accepted] at h
  · have hk : k < cs.length :=
      Nat.lt_of_not_le fun hle => h (by simp [accepted, List.take_of_length_le hle])
    have h0 : k - cs.length = 0 := by omega
    simp [spent, Peer.send, excuse, h0]
  · simp [spent, Peer.send, excuse]
  · cases k <;> simp [spent, Peer.send, excuse]

end Peer

namespace Link

/-! ## What others do not see -/

/-- A client without all that others see of it: what it believes, what it has told, and its log. -/
def bare (s : Link) : Link :=
  { s with
    state := .connecting
    model := Model.empty
    hub := { s.hub with ring := Ring.make 0 }
    stateCell := Latest.make .connecting
    modelCell := Latest.make Model.empty
    statusCell := Latest.make none
    log := #[]
    sights := #[] }

@[simp] theorem bare_record (s : Link) (e : Event) : (s.record e).bare = s.bare := rfl

@[simp] theorem bare_publish (s : Link) (c : Change) : (s.publish c).bare = s.bare := by
  rw [publish]
  split <;> rfl

@[simp] theorem bare_enter (s : Link) (state : LinkState) (session : Option Nat) :
    (s.enter state session).bare = s.bare := by
  rw [enter]
  split <;> rfl

@[simp] theorem bare_update (s : Link) (r : Model × Option Change) :
    (s.update r).bare = s.bare := by
  obtain ⟨m, _ | c⟩ := r
  · rfl
  · exact bare_publish _ c

@[simp] theorem bare_prepare (s : Link) (r : Request) : (s.prepare r).bare = s.bare := by
  cases r with
  | reset => exact bare_update _ _
  | send c => rfl
  | refresh => rfl

@[simp] theorem bare_answer (s : Link) (id : Nat) (outcome : Except Fault Unit) :
    (s.answer id outcome).bare = s.bare := rfl

@[simp] theorem bare_refuseAll (s : Link) (q : List (Nat × Request)) :
    (s.refuseAll q).bare = s.bare := by
  induction q generalizing s with
  | nil => rfl
  | cons head rest ih => exact ih _

/-- The wait that follows a failure or loss. -/
def pause (s : Link) : Phase := .waiting (s.now + s.terms.delay)

theorem bare_lose (s : Link) (n : Nat) :
    (s.lose n).bare = { s.bare with phase := s.bare.pause } := by
  rw [lose, bare_enter, bare_record]
  rfl

theorem bare_stop (s : Link) : s.stop.bare = { s.bare with phase := .stopped, queue := [] } := by
  have h : ∀ t : Link, ({ t with queue := [] } : Link).bare = { t.bare with queue := [] } :=
    fun _ => rfl
  rw [stop, h, bare_refuseAll, bare_enter]
  rfl

/-! ## What has happened -/

/-- What has happened so far, the first event first. -/
def events (s : Link) : List Event := s.log.toList.map Entry.event

@[simp] theorem events_record (s : Link) (e : Event) : (s.record e).events = s.events ++ [e] := by
  simp [events, record]

@[simp] theorem events_announce (s : Link) (n : Notice) :
    (s.announce n).events = s.events ++ [.notified n s.model] := by
  simp [events, announce, record]

@[simp] theorem events_publish (s : Link) (c : Change) :
    (s.publish c).events = s.events ++ [.notified (.model c) s.model] := by
  rw [publish]
  split <;> simp [events, announce, record]

@[simp] theorem events_answer (s : Link) (id : Nat) (outcome : Except Fault Unit) :
    (s.answer id outcome).events = s.events ++ [.answered id outcome] :=
  events_record s _

/-- The notices of a changed model. -/
def told (r : Model × Option Change) : List Event :=
  r.2.toList.map fun c => .notified (.model c) r.1

@[simp] theorem events_update (s : Link) (r : Model × Option Change) :
    (s.update r).events = s.events ++ told r := by
  obtain ⟨m, _ | c⟩ := r
  · simp [update, told, events]
  · exact events_publish { s with model := m } c

theorem events_enter {s : Link} {state : LinkState} (h : s.state ≠ state) (session : Option Nat) :
    (s.enter state session).events =
      s.events ++ [.notified (.link state (session.map fun n => ⟨UInt64.ofNat n⟩)) s.model] := by
  rw [enter, if_neg h]
  exact events_announce { s with state := state, stateCell := s.stateCell.set state } _

/-- What is told before a request is served. -/
def prelude (s : Link) : Request → List Event
  | .reset => .cleared :: told s.model.reset
  | _ => []

@[simp] theorem events_prepare (s : Link) (r : Request) :
    (s.prepare r).events = s.events ++ s.prelude r := by
  cases r with
  | reset =>
    show ((s.record .cleared).update s.model.reset).events = _
    simp [prelude]
  | send c => simp [prepare, prelude]
  | refresh => simp [prepare, prelude]

theorem events_refuseAll (s : Link) (q : List (Nat × Request)) :
    (s.refuseAll q).events = s.events ++ q.map fun e => .answered e.1 (.error .shutdown) := by
  induction q generalizing s with
  | nil => simp [refuseAll]
  | cons head rest ih =>
    obtain ⟨id, r⟩ := head
    rw [refuseAll, ih, events_answer, List.append_assoc]
    rfl

/-! ## State and model -/

@[simp] theorem state_enter (s : Link) (state : LinkState) (session : Option Nat) :
    (s.enter state session).state = state := by
  rw [enter]
  split
  · assumption
  · rfl

@[simp] theorem model_enter (s : Link) (state : LinkState) (session : Option Nat) :
    (s.enter state session).model = s.model := by
  rw [enter]
  split <;> rfl

@[simp] theorem state_update (s : Link) (r : Model × Option Change) :
    (s.update r).state = s.state := by
  obtain ⟨m, _ | c⟩ := r
  · rfl
  · show (publish { s with model := m } c).state = s.state
    rw [publish]
    split <;> rfl

@[simp] theorem model_update (s : Link) (r : Model × Option Change) :
    (s.update r).model = r.1 := by
  obtain ⟨m, _ | c⟩ := r
  · rfl
  · show (publish { s with model := m } c).model = m
    rw [publish]
    split <;> rfl

/-- The model once a request has been prepared. -/
def prepared (s : Link) : Request → Model
  | .reset => s.model.reset.1
  | _ => s.model

@[simp] theorem state_prepare (s : Link) (r : Request) : (s.prepare r).state = s.state := by
  cases r with
  | reset => exact state_update _ _
  | send c => rfl
  | refresh => rfl

@[simp] theorem model_prepare (s : Link) (r : Request) : (s.prepare r).model = s.prepared r := by
  cases r with
  | reset => exact model_update _ _
  | send c => rfl
  | refresh => rfl

/-! ## Far sides -/

theorem peer?_eq_some {s : Link} {n : Nat} {p : Peer} (h : s.peer? n = some p) :
    0 < n ∧ s.peers[n - 1]? = some p := by
  rw [peer?] at h
  split at h
  · cases h
  · exact ⟨by omega, h⟩

theorem lt_of_peer? {s : Link} {n : Nat} {p : Peer} (h : s.peer? n = some p) :
    n - 1 < s.peers.length :=
  (List.getElem?_eq_some_iff.1 (peer?_eq_some h).2).1

theorem peer?_setPeer {s : Link} {n : Nat} {p : Peer} (h : s.peer? n = some p) (q : Peer) :
    (s.setPeer n q).peer? n = some q := by
  have hn := (peer?_eq_some h).1
  rw [peer?, if_neg (by omega)]
  exact List.getElem?_set_self (lt_of_peer? h)

theorem setPeer_self {s : Link} {n : Nat} {p : Peer} (h : s.peer? n = some p) :
    s.setPeer n p = s := by
  obtain ⟨hlt, hp⟩ := List.getElem?_eq_some_iff.1 (peer?_eq_some h).2
  rw [setPeer, ← hp, List.set_getElem_self hlt]

theorem setPeer_setPeer (s : Link) (n : Nat) (p q : Peer) :
    (s.setPeer n p).setPeer n q = s.setPeer n q := by
  simp [setPeer]

theorem onPeer_eq (s : Link) {n : Nat} (hn : 0 < n) (f : Peer → Peer) :
    s.onPeer n f = { s with peers := s.peers.modify (n - 1) f } := by
  rw [onPeer, peer?, if_neg (by omega)]
  split
  · rename_i hp
    rw [List.modify_eq_self (List.getElem?_eq_none_iff.1 hp)]
  · rename_i p hp
    obtain ⟨hlt, hp⟩ := List.getElem?_eq_some_iff.1 hp
    rw [setPeer, ← hp]
    congr 1
    apply List.ext_getElem?
    intro i
    by_cases hi : n - 1 = i
    · subst hi
      simp [hlt]
    · simp [hi]

/-- What happens to a far side changes nothing else. -/
theorem onPeer_frame (s : Link) (n : Nat) (f : Peer → Peer) :
    ∃ ps, ps.length = s.peers.length ∧ s.onPeer n f = { s with peers := ps } := by
  rcases Nat.eq_zero_or_pos n with rfl | hn
  · exact ⟨s.peers, rfl, rfl⟩
  · exact ⟨s.peers.modify (n - 1) f, List.length_modify .., onPeer_eq s hn f⟩

theorem peer?_congr {s t : Link} (h : s.peers = t.peers) (n : Nat) : s.peer? n = t.peer? n := by
  rw [peer?, peer?, h]

theorem peer?_modify {s t : Link} {n : Nat} {f : Peer → Peer} (hn : 0 < n)
    (h : t.peers = s.peers.modify (n - 1) f) (k : Nat) :
    t.peer? k = if k = n then (s.peer? k).map f else s.peer? k := by
  rw [peer?, peer?, h]
  by_cases hk : k = 0
  · rw [if_pos hk, if_neg (by omega)]
    exact (if_pos hk).symm
  · rw [if_neg hk, if_neg hk, List.getElem?_modify]
    by_cases he : k = n
    · subst he
      simp
    · have hne : n - 1 ≠ k - 1 := by omega
      rw [if_neg he]
      simp [hne]

theorem peer?_append {s t : Link} {p : Peer} (h : t.peers = s.peers ++ [p]) (k : Nat) :
    t.peer? k = if k = s.peers.length + 1 then some p else s.peer? k := by
  rw [peer?, peer?, h]
  by_cases hk : k = 0
  · rw [if_pos hk, if_pos hk, if_neg (by omega)]
  · rw [if_neg hk, if_neg hk]
    by_cases he : k = s.peers.length + 1
    · subst he
      simp
    · rw [if_neg he]
      rcases Nat.lt_or_ge (k - 1) s.peers.length with hlt | hge
      · exact List.getElem?_append_left hlt
      · rw [List.getElem?_append_right hge, List.getElem?_eq_none hge]
        exact List.getElem?_eq_none (by simp; omega)

/-- What waits to be taken from the far side of a session. -/
def inbox (s : Link) (n : Nat) : List Inbound := ((s.peer? n).map Peer.inbox).getD []

theorem inbox_eq {s : Link} {n : Nat} {p : Peer} (h : s.peer? n = some p) :
    s.inbox n = p.inbox := by
  rw [inbox, h]
  rfl

/-! ## Sending -/

/-- Writes down several events. -/
def recordAll (s : Link) (es : List Event) : Link :=
  { s with log := s.log ++ (es.map (Entry.mk s.now)).toArray }

@[simp] theorem recordAll_nil (s : Link) : s.recordAll [] = s := by simp [recordAll]

theorem recordAll_record (s : Link) (e : Event) (es : List Event) :
    (s.record e).recordAll es = s.recordAll (e :: es) := by
  simp [recordAll, record]

@[simp] theorem events_recordAll (s : Link) (es : List Event) :
    (s.recordAll es).events = s.events ++ es := by
  simp [events, recordAll, Function.comp_def]

/-- The events of commands that were sent. -/
def posts (n : Nat) (cs : List Command) : List Event := cs.map fun c => .sent n c.text

/-- **Sending commands.**  Those that the peer accepts are sent; the answer is its excuse if it did
not accept them all. -/
theorem deliver_eq {n : Nat} (cs : List Command) : ∀ {s : Link} {p : Peer}, s.peer? n = some p →
    s.deliver n cs =
      ((s.setPeer n (p.spent cs)).recordAll (posts n (p.accepted cs)),
        if p.accepted cs = cs then none else some (p.spent cs).excuse) := by
  induction cs with
  | nil =>
    intro s p h
    simp [deliver, posts, setPeer_self h]
  | cons c cs ih =>
    intro s p h
    rw [deliver, deliverOne, h]
    cases hs : p.send with
    | error reason =>
      obtain ⟨ha, hp, he⟩ := Peer.accepted_of_send_error hs (c :: cs)
      simp [hs, ha, hp, he, posts, setPeer_self h]
    | ok q =>
      obtain ⟨ha, hp⟩ := Peer.accepted_of_send_ok hs c cs
      have hq : ((s.setPeer n q).record (.sent n c.text)).peer? n = some q := peer?_setPeer h q
      simp only [hs]
      rw [ih hq, ha, hp]
      -- the far side may as well be replaced before the text is written down
      have hset : ((s.setPeer n q).record (.sent n c.text)).setPeer n (q.spent cs) =
          (s.setPeer n (q.spent cs)).record (.sent n c.text) := by
        rw [← setPeer_setPeer s n q (q.spent cs)]
        rfl
      rw [hset, recordAll_record]
      simp [posts]

end Link
end RaceLink
