import RaceLink.Proofs.Link.Clock

/-!
# Noise

A text that is no frame, or a frame of a kind that is not known, is noise: it says nothing to a
client.  This file compares a client with one that is spared all noise (`Link.clean`), which means
that no noise waits on any session and that none of it is in the log.

* `Link.clean_perform` — a deed that reads no noise does the same to both.
* `Link.clean_read` — reading noise makes no difference to the client that is spared it.
* `Link.deed?_clean` — both choose the same deed, unless the next one is to read noise.

Noise is still a sign of life.  All of this is about clients without a watchdog (`Link.Calm`).
-/

set_option autoImplicit false

namespace RaceLink

/-! ## Texts that say nothing -/

namespace Frame

/-- Whether a text is no frame. -/
def garbled (raw : String) : Bool :=
  match decode raw with
  | .error _ => true
  | .ok _ => false

/-- Whether a text says nothing to a client: it is no frame, or one of a kind that is not known. -/
def isNoise (raw : String) : Bool :=
  match decode raw with
  | .error _ => true
  | .ok (.unknown _) => true
  | .ok _ => false

end Frame

/-- Whether a far side sends noise. -/
def Inbound.isNoise : Inbound → Bool
  | text t => Frame.isNoise t
  | _ => false

/-- What a far side sends, apart from noise. -/
def Inbound.clean (what : List Inbound) : List Inbound := what.filter fun i => !i.isNoise

theorem Inbound.clean_cons (i : Inbound) (rest : List Inbound) :
    clean (i :: rest) = if i.isNoise then clean rest else i :: clean rest := by
  rw [clean, List.filter_cons, clean]
  cases i.isNoise <;> rfl

/-- Whether an event is about noise. -/
def Event.isNoise : Event → Bool
  | took _ t => Frame.isNoise t
  | malformed _ => true
  | _ => false

/-- Whether a deed is to read noise. -/
def Deed.isNoise : Deed → Bool
  | read _ t => Frame.isNoise t
  | _ => false

/-- What is written down, apart from noise. -/
def Entry.loud (e : Entry) : Bool := !e.event.isNoise

/-! ## Far sides -/

namespace Peer

/-- The far side that sends no noise. -/
def clean (p : Peer) : Peer := { p with inbox := Inbound.clean p.inbox }

theorem clean_does (p : Peer) (what : List Inbound) :
    (p.does what).clean = p.clean.does (Inbound.clean what) := by
  rw [does, does]
  show clean (if p.gone then _ else _) = if p.gone then _ else _
  split
  · rfl
  · simp [clean, Inbound.clean]

theorem does_nil (p : Peer) : p.does [] = p := by
  rw [does]
  split
  · rfl
  · rw [List.append_nil]

theorem send_clean (p : Peer) : p.clean.send = p.send.map clean := by
  obtain ⟨inbox, gone, sends, farewell⟩ := p
  rcases sends with _ | _ | k <;> cases gone <;> rfl

theorem inbox_of_next {p : Peer} {t : String} (h : p.next = .text t) :
    p.inbox = .text t :: p.inbox.drop 1 := by
  obtain ⟨inbox, gone, sends, farewell⟩ := p
  cases inbox with
  | nil => cases gone <;> cases h
  | cons i rest =>
    cases i with
    | text u =>
      cases h
      rfl
    | close => cases h
    | failure reason => cases h

/-- What is found first is found first without noise, if it is none. -/
theorem next_clean {p : Peer} (h : ∀ t, p.next = .text t → Frame.isNoise t = false) :
    p.clean.next = p.next := by
  obtain ⟨inbox, gone, sends, farewell⟩ := p
  cases inbox with
  | nil => rfl
  | cons i rest =>
    have hi : i.isNoise = false := by
      cases i with
      | text t => exact h t rfl
      | close => rfl
      | failure reason => rfl
    rw [clean, Inbound.clean_cons, hi]
    cases i <;> rfl

/-- Of noise that is seen nothing is left. -/
theorem clean_advance_noise {p : Peer} {t : String} (h : p.next = .text t)
    (ht : Frame.isNoise t = true) : p.advance.clean = p.clean := by
  have hrest : Inbound.clean p.inbox = Inbound.clean (p.inbox.drop 1) := by
    rw [inbox_of_next h, Inbound.clean_cons, Inbound.isNoise, ht]
    rfl
  rw [clean, clean, hrest]
  rfl

theorem clean_advance {p : Peer} {t : String} (h : p.next = .text t)
    (ht : Frame.isNoise t = false) : p.advance.clean = p.clean.advance := by
  have hrest : (Inbound.clean p.inbox).drop 1 = Inbound.clean (p.inbox.drop 1) := by
    rw [inbox_of_next h, Inbound.clean_cons, Inbound.isNoise, ht]
    rfl
  rw [advance, clean, clean, advance, hrest]

end Peer

namespace Link

/-! ## The client that is spared all noise -/

/-- A client that is spared all noise. -/
def clean (s : Link) : Link :=
  { s with peers := s.peers.map Peer.clean, log := s.log.filter Entry.loud }

theorem clean_record (s : Link) {e : Event} (h : e.isNoise = false) :
    (s.record e).clean = s.clean.record e := by
  have hloud : Entry.loud ⟨s.now, e⟩ = true := by rw [Entry.loud, h]; rfl
  simp [clean, record, hloud]

theorem clean_record_noise (s : Link) {e : Event} (h : e.isNoise = true) :
    (s.record e).clean = s.clean := by
  have hloud : Entry.loud ⟨s.now, e⟩ = false := by rw [Entry.loud, h]; rfl
  simp [clean, record, hloud]

theorem peer?_clean (s : Link) (n : Nat) : s.clean.peer? n = (s.peer? n).map Peer.clean := by
  rw [peer?, peer?]
  split
  · rfl
  · exact List.getElem?_map

theorem length_clean (s : Link) : s.clean.peers.length = s.peers.length := List.length_map ..

theorem clean_setPeer (s : Link) (n : Nat) (p : Peer) :
    (s.setPeer n p).clean = s.clean.setPeer n p.clean := by
  simp [clean, setPeer, List.map_set]

theorem clean_onPeer (s : Link) (n : Nat) {f g : Peer → Peer} (h : ∀ p, (f p).clean = g p.clean) :
    (s.onPeer n f).clean = s.clean.onPeer n g := by
  rw [onPeer, onPeer, peer?_clean]
  cases s.peer? n with
  | none => rfl
  | some p => exact (clean_setPeer s n (f p)).trans (by rw [h]; rfl)

theorem clean_publish (s : Link) (c : Change) : (s.publish c).clean = s.clean.publish c := by
  rw [publish, publish]
  split
  · exact clean_record _ rfl
  · exact clean_record _ rfl

theorem clean_enter (s : Link) (state : LinkState) (session : Option Nat) :
    (s.enter state session).clean = s.clean.enter state session := by
  rw [enter, enter]
  show clean (if s.state = state then _ else _) = if s.state = state then _ else _
  split
  · rfl
  · exact clean_record _ rfl

theorem clean_update (s : Link) (r : Model × Option Change) :
    (s.update r).clean = s.clean.update r := by
  obtain ⟨m, _ | c⟩ := r
  · rfl
  · exact clean_publish { s with model := m } c

theorem clean_answer (s : Link) (id : Nat) (outcome : Except Fault Unit) :
    (s.answer id outcome).clean = s.clean.answer id outcome :=
  clean_record s rfl

theorem clean_prepare (s : Link) (r : Request) : (s.prepare r).clean = s.clean.prepare r := by
  cases r with
  | reset => exact (clean_update _ _).trans (by rw [clean_record s rfl]; rfl)
  | send c => rfl
  | refresh => rfl

theorem clean_lose (s : Link) (n : Nat) : (s.lose n).clean = s.clean.lose n := by
  rw [lose, lose, clean_enter, clean_record _ rfl]
  rfl

theorem clean_refuseAll (s : Link) (q : List (Nat × Request)) :
    (s.refuseAll q).clean = s.clean.refuseAll q := by
  induction q generalizing s with
  | nil => rfl
  | cons e q ih =>
    rw [refuseAll, refuseAll, ih, clean_answer]

theorem clean_stop (s : Link) : s.stop.clean = s.clean.stop := by
  let t : Link := { s with phase := .stopped }.enter .closed none
  let u : Link := { s.clean with phase := .stopped }.enter .closed none
  have hu : t.clean = u := clean_enter { s with phase := .stopped } .closed none
  have hrefused : (t.refuseAll t.queue).clean = u.refuseAll u.queue := by
    rw [clean_refuseAll, ← hu]
    rfl
  show ({ (t.refuseAll t.queue).clean with queue := [] } : Link) = _
  rw [hrefused]
  rfl

/-! ## Sending -/

theorem deliverOne_clean (s : Link) (n : Nat) (c : Command) :
    s.clean.deliverOne n c = ((s.deliverOne n c).1.clean, (s.deliverOne n c).2) := by
  rw [deliverOne, deliverOne, peer?_clean]
  cases s.peer? n with
  | none => rfl
  | some p =>
    cases hp : p.send with
    | error reason => simp [Peer.send_clean, hp, Except.map]
    | ok q =>
      have hsent : ((s.setPeer n q).record (.sent n c.text)).clean =
          (s.clean.setPeer n q.clean).record (.sent n c.text) := by
        rw [clean_record _ rfl, clean_setPeer]
      simp [Peer.send_clean, hp, Except.map, hsent]

theorem deliver_clean (s : Link) (n : Nat) (cs : List Command) :
    s.clean.deliver n cs = ((s.deliver n cs).1.clean, (s.deliver n cs).2) := by
  induction cs generalizing s with
  | nil => rfl
  | cons c cs ih =>
    rw [deliver, deliver, deliverOne_clean]
    obtain ⟨t, _ | reason⟩ := s.deliverOne n c
    · exact ih t
    · rfl

/-! ## Deeds -/

theorem clean_beginClose (s : Link) (n : Nat) : (s.beginClose n).clean = s.clean.beginClose n := by
  have hfarewell : (s.clean.peer? n).map Peer.farewell = (s.peer? n).map Peer.farewell := by
    rw [peer?_clean, Option.map_map]
    rfl
  rw [beginClose, beginClose, hfarewell]
  rfl

theorem clean_opened (s : Link) (a : Attempt) : (s.opened a).clean = s.clean.opened a := by
  have hpeers : ({ s with peers := s.peers ++ [Peer.accept a] }.record
      (.opened (s.peers.length + 1))).clean =
      { s.clean with peers := s.clean.peers ++ [Peer.accept a] }.record
        (.opened (s.peers.length + 1)) := by
    rw [clean_record _ rfl]
    simp [clean, Peer.clean, Peer.accept, Inbound.clean]
  rw [opened, opened, clean_enter, length_clean, ← hpeers]
  rfl

theorem clean_openSession (s : Link) (a : Attempt) :
    (s.openSession a).clean = s.clean.openSession a := by
  have hterms : (s.opened a).clean.terms = (s.opened a).terms := rfl
  rw [openSession_opened, openSession_opened, ← clean_opened, deliver_clean, length_clean, hterms]
  split
  · obtain ⟨t, _ | reason⟩ := (s.opened a).deliver (s.peers.length + 1) Command.resync
    · rfl
    · exact clean_lose t _
  · rfl

theorem clean_endAttempt (s : Link) (a : Attempt) :
    (s.endAttempt a).clean = s.clean.endAttempt a := by
  rw [endAttempt, endAttempt]
  cases a.ending with
  | accepted => exact clean_openSession s a
  | refused => exact clean_record _ rfl
  | never => exact clean_record _ rfl

theorem clean_watchdog (s : Link) (n : Nat) (probed : Bool) :
    (s.watchdog n probed).clean = s.clean.watchdog n probed := by
  cases probed with
  | true =>
    show ((s.record (.silent n)).lose n).clean = (s.clean.record (.silent n)).lose n
    rw [clean_lose, clean_record _ rfl]
  | false =>
    rw [watchdog, watchdog, deliver_clean, if_neg Bool.false_ne_true, if_neg Bool.false_ne_true]
    obtain ⟨t, _ | reason⟩ := s.deliver n [.getStatus]
    · rfl
    · exact clean_lose t n

theorem clean_serve (s : Link) (n id : Nat) (r : Request) :
    (s.serve n id r).clean = s.clean.serve n id r := by
  rw [serve, serve, ← clean_prepare, deliver_clean]
  obtain ⟨t, _ | reason⟩ := (s.prepare r).deliver n r.commands
  · exact clean_answer t id _
  · exact (clean_lose _ n).trans (by rw [clean_answer])

theorem clean_decline (s : Link) (id : Nat) (r : Request) :
    (s.decline id r).clean = s.clean.decline id r := by
  rw [decline, decline, clean_answer, clean_record _ rfl, clean_prepare]

/-- A client that has taken a text and not looked into it yet. -/
def took (s : Link) (n : Nat) (t : String) : Link :=
  { s.onPeer n Peer.advance with phase := .serving n s.watchFrom false }.record (.took n t)

/-- A text is taken, and then looked into. -/
theorem takeFrame_took (s : Link) (n : Nat) (t : String) :
    s.takeFrame n t =
      match Frame.decode t with
      | .error _ => (s.took n t).record (.malformed n)
      | .ok f => (s.took n t).update ((s.took n t).model.apply f) :=
  rfl

theorem clean_took {s : Link} {n : Nat} {p : Peer} {t : String} (peer : s.peer? n = some p)
    (next : p.next = .text t) (ht : Frame.isNoise t = false) :
    (s.took n t).clean = s.clean.took n t := by
  have hadvance : (s.onPeer n Peer.advance).clean = s.clean.onPeer n Peer.advance := by
    rw [onPeer, onPeer, peer?_clean, peer]
    exact (clean_setPeer s n _).trans (by rw [Peer.clean_advance next ht]; rfl)
  rw [took, took, clean_record _ (show (Event.took n t).isNoise = false from ht), ← hadvance]
  rfl

theorem clean_takeFrame {s : Link} {n : Nat} {p : Peer} {t : String} (peer : s.peer? n = some p)
    (next : p.next = .text t) (ht : Frame.isNoise t = false) :
    (s.takeFrame n t).clean = s.clean.takeFrame n t := by
  rw [takeFrame_took, takeFrame_took, ← clean_took peer next ht]
  cases hd : Frame.decode t with
  | error e =>
    rw [Frame.isNoise, hd] at ht
    cases ht
  | ok f => exact clean_update _ _

/-- **A deed that reads no noise** does the same to a client that is spared all noise. -/
theorem clean_perform {s : Link} {d : Deed} (h : Ready s d) (hd : d.isNoise = false) :
    (s.perform d).clean = s.clean.perform d := by
  cases h with
  | attempt phase live due => exact clean_record _ rfl
  | resolve phase live reached => exact clean_endAttempt s _
  | read phase live peer next => exact clean_takeFrame peer next hd
  | lose phase live finished => exact clean_lose s _
  | watch phase live peer next reached => exact clean_watchdog s _ _
  | serve phase live peer next early queue => exact clean_serve { s with queue := _ } _ _ _
  | decline offline live queue => exact clean_decline { s with queue := _ } _ _
  | close phase quitting => exact clean_beginClose s _
  | part phase due => exact clean_stop s
  | stop offline quitting => exact clean_stop s

/-! ## Clients without a watchdog -/

/-- A client that is not watched for silence, and does not try to connect without a pause. -/
structure Calm (s : Link) : Prop where
  sound : s.Sound
  idle : s.terms.idle = 0
  delay : 0 < s.terms.delay
  /-- The watchdog never acts. -/
  phase : ∀ n watch probed, s.phase = .serving n watch probed → watch = none ∧ probed = false

theorem Calm.watchFrom {s : Link} (h : s.Calm) : s.watchFrom = none := if_pos h.idle

/-- Deeds leave a client calm. -/
theorem Calm.perform {s : Link} {d : Deed} (hs : s.Calm) (h : Ready s d) : (s.perform d).Calm := by
  have hterms := terms_perform h
  refine ⟨hs.sound.perform h, by rw [hterms]; exact hs.idle, by rw [hterms]; exact hs.delay, ?_⟩
  intro n watch probed hp
  have hnew : ∀ {k : Nat} {p : Phase}, p = .serving k s.watchFrom false →
      p = .serving n watch probed → watch = none ∧ probed = false := by
    intro k p hk hserving
    rw [hk, hs.watchFrom] at hserving
    cases hserving
    exact ⟨rfl, rfl⟩
  rw [phase_perform h] at hp
  cases h with
  | attempt phase live due => cases hp
  | @resolve a due phase live reached =>
    rw [bareAfter] at hp
    split at hp
    · dsimp only at hp
      split at hp
      · exact hnew rfl hp
      · cases hp
    · cases hp
  | read phase live peer next => exact hnew rfl hp
  | lose phase live finished => cases hp
  | @watch k moment asked p phase live peer next reached =>
    -- the watchdog has no moment at which it would act
    rw [(hs.phase k moment asked phase).1] at reached
    cases reached
  | serve phase live peer next early queue =>
    dsimp only [bareAfter] at hp
    split at hp
    · exact hs.phase n watch probed hp
    · cases hp
  | decline offline live queue => exact hs.phase n watch probed hp
  | close phase quitting => cases hp
  | part phase due => cases hp
  | stop offline quitting => cases hp

/-- **Reading noise** makes no difference to the client that is spared it. -/
theorem clean_read {s : Link} {n : Nat} {t : String} (hs : s.Calm) (h : Ready s (.read n t))
    (ht : Frame.isNoise t = true) : (s.perform (.read n t)).clean = s.clean := by
  cases h with
  | @read _ watch probed p _ phase live peer next =>
    obtain ⟨rfl, rfl⟩ := hs.phase n watch probed phase
    have hadvance : (s.onPeer n Peer.advance).clean = s.clean := by
      rw [onPeer, peer]
      show (s.setPeer n p.advance).clean = s.clean
      rw [clean_setPeer, Peer.clean_advance_noise next ht]
      exact setPeer_self (by rw [peer?_clean, peer]; rfl)
    have htook : (s.took n t).clean = s.clean := by
      rw [took, clean_record_noise _ (show (Event.took n t).isNoise = true from ht), hs.watchFrom,
        ← phase]
      show { (s.onPeer n Peer.advance).clean with phase := s.phase } = s.clean
      rw [hadvance]
      rfl
    show (s.takeFrame n t).clean = s.clean
    rw [takeFrame_took]
    rw [Frame.isNoise] at ht
    split at ht
    · rename_i e he
      rw [he]
      exact (clean_record_noise _ rfl).trans htook
    · rename_i kind hk
      rw [hk]
      exact htook
    · cases ht

/-- A text that waits is read. -/
theorem deedServing?_text {s : Link} {n : Nat} {p : Peer} {t : String} (peer : s.peer? n = some p)
    (next : p.next = .text t) (watch : Option Nat) (probed : Bool) :
    s.deedServing? n watch probed = some (.read n t) := by
  simp only [deedServing?, peer, next]

/-- **The next deed** is the same without noise, unless it is to read some. -/
theorem deed?_clean {s : Link} (h : ∀ d, s.deed? = some d → d.isNoise = false) :
    s.clean.deed? = s.deed? := by
  have hphase : s.clean.phase = s.phase := rfl
  cases hp : s.phase with
  | serving n watch probed =>
    rw [deed?, deed?, hphase, hp]
    show (if s.cancelled then _ else _) = if s.cancelled then _ else _
    split
    · rfl
    · rename_i hc
      have hdeed : s.deed? = s.deedServing? n watch probed := by
        rw [deed?, hp]
        exact if_neg hc
      rw [deedServing?, deedServing?, peer?_clean]
      cases hpeer : s.peer? n with
      | none => rfl
      | some p =>
        have hnext : p.clean.next = p.next := Peer.next_clean fun t ht =>
          h (.read n t) (hdeed.trans (deedServing?_text hpeer ht watch probed))
        simp only [Option.map_some, hnext]
        rfl
  | stopped => rw [deed?, deed?, hphase, hp]
  | _ =>
    rw [deed?, deed?, hphase, hp]
    rfl

end Link
end RaceLink
