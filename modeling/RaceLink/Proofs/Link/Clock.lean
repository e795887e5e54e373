import Mathlib.Data.List.Induction
import RaceLink.Proofs.Link.Settle

/-!
# The clock

A life lets any time pass between any two deeds.  The clock that clients run by is stricter: it only
moves while the client has to wait, and then no further than to the moment at which the client next
acts of itself.  This is what all statements about moments rest on.

* `Link.Allows`, `Life.Orderly` — the moves that such a clock makes possible.  Handles are used only
  as long as there are any.
* `Link.log_perform` — what a deed tells is written down with the moment at which it is done.
* `Link.Timely`, `Life.timely` — **no moment is missed**: the client never finds that a moment at
  which it was to act lies behind it.
* `Life.Orderly.invariant` — how the laws about moments are proved: what deeds keep, and also the
  clock while the client rests, holds throughout.
-/

set_option autoImplicit false

namespace RaceLink

/-- The client is about to stop, or it has stopped. -/
def Phase.parting : Phase → Bool
  | closing _ _ => true
  | stopped => true
  | _ => false

namespace Link

/-! ## Moments in the log -/

/-- A client has gone on at the same moment, and what happened was written down with it. -/
def Stamps (s t : Link) : Prop :=
  t.now = s.now ∧ ∃ es : List Event, t.log.toList = s.log.toList ++ es.map (Entry.mk s.now)

theorem Stamps.refl (s : Link) : s.Stamps s := ⟨rfl, [], (List.append_nil _).symm⟩

theorem Stamps.trans {a b c : Link} (hab : a.Stamps b) (hbc : b.Stamps c) : a.Stamps c := by
  obtain ⟨hnow, es, hlog⟩ := hab
  obtain ⟨hnow', es', hlog'⟩ := hbc
  refine ⟨hnow'.trans hnow, es ++ es', ?_⟩
  rw [hlog', hlog, hnow, List.map_append, List.append_assoc]

theorem stamps_record (s : Link) (e : Event) : s.Stamps (s.record e) :=
  ⟨rfl, [e], by simp [record]⟩

theorem stamps_recordAll (s : Link) (es : List Event) : s.Stamps (s.recordAll es) :=
  ⟨rfl, es, by simp [recordAll]⟩

theorem stamps_publish (s : Link) (c : Change) : s.Stamps (s.publish c) := by
  rw [publish]
  split
  · exact stamps_record s _
  · exact stamps_record s _

theorem stamps_enter (s : Link) (state : LinkState) (session : Option Nat) :
    s.Stamps (s.enter state session) := by
  rw [enter]
  split
  · exact Stamps.refl s
  · exact stamps_record s _

theorem stamps_update (s : Link) (r : Model × Option Change) : s.Stamps (s.update r) := by
  obtain ⟨m, _ | c⟩ := r
  · exact Stamps.refl s
  · exact stamps_publish { s with model := m } c

theorem stamps_prepare (s : Link) (r : Request) : s.Stamps (s.prepare r) := by
  cases r with
  | reset => exact (stamps_record s .cleared).trans (stamps_update _ _)
  | send c => exact Stamps.refl s
  | refresh => exact Stamps.refl s

theorem stamps_refuseAll (s : Link) (q : List (Nat × Request)) : s.Stamps (s.refuseAll q) := by
  induction q generalizing s with
  | nil => exact Stamps.refl s
  | cons e q ih => exact (stamps_record s _).trans (ih _)

theorem stamps_lose (s : Link) (n : Nat) : s.Stamps (s.lose n) := by
  have hrecord : s.Stamps ({ s with phase := s.pause }.record (.lost n)) := stamps_record s _
  exact hrecord.trans (stamps_enter _ _ _)

theorem stamps_stop (s : Link) : s.Stamps s.stop := by
  let t : Link := { s with phase := .stopped }.enter .closed none
  have henter : s.Stamps t := stamps_enter { s with phase := .stopped } _ _
  have hrefuse : t.Stamps { t.refuseAll t.queue with queue := [] } := stamps_refuseAll t t.queue
  exact henter.trans hrefuse

theorem stamps_opened (s : Link) (a : Attempt) : s.Stamps (s.opened a) := by
  let t : Link := { s with
    peers := s.peers ++ [Peer.accept a]
    phase := .serving (s.peers.length + 1) s.watchFrom false
    log := s.log.push ⟨s.now, .opened (s.peers.length + 1)⟩ }
  have hrecord : s.Stamps t := stamps_record s _
  exact hrecord.trans (stamps_enter t _ _)

theorem stamps_posted (s : Link) (n : Nat) (p : Peer) (cs : List Command) :
    s.Stamps (s.posted n p cs) :=
  stamps_recordAll s _

theorem stamps_endAttempt (s : Link) (a : Attempt) : s.Stamps (s.endAttempt a) := by
  rw [endAttempt]
  cases a.ending with
  | accepted =>
    show s.Stamps (s.openSession a)
    have hposted := (stamps_opened s a).trans
      (stamps_posted (s.opened a) (s.peers.length + 1) (Peer.accept a) s.questions)
    rw [openSession_eq]
    split
    · exact hposted
    · exact hposted.trans (stamps_lose _ _)
  | refused => exact stamps_record s _
  | never => exact stamps_record s _

theorem stamps_takeFrame (s : Link) {n : Nat} (hn : 0 < n) (text : String) :
    s.Stamps (s.takeFrame n text) := by
  rw [takeFrame, onPeer_eq s hn]
  have htook : s.Stamps ({ s with
      peers := s.peers.modify (n - 1) Peer.advance
      phase := .serving n s.watchFrom false }.record (.took n text)) := stamps_record s _
  split
  · exact htook.trans (stamps_record _ _)
  · exact htook.trans (stamps_update _ _)

theorem stamps_watchdog {s : Link} {n : Nat} {p : Peer} (peer : s.peer? n = some p)
    (probed : Bool) : s.Stamps (s.watchdog n probed) := by
  cases probed with
  | true => exact (stamps_record s _).trans (stamps_lose _ _)
  | false =>
    have hposted := stamps_posted s n p [.getStatus]
    rw [watchdog_eq peer]
    split
    · exact hposted
    · exact hposted.trans (stamps_lose _ _)

theorem stamps_serve {s : Link} {n id : Nat} {p : Peer} (r : Request) (peer : s.peer? n = some p) :
    s.Stamps (s.serve n id r) := by
  have hposted := (stamps_prepare s r).trans (stamps_posted (s.prepare r) n p r.commands)
  rw [serve_eq r peer]
  split
  · exact hposted.trans (stamps_record _ _)
  · exact (hposted.trans (stamps_record _ _)).trans (stamps_lose _ _)

theorem stamps_perform {s : Link} {d : Deed} (h : Ready s d) : s.Stamps (s.perform d) := by
  cases h with
  | attempt phase live due => exact stamps_record s _
  | resolve phase live reached => exact stamps_endAttempt s _
  | read phase live peer next => exact stamps_takeFrame s (peer?_eq_some peer).1 _
  | lose phase live finished => exact stamps_lose s _
  | watch phase live peer next reached => exact stamps_watchdog peer _
  | @serve n id watch probed p r rest phase live peer next early queue =>
    exact stamps_serve (s := { s with queue := s.queue.drop 1 }) r peer
  | @decline id r rest offline live queue =>
    have hprepare : s.Stamps ({ s with queue := s.queue.drop 1 }.prepare r) :=
      stamps_prepare { s with queue := s.queue.drop 1 } r
    exact (hprepare.trans (stamps_record _ _)).trans (stamps_record _ _)
  | close phase quitting => exact Stamps.refl s
  | part phase due => exact stamps_stop s
  | stop offline quitting => exact stamps_stop s

/-- **What a deed tells is written down with its moment.** -/
theorem log_perform {s : Link} {d : Deed} (hs : Sound s) (h : Ready s d) :
    (s.perform d).log.toList = s.log.toList ++ (s.story d).map (Entry.mk s.now) := by
  obtain ⟨-, es, hlog⟩ := stamps_perform h
  have hevents := events_perform hs h
  have hstory : es = s.story d := by
    rw [events, hlog, List.map_append, List.map_map, events] at hevents
    simpa [Function.comp_def] using List.append_cancel_left hevents
  rw [hlog, hstory]

/-! ## Moments to come -/

/-- The moment at which the client acts of itself does not lie behind it. -/
def Timely (s : Link) : Prop := ∀ t, s.phase.due? = some t → s.now ≤ t

theorem timely_start (terms : Terms) (script : List Attempt) (hub : Hub) :
    (start terms script hub).Timely :=
  fun _ _ => Nat.zero_le _

theorem le_watchFrom (s : Link) {t : Nat} (h : s.watchFrom = some t) : s.now ≤ t := by
  rw [watchFrom] at h
  split at h
  · cases h
  · rw [← Option.some_inj.1 h]
    exact Nat.le_add_right _ _

/-- The moments that a deed sets lie ahead. -/
theorem Timely.perform {s : Link} {d : Deed} (ht : s.Timely) (h : Ready s d) :
    (s.perform d).Timely := by
  intro moment hdue
  rw [now_perform h]
  rw [phase_perform h] at hdue
  have hpause : ∀ {k : Nat}, s.pause.due? = some k → s.now ≤ k := fun hk => by
    rw [← Option.some_inj.1 hk]
    exact Nat.le_add_right _ _
  cases h with
  | attempt phase live due =>
    -- an attempt that ends at all ends after its delay
    have hdue : (ite _ none (some (s.now + _)) : Option Nat) = some moment := hdue
    split at hdue
    · cases hdue
    · rw [← Option.some_inj.1 hdue]
      exact Nat.le_add_right _ _
  | @resolve a due phase live reached =>
    rw [bareAfter] at hdue
    split at hdue
    · dsimp only at hdue
      split at hdue
      · exact le_watchFrom s hdue
      · exact hpause hdue
    · exact hpause hdue
  | read phase live peer next => exact le_watchFrom s hdue
  | lose phase live finished => exact hpause hdue
  | @watch n watch probed p phase live peer next reached =>
    cases probed with
    | true => exact hpause hdue
    | false =>
      simp only [bareAfter] at hdue
      split at hdue
      · exact le_watchFrom s hdue
      · exact hpause hdue
  | serve phase live peer next early queue =>
    simp only [bareAfter] at hdue
    split at hdue
    · exact ht moment hdue
    · exact hpause hdue
  | decline offline live queue => exact ht moment hdue
  | close phase quitting =>
    rw [← Option.some_inj.1 hdue]
    exact Nat.le_add_right _ _
  | part phase due => cases hdue
  | stop offline quitting => cases hdue

/-! ## What the clock makes possible -/

/-- Whether a move is possible.  Time passes only while the client has to wait, and no further than
to the moment at which it acts; handles are used only as long as there are any. -/
def Allows (s : Link) : Move → Prop
  | .pass ms => s.deed? = none ∧ ∀ t, s.phase.due? = some t → s.now + ms ≤ t
  | .submit _ => s.handles ≠ 0
  | .cancel => s.handles ≠ 0
  | .clone => s.handles ≠ 0
  | .release => s.handles ≠ 0
  | _ => True

instance (s : Link) : (m : Move) → Decidable (s.Allows m)
  | .pass ms =>
    inferInstanceAs (Decidable (s.deed? = none ∧ ∀ t, s.phase.due? = some t → s.now + ms ≤ t))
  | .submit _ => inferInstanceAs (Decidable (s.handles ≠ 0))
  | .cancel => inferInstanceAs (Decidable (s.handles ≠ 0))
  | .clone => inferInstanceAs (Decidable (s.handles ≠ 0))
  | .release => inferInstanceAs (Decidable (s.handles ≠ 0))
  | .turn => isTrue trivial
  | .far _ _ => isTrue trivial
  | .vanish _ => isTrue trivial

/-- Nobody can call the client back: it was told to stop, or its last handle is gone. -/
def Forsaken (s : Link) : Prop := s.cancelled = true ∨ s.handles = 0

theorem cancelled_perform {s : Link} {d : Deed} (h : Ready s d) :
    (s.perform d).cancelled = s.cancelled := by
  have hb : (s.perform d).cancelled = (s.bareAfter d).cancelled :=
    (congrArg cancelled (bare_perform h) :)
  rw [hb]
  cases d with
  | resolve a =>
    rw [bareAfter]
    split <;> rfl
  | watch n probed => cases probed <;> rfl
  | _ => rfl

theorem handles_perform {s : Link} {d : Deed} (h : Ready s d) :
    (s.perform d).handles = s.handles := by
  have hb : (s.perform d).handles = (s.bareAfter d).handles :=
    (congrArg handles (bare_perform h) :)
  rw [hb]
  cases d with
  | resolve a =>
    rw [bareAfter]
    split <;> rfl
  | watch n probed => cases probed <;> rfl
  | _ => rfl

theorem forsaken_perform {s : Link} {d : Deed} (h : Ready s d) :
    (s.perform d).Forsaken ↔ s.Forsaken := by
  rw [Forsaken, cancelled_perform h, handles_perform h]
  rfl

/-- As long as a client has to wait, the moment at which it acts has not come. -/
theorem lt_of_waits {s : Link} (h : s.deed? = none) {t : Nat} (hdue : s.phase.due? = some t) :
    s.now < t := by
  refine Nat.lt_of_not_le fun hle => ?_
  cases waits_of_deed? h with
  | stopped phase =>
    rw [phase] at hdue
    cases hdue
  | closing phase early =>
    rw [phase] at hdue
    obtain rfl := Option.some_inj.1 hdue
    exact absurd hle (Nat.not_le_of_lt early)
  | serving phase live peer next early queue handles =>
    rw [phase] at hdue
    obtain rfl : _ = some t := hdue
    exact absurd hle (of_decide_eq_false early)
  | offline offline live queue handles =>
    -- an attempt that is to begin or to end by now would not have to wait
    cases hphase : s.phase with
    | waiting moment =>
      rw [hphase] at hdue
      obtain rfl := Option.some_inj.1 hdue
      simp only [deed?, hphase, live, if_neg Bool.false_ne_true, if_pos hle] at h
      cases h
    | seeking a due =>
      rw [hphase] at hdue
      obtain rfl : due = some t := hdue
      have hreached : s.reached (some t) = true := decide_eq_true hle
      simp only [deed?, hphase, live, if_neg Bool.false_ne_true, if_pos hreached] at h
      cases h
    | _ =>
      rw [hphase] at offline
      cases offline

end Link

namespace Life

/-- Moves each of which is possible once those before it were made. -/
def Orderly : Life → List Move → Prop
  | _, [] => True
  | c, m :: ms => c.link.Allows m ∧ (c.move m).Orderly ms

instance decidableOrderly : (c : Life) → (ms : List Move) → Decidable (c.Orderly ms)
  | _, [] => isTrue trivial
  | c, m :: ms =>
    have : Decidable ((c.move m).Orderly ms) := decidableOrderly (c.move m) ms
    inferInstanceAs (Decidable (_ ∧ _))

theorem orderly_append (c : Life) (ms ns : List Move) :
    c.Orderly (ms ++ ns) ↔ c.Orderly ms ∧ (ms.foldl move c).Orderly ns := by
  induction ms generalizing c with
  | nil => exact (and_iff_right trivial).symm
  | cons m ms ih =>
    show c.link.Allows m ∧ (c.move m).Orderly (ms ++ ns) ↔ _
    rw [ih, ← and_assoc]
    rfl

/-! ## What the clock keeps -/

/-- What does not change as long as a client rests: `Meanwhile`, and besides the log, in which only
a client that has stopped writes down that it refuses a request.  The clock moves only while the
client has to wait. -/
structure Rests (s t : Link) : Prop extends Meanwhile s t where
  attempts : t.attempts = s.attempts
  modelCell : t.modelCell = s.modelCell
  log : t.log = s.log ∨ (s.phase = .stopped ∧
    ∃ id, t.log = s.log.push ⟨s.now, .answered id (.error .shutdown)⟩)
  since : s.now ≤ t.now
  clock : t.now = s.now ∨
    (s.deed? = none ∧ ∀ moment, s.phase.due? = some moment → t.now ≤ moment)
  cancelled : s.cancelled = true → t.cancelled = true
  handles : s.handles = 0 → t.handles = 0

theorem Rests.forsaken {s t : Link} (h : Rests s t) (hs : s.Forsaken) : t.Forsaken :=
  hs.imp h.cancelled h.handles

theorem rests_submit (s : Link) (id : Nat) (r : Request) : Rests s (s.submit id r) := by
  have hm := meanwhile_submit s id r
  by_cases hstop : s.phase = .stopped
  · have he : s.submit id r = s.answer id (.error .shutdown) := if_pos hstop
    rw [he] at hm ⊢
    exact ⟨hm, rfl, rfl, .inr ⟨hstop, id, rfl⟩, Nat.le_refl _, .inl rfl, fun h => h, fun h => h⟩
  · have he : s.submit id r = { s with queue := s.queue ++ [(id, r)] } := if_neg hstop
    rw [he] at hm ⊢
    exact ⟨hm, rfl, rfl, .inl rfl, Nat.le_refl _, .inl rfl, fun h => h, fun h => h⟩

theorem rests_onPeer (s : Link) (n : Nat) (f : Peer → Peer) : Rests s (s.onPeer n f) := by
  obtain ⟨ps, hlen, he⟩ := Link.onPeer_frame s n f
  rw [he]
  exact ⟨⟨rfl, rfl, rfl, rfl, rfl, rfl, hlen, .inl rfl⟩, rfl, rfl, .inl rfl, Nat.le_refl _,
    .inl rfl, fun h => h, fun h => h⟩

/-- A client that is only used otherwise rests. -/
theorem rests_used (s : Link) {cancelled : Bool} {handles : Nat}
    (hcancelled : s.cancelled = true → cancelled = true) (hhandles : s.handles = 0 → handles = 0) :
    Rests s { s with cancelled := cancelled, handles := handles } :=
  ⟨⟨rfl, rfl, rfl, rfl, rfl, rfl, rfl, .inl rfl⟩, rfl, rfl, .inl rfl, Nat.le_refl _, .inl rfl,
    hcancelled, hhandles⟩

/-- A client rests when a move is made that is not a turn of its own. -/
theorem rests_move {c : Life} {m : Move} (h : c.link.Allows m) (hm : m ≠ .turn) :
    Rests c.link (c.move m).link := by
  cases m with
  | turn => exact absurd rfl hm
  | pass ms =>
    obtain ⟨hwait, hdue⟩ := h
    exact ⟨⟨rfl, rfl, rfl, rfl, rfl, rfl, rfl, .inl rfl⟩, rfl, rfl, .inl rfl,
      Nat.le_add_right _ _, .inr ⟨hwait, hdue⟩, fun h => h, fun h => h⟩
  | far n what => exact rests_onPeer _ _ _
  | vanish n => exact rests_onPeer _ _ _
  | submit r => exact rests_submit _ _ _
  | cancel => exact rests_used _ (fun _ => rfl) fun h => h
  | clone => exact rests_used _ (fun h => h) fun hnone => absurd hnone h
  | release => exact rests_used _ (fun h => h) fun hnone => by rw [hnone]

theorem chapters_move {c : Life} {m : Move} (hm : m ≠ .turn) :
    (c.move m).chapters = c.chapters := by
  cases m with
  | turn => exact absurd rfl hm
  | _ => rfl

/-- A move that is possible is a deed that is due, or the client rests. -/
theorem deed_or_rests {c : Life} {m : Move} (h : c.link.Allows m) :
    (∃ d, c.link.Ready d ∧ c.move m = c.turned d) ∨
      (Rests c.link (c.move m).link ∧ (c.move m).chapters = c.chapters) := by
  by_cases hm : m = .turn
  · subst hm
    rw [move]
    split
    · exact .inr ⟨rests_used _ (fun h => h) fun h => h, rfl⟩
    · rename_i d hd
      exact .inl ⟨d, Link.ready_of_deed? hd, rfl⟩
  · exact .inr ⟨rests_move h hm, chapters_move hm⟩

theorem Rests.timely {s t : Link} (h : Rests s t) (hs : s.Timely) : t.Timely := by
  intro moment hdue
  rw [h.phase] at hdue
  obtain hnow | ⟨-, hmoment⟩ := h.clock
  · rw [hnow]
    exact hs moment hdue
  · exact hmoment moment hdue

variable {terms : Terms} {script : List Attempt} {hub : Hub}

theorem orderly_concat {ms : List Move} {m : Move} :
    (start terms script hub).Orderly (ms ++ [m]) ↔
      (start terms script hub).Orderly ms ∧ (of terms script hub ms).link.Allows m := by
  rw [orderly_append]
  exact and_congr_right fun _ => and_iff_left trivial

/-- What every possible move keeps holds as long as moves are possible. -/
theorem Orderly.keeps {P : Life → Prop} {c : Life} {ms : List Move} (h : c.Orderly ms) (hc : P c)
    (hstep : ∀ c m, c.link.Allows m → P c → P (c.move m)) : P (ms.foldl move c) := by
  induction ms generalizing c with
  | nil => exact hc
  | cons m ms ih => exact ih h.2 (hstep c m h.1 hc)

/-- What deeds keep, and also a client that rests, holds throughout an orderly life. -/
theorem Orderly.invariant {P : Life → Prop} {ms : List Move}
    (h : (start terms script hub).Orderly ms) (h0 : P (start terms script hub))
    (hdeed : ∀ c d, c.link.Sound → c.link.Timely → c.link.Ready d → P c → P (c.turned d))
    (hrests : ∀ c c', Rests c.link c'.link → c'.chapters = c.chapters → P c → P c') :
    P (of terms script hub ms) := by
  refine (h.keeps (P := fun c => c.link.Sound ∧ c.link.Timely ∧ P c)
    ⟨Link.sound_start terms script hub, Link.timely_start terms script hub, h0⟩ ?_).2.2
  intro c m hm hc
  obtain ⟨hs, ht, hp⟩ := hc
  obtain ⟨d, hd, he⟩ | ⟨hr, hch⟩ := deed_or_rests hm
  · rw [he]
    exact ⟨hs.perform hd, ht.perform hd, hdeed c d hs ht hd hp⟩
  · exact ⟨hr.sound hs, hr.timely ht, hrests c _ hr hch hp⟩

/-- **No moment is missed.** -/
theorem timely {ms : List Move} (h : (start terms script hub).Orderly ms) :
    (of terms script hub ms).link.Timely :=
  h.invariant (P := fun c => c.link.Timely) (Link.timely_start terms script hub)
    (fun _ _ _ ht hd _ => ht.perform hd) fun _ _ hr _ ht => hr.timely ht

/-- What holds of a client throughout its orderly lives holds before each of its deeds. -/
theorem chapter_orderly {P : Link → Prop}
    (hP : ∀ ms : List Move, (start terms script hub).Orderly ms → P (of terms script hub ms).link)
    {ms : List Move} (h : (start terms script hub).Orderly ms) :
    ∀ ch ∈ (of terms script hub ms).chapters, P ch.before := by
  induction ms using List.reverseRecOn with
  | nil => exact fun ch hch => (List.not_mem_nil hch).elim
  | append_singleton ms m ih =>
    obtain ⟨hms, hm⟩ := orderly_concat.1 h
    rw [of_append]
    obtain ⟨d, -, he⟩ | ⟨-, hch⟩ := deed_or_rests hm
    · rw [he]
      intro ch hmem
      rcases List.mem_append.1 hmem with hold | hnew
      · exact ih hms ch hold
      · rw [List.mem_singleton.1 hnew]
        exact hP ms hms
    · rw [hch]
      exact ih hms

/-- No deed was done too late. -/
theorem chapter_timely {ms : List Move} (h : (start terms script hub).Orderly ms) :
    ∀ ch ∈ (of terms script hub ms).chapters, ch.before.Timely :=
  chapter_orderly (fun _ h => timely h) h

end Life
end RaceLink
