import RaceLink.Proofs.Link.Requests
import RaceLink.Proofs.Link.View

/-!
# What is sent on a session

A session opens with the questions of `Command.resync`, if the terms say so.  Then requests are
answered in the order in which they were handed in, and now and then the watchdog asks for a sign of
life.  The first send that fails is the last one on its session.

* `Cause`, `Posting` — why something is sent, and how much of it was accepted.
* `Chapter.posting?`, `Life.postings` — what a chapter sends on a session, and all that was sent on
  it.
* `Traffic` — the order of postings on one session; `Traffic.perform` is the step.
* `Merge` — two lists mixed without changing the order of either.
* `Life.Outbound`, `Life.outbound_shape` — **what is sent on each session**, for all lives.
-/

set_option autoImplicit false

namespace RaceLink

/-- Why something is sent. -/
inductive Cause where
  | opening
  | heartbeat
  | request (id : Nat) (r : Request)
  deriving DecidableEq, Repr

namespace Cause

/-- The commands that are to be sent. -/
def due (t : Terms) : Cause → List Command
  | opening => if t.resync then Command.resync else []
  | heartbeat => [.getStatus]
  | request _ r => r.commands

/-- The request that is answered. -/
def request? : Cause → Option (Nat × Request)
  | request id r => some (id, r)
  | _ => none

end Cause

/-- An occasion on which something is sent, and those of the commands that were accepted. -/
structure Posting where
  cause : Cause
  accepted : List Command
  deriving DecidableEq, Repr

namespace Posting

/-- The texts that were accepted. -/
def texts (p : Posting) : List String := p.accepted.map Command.text

/-- All that was to be sent was accepted. -/
def Whole (t : Terms) (p : Posting) : Prop := p.accepted = p.cause.due t

end Posting

/-- The text that was sent on a session, if an event is about that. -/
def Event.sentOn? (n : Nat) : Event → Option String
  | .sent k text => if k = n then some text else none
  | _ => none

/-- What a chapter sends on a session. -/
def Chapter.posting? (ch : Chapter) (n : Nat) : Option Posting :=
  match ch.deed with
  | .resolve a =>
    if a.ending = .accepted ∧ ch.before.peers.length + 1 = n then
      some ⟨.opening, (Peer.accept a).accepted ch.before.questions⟩
    else none
  | .watch k false => if k = n then some ⟨.heartbeat, ch.before.accepted k [.getStatus]⟩ else none
  | .serve k id r => if k = n then some ⟨.request id r, ch.before.accepted k r.commands⟩ else none
  | _ => none

namespace Life

/-- All that was sent on a session, one posting after the other. -/
def postings (c : Life) (n : Nat) : List Posting := c.chapters.filterMap (·.posting? n)

/-- The texts that were sent on a session. -/
def sentOn (c : Life) (n : Nat) : List String := c.link.events.filterMap (Event.sentOn? n)

end Life

/-! ## The order of postings -/

/-- The order of the postings of one session. -/
structure Traffic (t : Terms) (s : Link) (n : Nat) (ps : List Posting) : Prop where
  terms : s.terms = t
  /-- Nothing is sent before the session is opened. -/
  unopened : n = 0 ∨ s.peers.length < n → ps = []
  /-- The questions come first, and only once. -/
  first : 0 < n → n ≤ s.peers.length →
    ∃ p rest, ps = p :: rest ∧ p.cause = .opening ∧ ∀ q ∈ rest, q.cause ≠ .opening
  /-- As long as the session is held, everything was accepted. -/
  held : s.phase.session? = some n → ∀ p ∈ ps, p.Whole t
  /-- Nothing follows a send that failed. -/
  whole : ∀ p ∈ ps.dropLast, p.Whole t
  /-- What is sent first is accepted first. -/
  accepted : ∀ p ∈ ps, p.accepted <+: p.cause.due t

namespace Traffic

variable {t : Terms} {s s' : Link} {n : Nat} {ps : List Posting}

/-- Nothing is sent. -/
theorem quiet (h : Traffic t s n ps) (terms : s'.terms = s.terms)
    (sessions : s'.peers.length = s.peers.length ∨
      (s'.peers.length = s.peers.length + 1 ∧ n ≠ s.peers.length + 1))
    (held : s'.phase.session? = some n → s.phase.session? = some n) : Traffic t s' n ps := by
  refine ⟨terms.trans h.terms, fun hn => h.unopened ?_, fun hpos hle => h.first hpos ?_,
    fun hheld => h.held (held hheld), h.whole, h.accepted⟩
  · omega
  · omega

/-- A session is opened. -/
theorem openingPosting {p : Posting} (h : Traffic t s n ps) (terms : s'.terms = s.terms)
    (hn : n = s.peers.length + 1) (sessions : s'.peers.length = s.peers.length + 1)
    (hcause : p.cause = .opening) (haccepted : p.accepted <+: p.cause.due t)
    (held : s'.phase.session? = some n → p.Whole t) : Traffic t s' n (ps ++ [p]) := by
  have hnil : ps = [] := h.unopened (.inr (by omega))
  subst hnil
  refine ⟨terms.trans h.terms, fun hbefore => ?_, fun _ _ => ⟨p, [], rfl, hcause, ?_⟩,
    fun hheld q hq => ?_, fun q hq => ?_, fun q hq => ?_⟩
  · rw [sessions] at hbefore
    omega
  · exact fun q hq => absurd hq List.not_mem_nil
  · rw [List.mem_singleton.1 hq]
    exact held hheld
  · cases hq
  · rw [List.mem_singleton.1 hq]
    exact haccepted

/-- Something is sent on the session that is held. -/
theorem push {p : Posting} (h : Traffic t s n ps) (hs : s.Sound) (terms : s'.terms = s.terms)
    (hheld : s.phase.session? = some n) (sessions : s'.peers.length = s.peers.length)
    (hcause : p.cause ≠ .opening) (haccepted : p.accepted <+: p.cause.due t)
    (held : s'.phase.session? = some n → p.Whole t) : Traffic t s' n (ps ++ [p]) := by
  obtain ⟨hpos, hlast⟩ := hs.session n hheld
  obtain ⟨first, rest, rfl, hfirst, hrest⟩ := h.first hpos (by omega)
  refine ⟨terms.trans h.terms, fun hbefore => ?_, fun _ _ => ⟨first, rest ++ [p], rfl, hfirst, ?_⟩,
    fun hheld' q hq => ?_, fun q hq => ?_, fun q hq => ?_⟩
  · rw [sessions] at hbefore
    omega
  · intro q hq
    rcases List.mem_append.1 hq with hold | hnew
    · exact hrest q hold
    · rw [List.mem_singleton.1 hnew]
      exact hcause
  · rcases List.mem_append.1 hq with hold | hnew
    · exact h.held hheld q hold
    · rw [List.mem_singleton.1 hnew]
      exact held hheld'
  · rw [List.dropLast_concat] at hq
    exact h.held hheld q hq
  · rcases List.mem_append.1 hq with hold | hnew
    · exact h.accepted q hold
    · rw [List.mem_singleton.1 hnew]
      exact haccepted

end Traffic

namespace Link

theorem accepted_prefix (s : Link) (n : Nat) (cs : List Command) : s.accepted n cs <+: cs := by
  rw [accepted]
  split
  · exact List.nil_prefix
  · exact Peer.accepted_prefix _ _

end Link

namespace Traffic

variable {t : Terms} {s : Link} {n : Nat} {ps : List Posting}

/-- Nothing is sent, and no session is opened. -/
theorem idle {d : Deed} (h : Traffic t s n ps) (hd : s.Ready d)
    (sessions : (s.bareAfter d).peers.length = s.peers.length) :
    Traffic t (s.perform d) n (ps ++ Option.toList none) := by
  rw [Option.toList_none, List.append_nil]
  have hpeers := congrArg List.length (Link.peers_perform hd)
  refine h.quiet (Link.terms_perform hd) (.inl (hpeers.trans sessions)) fun hn => ?_
  rw [Link.phase_perform hd] at hn
  obtain ⟨hold, -⟩ | ⟨hnew, hlen⟩ := Link.session_bareAfter hd hn
  · exact hold
  · omega

/-- Something is sent on the session that is held, which is given up if not all is accepted. -/
theorem send {d : Deed} {k : Nat} (h : Traffic t s n ps) (cause : Cause) (hs : s.Sound)
    (hd : s.Ready d) (held : s.phase.session? = some k)
    (sessions : (s.bareAfter d).peers.length = s.peers.length) (hcause : cause ≠ .opening)
    (lost : s.accepted k (cause.due t) ≠ cause.due t → (s.bareAfter d).phase.session? = none) :
    Traffic t (s.perform d) n
      (ps ++
        (if k = n then some (Posting.mk cause (s.accepted k (cause.due t))) else none).toList) := by
  split
  · rename_i hk
    subst hk
    have hpeers := congrArg List.length (Link.peers_perform hd)
    refine h.push hs (Link.terms_perform hd) held (hpeers.trans sessions) hcause
      (Link.accepted_prefix s k _) fun hheld => ?_
    rw [Link.phase_perform hd] at hheld
    by_contra hcut
    rw [lost hcut] at hheld
    cases hheld
  · exact h.idle hd sessions

/-- Every deed sends what it may send, and on the session on which it may. -/
theorem perform {d : Deed} (h : Traffic t s n ps) (hs : s.Sound) (hd : s.Ready d) :
    Traffic t (s.perform d) n (ps ++ (Chapter.posting? ⟨s, d⟩ n).toList) := by
  have hready := hd
  cases hd with
  | @resolve a due phase live reached =>
    by_cases hacc : a.ending = .accepted
    · have hlen : (s.perform (.resolve a)).peers.length = s.peers.length + 1 := by
        rw [Link.peers_perform hready, Link.bareAfter, if_pos hacc]
        exact List.length_append
      by_cases hn : s.peers.length + 1 = n
      · have hposting : Chapter.posting? ⟨s, .resolve a⟩ n =
            some ⟨.opening, (Peer.accept a).accepted s.questions⟩ := if_pos ⟨hacc, hn⟩
        have hquestions : s.questions = Cause.due t .opening := by
          rw [← h.terms]
          rfl
        rw [hposting]
        refine h.openingPosting (Link.terms_perform hready) hn.symm hlen rfl ?_ fun hheld => ?_
        · show (Peer.accept a).accepted s.questions <+: Cause.due t .opening
          rw [← hquestions]
          exact Peer.accepted_prefix _ _
        · rw [Link.phase_perform hready, Link.bareAfter, if_pos hacc] at hheld
          dsimp only at hheld
          split at hheld
          · rename_i hall
            exact hall.trans hquestions
          · cases hheld
      · have hposting : Chapter.posting? ⟨s, .resolve a⟩ n = none := if_neg fun hc => hn hc.2
        rw [hposting, Option.toList_none, List.append_nil]
        refine h.quiet (Link.terms_perform hready) (.inr ⟨hlen, Ne.symm hn⟩) fun hheld => ?_
        rw [Link.phase_perform hready] at hheld
        obtain ⟨hold, -⟩ | ⟨hnew, -⟩ := Link.session_bareAfter hready hheld
        · exact hold
        · exact absurd hnew.symm hn
    · have hposting : Chapter.posting? ⟨s, .resolve a⟩ n = none := if_neg fun hc => hacc hc.1
      rw [hposting]
      refine h.idle hready ?_
      rw [Link.bareAfter, if_neg hacc]
      rfl
  | @watch k watch probed p phase live peer next reached =>
    cases probed with
    | true => exact h.idle hready rfl
    | false =>
      refine h.send .heartbeat hs hready (by rw [phase]; rfl)
        (List.length_modify ..) Cause.noConfusion fun hcut => ?_
      have hcut : s.accepted k [.getStatus] ≠ [.getStatus] := hcut
      show (ite _ _ _ : Phase).session? = none
      rw [if_neg hcut]
      rfl
  | @serve k id watch probed p r rest phase live peer next early queue =>
    refine h.send (.request id r) hs hready (by rw [phase]; rfl)
      (List.length_modify ..) Cause.noConfusion fun hcut => ?_
    have hcut : s.accepted k r.commands ≠ r.commands := hcut
    show (ite _ _ _ : Phase).session? = none
    rw [if_neg hcut]
    rfl
  | read phase live peer next => exact h.idle hready (List.length_modify ..)
  | attempt phase live due => exact h.idle hready rfl
  | lose phase live finished => exact h.idle hready rfl
  | decline offline live queue => exact h.idle hready rfl
  | close phase quitting => exact h.idle hready rfl
  | part phase due => exact h.idle hready rfl
  | stop offline quitting => exact h.idle hready rfl

theorem meanwhile {s' : Link} (h : Traffic t s n ps) (hm : Life.Meanwhile s s') :
    Traffic t s' n ps :=
  h.quiet hm.terms (.inl hm.sessions) fun hn => hm.phase ▸ hn

end Traffic

/-! ## Texts -/

/-- The texts of postings that answer requests. -/
def answers (ps : List Posting) : List String :=
  ps.flatMap fun p => if p.cause.request?.isSome then p.texts else []

/-- The texts of heartbeats. -/
def beats (ps : List Posting) : List String :=
  ps.flatMap fun p => if p.cause = .heartbeat then p.texts else []

/-- A list mixed from two others without changing the order of either. -/
inductive Merge {α : Type} : List α → List α → List α → Prop
  | nil : Merge [] [] []
  | left {a : α} {as bs cs : List α} : Merge as bs cs → Merge (a :: as) bs (a :: cs)
  | right {b : α} {as bs cs : List α} : Merge as bs cs → Merge as (b :: bs) (b :: cs)

namespace Merge

variable {α : Type} {as bs cs : List α}

theorem append_left (h : Merge as bs cs) (xs : List α) : Merge (xs ++ as) bs (xs ++ cs) := by
  induction xs with
  | nil => exact h
  | cons x xs ih => exact ih.left

theorem append_right (h : Merge as bs cs) (xs : List α) : Merge as (xs ++ bs) (xs ++ cs) := by
  induction xs with
  | nil => exact h
  | cons x xs ih => exact ih.right

end Merge

/-- After the opening, answers and heartbeats are all that is sent. -/
theorem merge_texts {ps : List Posting} (h : ∀ p ∈ ps, p.cause ≠ .opening) :
    Merge (answers ps) (beats ps) (ps.flatMap Posting.texts) := by
  induction ps with
  | nil => exact .nil
  | cons p ps ih =>
    have hrest := ih fun q hq => h q (List.mem_cons_of_mem p hq)
    rw [answers, beats, List.flatMap_cons, List.flatMap_cons, List.flatMap_cons]
    cases hp : p.cause with
    | opening => exact absurd hp (h p List.mem_cons_self)
    | heartbeat => exact hrest.append_right p.texts
    | request id r => exact hrest.append_left p.texts

/-- Each heartbeat that is accepted is one text. -/
theorem beats_eq {t : Terms} {ps : List Posting} (h : ∀ p ∈ ps, p.accepted <+: p.cause.due t) :
    beats ps = List.replicate
      (ps.countP fun p => p.cause = .heartbeat ∧ p.accepted = [.getStatus])
      Command.getStatus.text := by
  induction ps with
  | nil => rfl
  | cons p ps ih =>
    have hrest := ih fun q hq => h q (List.mem_cons_of_mem p hq)
    have hp := h p List.mem_cons_self
    rw [beats] at hrest
    rw [beats, List.flatMap_cons, hrest, List.countP_cons]
    by_cases hcause : p.cause = .heartbeat
    · rw [if_pos hcause]
      rw [hcause] at hp
      rcases List.prefix_cons_iff.1 hp with hnil | ⟨rest, hcons, hrest⟩
      · simp [Posting.texts, hnil, hcause]
      · rw [List.prefix_nil.1 hrest] at hcons
        simp [Posting.texts, hcons, hcause, List.replicate_succ]
    · simp [hcause]

theorem sentOn_posts (n k : Nat) (cs : List Command) :
    (Link.posts k cs).filterMap (Event.sentOn? n) = if k = n then cs.map Command.text else [] := by
  rw [Link.posts, List.filterMap_map]
  split
  · rename_i hk
    rw [← List.filterMap_eq_map]
    congr 1
    funext c
    exact if_pos hk
  · rename_i hk
    rw [List.filterMap_eq_nil_iff]
    exact fun c _ => if_neg hk

/-- What a chapter sends on a session can be read off its story. -/
theorem sentOn_events (ch : Chapter) (n : Nat) :
    ch.events.filterMap (Event.sentOn? n) = (ch.posting? n).toList.flatMap Posting.texts := by
  obtain ⟨s, d⟩ := ch
  have hpart : ∀ e : Event, e.isOuter = false → e.sentOn? n = none := by
    intro e he
    cases e <;> first | rfl | cases he
  have hif : ∀ (p : Prop) [Decidable p] (cause : Cause) (cs : List Command),
      (if p then some (Posting.mk cause cs) else none).toList.flatMap Posting.texts =
        if p then cs.map Command.text else [] := by
    intro p _ cause cs
    split
    · exact List.append_nil _
    · rfl
  rw [Chapter.events, Link.filterMap_outer hpart]
  cases d with
  | resolve a =>
    have hposting := hif (a.ending = .accepted ∧ s.peers.length + 1 = n) .opening
      ((Peer.accept a).accepted s.questions)
    refine Eq.trans ?_ hposting.symm
    rw [Link.outerStory]
    by_cases hacc : a.ending = .accepted
    · simp only [hacc, true_and, if_true]
      exact sentOn_posts n _ _
    · simp only [hacc, false_and, if_false, List.filterMap_nil]
  | watch k probed =>
    cases probed with
    | true => rfl
    | false => exact (sentOn_posts n k _).trans (hif (k = n) .heartbeat _).symm
  | serve k id r =>
    rw [Link.outerStory, List.filterMap_append, sentOn_posts]
    exact (List.append_nil _).trans (hif (k = n) (.request id r) _).symm
  | stop =>
    rw [Link.outerStory, List.filterMap_map]
    exact List.filterMap_eq_nil_iff.2 fun _ _ => rfl
  | _ => rfl

/-- Nothing is sent on a session that was given up. -/
theorem not_sent_of_fitting {es : List Event} {v : View} {n : Nat} (hf : v.Fitting es)
    (hopened : n ≤ v.opened) (hheld : v.held ≠ some n) (text : String) : .sent n text ∉ es := by
  induction es generalizing v with
  | nil => exact List.not_mem_nil
  | cons e es ih =>
    have hne : .sent n text ≠ e := by
      rintro rfl
      exact hheld hf.1.1
    have hrest : .sent n text ∉ es := by
      refine ih hf.2 ?_ ?_
      · cases e with
        | opened k => exact Nat.le_succ_of_le hopened
        | notified notice m =>
          cases notice with
          | link state id => cases state <;> exact hopened
          | model c => exact hopened
        | _ => exact hopened
      · cases e with
        | opened k =>
          -- the session that opens is a new one
          obtain ⟨-, -, rfl⟩ := hf.1
          intro hk
          have hk : v.opened + 1 = n := Option.some_inj.1 hk
          omega
        | lost k => exact fun hk => by cases hk
        | notified notice m =>
          cases notice with
          | link state id =>
            cases state with
            | closed => exact fun hk => by cases hk
            | _ => exact hheld
          | model c => exact hheld
        | _ => exact hheld
    exact fun hmem => (List.mem_cons.1 hmem).elim hne hrest

/-! ## The law -/

/-- The request that a chapter takes. -/
def Chapter.taken? (ch : Chapter) : Option (Nat × Request) :=
  match ch.deed with
  | .serve _ id r => some (id, r)
  | .decline id r => some (id, r)
  | _ => none

/-- The request that a posting answers. -/
def Posting.request? (p : Posting) : Option (Nat × Request) := p.cause.request?

namespace Life

variable {terms : Terms} {script : List Attempt} {hub : Hub}

/-- The requests that were taken while a session was held. -/
def takenDuring (c : Life) (n : Nat) : List (Nat × Request) :=
  (c.chapters.filter fun ch => ch.before.phase.session? = some n).filterMap Chapter.taken?

/-- What is sent on a session. -/
structure Outbound (t : Terms) (c : Life) (n : Nat) : Prop where
  /-- The texts that were sent on the session are those of its postings: nothing else is sent. -/
  texts : c.sentOn n = (c.postings n).flatMap Posting.texts
  /-- Nothing is sent on a session that was not opened. -/
  unopened : n = 0 ∨ c.link.peers.length < n → c.postings n = []
  /-- The questions come first, and nothing comes after them if they were not all accepted.  Then
  there are answers and heartbeats. -/
  shape : 0 < n → n ≤ c.link.peers.length → ∃ first rest, c.postings n = first :: rest ∧
    first.cause = .opening ∧ (¬ first.Whole t → rest = []) ∧
    Merge (answers rest) (beats rest) (rest.flatMap Posting.texts) ∧
    beats rest = List.replicate
      (rest.countP fun p => p.cause = .heartbeat ∧ p.accepted = [.getStatus]) Command.getStatus.text
  /-- The requests that are answered are those that were taken while the session was held. -/
  answered : (c.postings n).filterMap Posting.request? = c.takenDuring n
  /-- They are answered in the order in which they were handed in. -/
  ordered : (c.takenDuring n).Sublist (numbered c.asked)
  /-- What is to be sent first is accepted first. -/
  accepted : ∀ p ∈ c.postings n, p.accepted <+: p.cause.due t
  /-- Only in the last posting something may not have been accepted. -/
  whole : ∀ p ∈ (c.postings n).dropLast, p.Whole t
  /-- The session is given up as soon as something is not accepted. -/
  lost : ∀ ch ∈ c.chapters, ∀ p, ch.posting? n = some p → ¬ p.Whole t →
    .lost n ∈ ch.events ∧ ch.after.phase.session? = none
  /-- After that nothing is sent on it. -/
  silent : ∀ pre post, c.link.events = pre ++ .lost n :: post → ∀ text, .sent n text ∉ post
  /-- No request is answered on two sessions. -/
  once : ∀ k id r r', (id, r) ∈ c.takenDuring n → (id, r') ∈ c.takenDuring k → k = n

theorem traffic (ms : List Move) (n : Nat) :
    Traffic terms (of terms script hub ms).link n ((of terms script hub ms).postings n) := by
  refine (invariant (P := fun c => c.link.Sound ∧ Traffic terms c.link n (c.postings n))
    ⟨Link.sound_start terms script hub, rfl, fun _ => rfl, fun hpos hle => ?_, fun _ p hp => ?_,
      fun p hp => ?_, fun p hp => ?_⟩ ?_ ms).2
  · exact absurd (Nat.lt_of_lt_of_le hpos hle) (Nat.lt_irrefl 0)
  · cases hp
  · cases hp
  · cases hp
  · intro c m hc
    obtain ⟨hs, h⟩ := hc
    obtain ⟨d, hd, he⟩ | ⟨hm, hch⟩ := deed_or_meanwhile c m
    · rw [he]
      refine ⟨hs.perform hd, ?_⟩
      have hpostings : (c.turned d).postings n =
          c.postings n ++ (Chapter.posting? ⟨c.link, d⟩ n).toList := by
        rw [postings, turned, List.filterMap_append]
        congr 1
      rw [hpostings]
      exact h.perform hs hd
    · rw [postings, hch]
      exact ⟨hm.sound hs, h.meanwhile hm⟩

theorem texts_postings (ms : List Move) (n : Nat) : (of terms script hub ms).sentOn n =
    ((of terms script hub ms).postings n).flatMap Posting.texts := by
  rw [sentOn, (kept ms).picked_chapters (fun _ => rfl) fun ch => sentOn_events ch n, postings,
    List.filterMap_eq_flatMap_toList, List.flatMap_assoc]

theorem taken_eq {ch : Chapter} (hd : ch.before.Ready ch.deed) (n : Nat) :
    (ch.posting? n).bind Posting.request? =
      if ch.before.phase.session? = some n then ch.taken? else none := by
  obtain ⟨s, d⟩ := ch
  cases hd with
  | @resolve a due phase live reached =>
    rw [Chapter.taken?, ite_self]
    show Option.bind (ite _ _ _) _ = _
    split <;> rfl
  | @watch k watch probed p phase live peer next reached =>
    rw [Chapter.taken?, ite_self]
    cases probed with
    | true => rfl
    | false =>
      show Option.bind (ite _ _ _) _ = _
      split <;> rfl
  | @serve k id watch probed p r rest phase live peer next early queue =>
    have hsession : s.phase.session? = some k := congrArg Phase.session? phase
    show Option.bind (ite _ _ _) _ = ite (s.phase.session? = some n) _ _
    rw [hsession]
    by_cases hk : k = n
    · rw [if_pos hk, if_pos (congrArg some hk)]
      rfl
    · rw [if_neg hk, if_neg fun hc => hk (Option.some_inj.1 hc)]
      rfl
  | decline offline live queue =>
    have hnone : s.phase.session? = none := Phase.session?_of_connecting offline
    show _ = ite (s.phase.session? = some n) _ _
    rw [hnone, if_neg fun hc => by cases hc]
    rfl
  | _ =>
    rw [Chapter.taken?, ite_self]
    rfl

theorem filterMap_sublist_flatMap {α β : Type} {f : α → Option β} {g : α → List β}
    (h : ∀ a, (f a).toList.Sublist (g a)) (l : List α) :
    (l.filterMap f).Sublist (l.flatMap g) := by
  induction l with
  | nil => exact List.Sublist.slnil
  | cons a l ih =>
    rw [List.filterMap_eq_flatMap_toList] at ih ⊢
    exact (h a).append ih

theorem taken_sublist (ch : Chapter) : ch.taken?.toList.Sublist ch.settled := by
  rw [Chapter.taken?, Chapter.settled]
  cases ch.deed with
  | stop => exact List.nil_sublist _
  | _ => exact List.Sublist.refl _

theorem mem_takenDuring {c : Life} {n id : Nat} {r : Request} (h : (id, r) ∈ c.takenDuring n) :
    ∃ ch ∈ c.chapters, ch.before.phase.session? = some n ∧ (id, r) ∈ ch.settled := by
  obtain ⟨ch, hmem, htaken⟩ := List.mem_filterMap.1 h
  obtain ⟨hch, hheld⟩ := List.mem_filter.1 hmem
  refine ⟨ch, hch, of_decide_eq_true hheld, (taken_sublist ch).subset ?_⟩
  rw [htaken]
  exact List.mem_singleton_self _

/-- A chapter in which something is not accepted ends with the loss of the session. -/
theorem lost_of_cut {ch : Chapter} {n : Nat} {p : Posting} (hd : ch.before.Ready ch.deed)
    (hp : ch.posting? n = some p) (hcut : ¬ p.Whole ch.before.terms) :
    .lost n ∈ ch.events ∧ ch.after.phase.session? = none := by
  obtain ⟨s, d⟩ := ch
  have hphase : (s.perform d).phase = (s.bareAfter d).phase := Link.phase_perform hd
  have hloss : ∀ (done : Prop) [Decidable done] (m : Model), ¬ done →
      Event.lost n ∈ Link.fate done n m := by
    intro done _ m hdone
    rw [Link.fate, if_neg hdone]
    exact List.mem_cons_self
  rw [Chapter.after, hphase]
  cases d with
  | resolve a =>
    obtain ⟨⟨hacc, hn⟩, hposting⟩ := Option.ite_none_right_eq_some.1 hp
    obtain rfl := Option.some_inj.1 hposting
    have hcut : ¬ (Peer.accept a).accepted s.questions = s.questions := hcut
    rw [Chapter.events, Link.story, if_pos hacc, Link.opening, Link.bareAfter, if_pos hacc, hn]
    refine ⟨List.mem_append.2 (.inr (hloss _ _ hcut)), ?_⟩
    simp only [if_neg hcut]
    rfl
  | watch k probed =>
    cases probed with
    | true => cases hp
    | false =>
      obtain ⟨rfl, hposting⟩ := Option.ite_none_right_eq_some.1 hp
      obtain rfl := Option.some_inj.1 hposting
      have hcut : ¬ s.accepted k [.getStatus] = [.getStatus] := hcut
      refine ⟨List.mem_append.2 (.inr (hloss _ _ hcut)), ?_⟩
      simp only [Link.bareAfter, if_neg hcut]
      rfl
  | serve k id r =>
    obtain ⟨rfl, hposting⟩ := Option.ite_none_right_eq_some.1 hp
    obtain rfl := Option.some_inj.1 hposting
    have hcut : ¬ s.accepted k r.commands = r.commands := hcut
    refine ⟨List.mem_append.2 (.inr (hloss _ _ hcut)), ?_⟩
    simp only [Link.bareAfter, if_neg hcut]
    rfl
  | _ => cases hp

/-- **What is sent on each session**, at every moment of a life. -/
theorem outbound_shape (ms : List Move) (n : Nat) : (of terms script hub ms).Outbound terms n := by
  have htraffic : Traffic terms (of terms script hub ms).link n _ := traffic ms n
  have hkept : (of terms script hub ms).Kept := kept ms
  have hfit := (log_fits terms script hub ms).1
  exact {
    texts := texts_postings ms n
    unopened := htraffic.unopened
    shape := fun hpos hle => by
      obtain ⟨first, rest, hps, hfirst, hrest⟩ := htraffic.first hpos hle
      have haccepted := htraffic.accepted
      have hwhole := htraffic.whole
      rw [hps] at haccepted hwhole
      refine ⟨first, rest, hps, hfirst, fun hcut => ?_, merge_texts hrest,
        beats_eq fun p hp => haccepted p (List.mem_cons_of_mem first hp)⟩
      cases rest with
      | nil => rfl
      | cons q rest => exact absurd (hwhole first List.mem_cons_self) hcut
    answered := by
      rw [postings, List.filterMap_filterMap, takenDuring, List.filterMap_filter]
      refine List.filterMap_congr fun ch hch => ?_
      simpa using taken_eq (chapter_ready ms ch hch).2 n
    ordered := by
      refine List.Sublist.trans ?_ hkept.settled_sublist
      refine (List.filter_sublist.filterMap _).trans ?_
      exact filterMap_sublist_flatMap taken_sublist _
    accepted := htraffic.accepted
    whole := htraffic.whole
    lost := fun ch hch p hp hcut => by
      have hterms : ch.before.terms = terms :=
        chapter_invariant (P := fun s => s.terms = terms) terms_eq ms ch hch
      refine lost_of_cut (chapter_ready ms ch hch).2 hp ?_
      rw [hterms]
      exact hcut
    silent := fun pre post he text => by
      have hpre := hfit
      rw [he, View.fitting_append, View.fitting_cons] at hpre
      obtain ⟨hpre, hlost, hpost⟩ := hpre
      exact not_sent_of_fitting hpost (View.held_le_opened hpre hlost.1)
        (fun hc => by cases hc) text
    once := fun k id r r' hn hk => by
      obtain ⟨ch, hch, hheld, hid⟩ := mem_takenDuring hn
      obtain ⟨ch', hch', hheld', hid'⟩ := mem_takenDuring hk
      have hnumber : id ∈ numbers ch.settled := List.mem_map_of_mem hid
      have hnumber' : id ∈ numbers ch'.settled := List.mem_map_of_mem hid'
      obtain rfl := hkept.chapter_unique hch hch' hnumber hnumber'
      exact Option.some_inj.1 (hheld'.symm.trans hheld) }

/-- A request that was handed in before the session was opened comes after the questions. -/
example (hub : Hub) :
    ((of ⟨3000, 0, true⟩ [] hub [.submit .refresh, .turn, .turn, .turn]).postings 1).map
      Posting.cause = [.opening, .request 0 .refresh] := rfl

end Life
end RaceLink
