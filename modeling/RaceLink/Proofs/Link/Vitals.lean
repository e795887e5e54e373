import RaceLink.Proofs.Link.Outbound

/-!
# Signs of life

What each deed means for a session and its watchdog.  A frame that is taken is a sign of life,
whatever it holds, and so is the opening of the session itself.

* `Chapter.hears`, `Chapter.beats`, `Chapter.drops` — a chapter brings a sign of life, sends a
  heartbeat, or gives the session up for its silence.
* `Chapter.Cuts` — what else can end a session: the client closes it, its far side is over, or
  something that is to be sent on it is not taken.
* `Chapter.stake?` — the one session that a chapter is about.
* `Chapter.Round`, `Chapter.round` — **what a chapter can mean for a session**: six kinds of
  chapters, with what each does to the phase.
-/

set_option autoImplicit false

namespace RaceLink

/-! ## What a chapter means for a session -/

namespace Event

/-- A session is opened. -/
def isOpening : Event → Bool
  | opened _ => true
  | _ => false

/-- A session is opened, or a frame is taken from it. -/
def isSign : Event → Bool
  | opened _ => true
  | took _ _ => true
  | _ => false

/-- A session is given up because nothing was heard on it. -/
def isSilence : Event → Bool
  | silent _ => true
  | _ => false

/-- Whether an event tells that a session lives or ends. -/
def isVital (n : Nat) : Event → Bool
  | opened k => k == n
  | took k _ => k == n
  | silent k => k == n
  | lost k => k == n
  | _ => false

end Event

namespace Chapter

/-- The events that tell that a session lives or ends. -/
def vitals (ch : Chapter) (n : Nat) : List Event := ch.events.filter (Event.isVital n)

/-- The session is opened. -/
def opens (ch : Chapter) (n : Nat) : Bool := (ch.vitals n).any Event.isOpening

/-- The session is opened, or a frame is taken from it. -/
def hears (ch : Chapter) (n : Nat) : Bool := (ch.vitals n).any Event.isSign

/-- A heartbeat is sent on the session. -/
def beats (ch : Chapter) (n : Nat) : Bool :=
  decide (ch.posting? n = some ⟨.heartbeat, [.getStatus]⟩)

/-- The session is given up for its silence. -/
def drops (ch : Chapter) (n : Nat) : Bool := (ch.vitals n).any Event.isSilence

/-- The session comes to another end than by its silence. -/
inductive Cuts (ch : Chapter) (n : Nat) : Prop
  /-- The client is shut down. -/
  | closed (deed : ch.deed = .close n) (quitting : ch.before.Quitting)
  /-- The far side has ended it. -/
  | ended (deed : ch.deed = .lose n)
      (finished : ∀ p, ch.before.peer? n = some p → p.next = .over)
  /-- Not all of the questions with which it opens are taken. -/
  | opening {a : Attempt} (deed : ch.deed = .resolve a) (number : ch.before.peers.length + 1 = n)
      (refused : (Peer.accept a).accepted ch.before.questions ≠ ch.before.questions)
  /-- A heartbeat is not taken. -/
  | heartbeat (deed : ch.deed = .watch n false)
      (refused : ch.before.accepted n [.getStatus] ≠ [.getStatus])
  /-- Not all that a request sends is taken. -/
  | request {id : Nat} {r : Request} (deed : ch.deed = .serve n id r)
      (refused : ch.before.accepted n r.commands ≠ r.commands)

/-- The session that is at stake in a chapter. -/
def stake? (ch : Chapter) : Option Nat :=
  match ch.deed with
  | .resolve a => if a.ending = .accepted then some (ch.before.peers.length + 1) else none
  | .read n _ => some n
  | .lose n => some n
  | .watch n _ => some n
  | .serve n _ _ => some n
  | .close n => some n
  | _ => none

end Chapter

namespace Link

theorem vitals_posts (k : Nat) (cs : List Command) (n : Nat) :
    (posts k cs).filter (Event.isVital n) = [] :=
  filter_posts _ _ _ false fun _ => rfl

theorem vitals_loss (k n : Nat) (m : Model) :
    (loss k m).filter (Event.isVital n) = if k = n then [.lost k] else [] := by
  by_cases hk : k = n
  · simp [loss, Event.isVital, hk]
  · simp [loss, Event.isVital, hk]

theorem vitals_fate (done : Prop) [Decidable done] (k n : Nat) (m : Model) :
    (fate done k m).filter (Event.isVital n) =
      if done then [] else if k = n then [.lost k] else [] := by
  rw [fate]
  split
  · rfl
  · exact vitals_loss k n m

theorem vitals_opening (s : Link) (a : Attempt) (n : Nat) :
    (s.opening a).filter (Event.isVital n) =
      if s.peers.length + 1 = n then
        .opened n :: if (Peer.accept a).accepted s.questions = s.questions then [] else [.lost n]
      else [] := by
  rw [opening, List.filter_append, List.filter_append, vitals_posts, List.append_nil, vitals_fate]
  by_cases hn : s.peers.length + 1 = n
  · simp [Event.isVital, hn]
  · simp [Event.isVital, hn]

theorem vitals_read (s : Link) (k n : Nat) (text : String) :
    (s.story (.read k text)).filter (Event.isVital n) = if k = n then [.took k text] else [] := by
  rw [story, List.filter_cons, filter_heard _ s k text false rfl fun _ _ => rfl]
  by_cases hk : k = n
  · simp [Event.isVital, hk]
  · simp [Event.isVital, hk]

theorem vitals_serve (s : Link) (k id n : Nat) (r : Request) :
    (s.story (.serve k id r)).filter (Event.isVital n) =
      if s.accepted k r.commands = r.commands then [] else if k = n then [.lost k] else [] := by
  rw [story, List.filter_append, List.filter_append, List.filter_append, vitals_posts,
    filter_prelude _ s r false rfl fun _ _ => rfl, vitals_fate]
  rfl

end Link

namespace Chapter

/-- Nothing is told of a session that is not at stake. -/
theorem vitals_of_stake_ne {ch : Chapter} {n : Nat} (h : ch.stake? ≠ some n) :
    ch.vitals n = [] := by
  obtain ⟨s, d⟩ := ch
  have hne : ∀ {k : Nat}, stake? ⟨s, d⟩ = some k → k ≠ n := fun hk he => h (he ▸ hk)
  rw [vitals, events]
  cases d with
  | attempt => rfl
  | resolve a =>
    rw [Link.story]
    split
    · rename_i hacc
      rw [Link.vitals_opening, if_neg (hne (if_pos hacc))]
    · rfl
  | read k text => rw [Link.vitals_read, if_neg (hne rfl)]
  | lose k => exact (Link.vitals_loss k n _).trans (if_neg (hne rfl))
  | watch k probed =>
    cases probed with
    | true =>
      have hk : (k == n) = false := beq_eq_false_iff_ne.2 (hne rfl)
      rw [Link.story, List.filter_cons, Link.vitals_loss, if_neg (hne rfl)]
      simp [Event.isVital, hk]
    | false =>
      rw [Link.story, List.filter_append, Link.vitals_posts, Link.vitals_fate, if_neg (hne rfl),
        ite_self]
      rfl
  | serve k id r => rw [Link.vitals_serve, if_neg (hne rfl), ite_self]
  | decline id r =>
    rw [Link.story, List.filter_append, Link.filter_prelude _ s r false rfl fun _ _ => rfl]
    rfl
  | close k => rfl
  | stop =>
    rw [Link.story, List.filter_cons, Link.filter_refusals _ s.queue false fun _ => rfl]
    rfl

/-- Nothing is sent on a session that is not at stake. -/
theorem posting?_of_stake_ne {ch : Chapter} {n : Nat} (h : ch.stake? ≠ some n) :
    ch.posting? n = none := by
  obtain ⟨s, d⟩ := ch
  cases d with
  | resolve a =>
    refine if_neg fun hc => h ?_
    rw [← hc.2]
    exact if_pos hc.1
  | watch k probed =>
    cases probed with
    | true => rfl
    | false => exact if_neg fun hk => h (congrArg some hk)
  | serve k id r => exact if_neg fun hk => h (congrArg some hk)
  | _ => rfl

/-- A session that is served is at stake until the next deed, whatever that is. -/
theorem stake_of_serving {ch : Chapter} {n : Nat} {watch : Option Nat} {probed : Bool}
    (h : ch.before.Ready ch.deed) (phase : ch.before.phase = .serving n watch probed) :
    ch.stake? = some n := by
  obtain ⟨s, d⟩ := ch
  have hsession : s.phase.session? = some n := congrArg Phase.session? phase
  have hsame : ∀ {k : Nat} {watch' : Option Nat} {probed' : Bool},
      s.phase = .serving k watch' probed' → some k = some n := fun hk =>
    (congrArg Phase.session? hk).symm.trans hsession
  cases h with
  | attempt hp live due => exact absurd (hp.symm.trans phase) Phase.noConfusion
  | resolve hp live reached => exact absurd (hp.symm.trans phase) Phase.noConfusion
  | read hp live peer next => exact hsame hp
  | lose hp live finished => exact hsame hp
  | watch hp live peer next reached => exact hsame hp
  | serve hp live peer next early queue => exact hsame hp
  | decline offline live queue =>
    exact absurd ((Phase.session?_of_connecting offline).symm.trans hsession) (by simp)
  | close hp quitting => exact hsame hp
  | part hp due => exact absurd (hp.symm.trans phase) Phase.noConfusion
  | stop offline quitting =>
    exact absurd ((Phase.session?_of_connecting offline).symm.trans hsession) (by simp)

/-- A session that is served after a deed was at stake in it. -/
theorem stake_of_serving_after {ch : Chapter} {n : Nat} {watch : Option Nat} {probed : Bool}
    (h : ch.before.Ready ch.deed) (phase : ch.after.phase = .serving n watch probed) :
    ch.stake? = some n := by
  obtain ⟨s, d⟩ := ch
  have hafter : (s.bareAfter d).phase = .serving n watch probed :=
    (Link.phase_perform h).symm.trans phase
  have hsession : (s.bareAfter d).phase.session? = some n := congrArg Phase.session? hafter
  cases h with
  | attempt hp live due => cases hafter
  | @resolve a due hp live reached =>
    rw [Link.bareAfter] at hsession
    split at hsession
    · rename_i hacc
      dsimp only at hsession
      split at hsession
      · exact (if_pos hacc).trans hsession
      · cases hsession
    · cases hsession
  | read hp live peer next => exact hsession
  | lose hp live finished => cases hafter
  | @watch k watch' probed' p hp live peer next reached =>
    cases probed' with
    | true => cases hafter
    | false =>
      simp only [Link.bareAfter] at hsession
      split at hsession
      · exact hsession
      · cases hsession
  | serve hp live peer next early queue =>
    simp only [Link.bareAfter] at hsession
    split at hsession
    · exact (congrArg Phase.session? hp).symm.trans hsession
    · cases hsession
  | decline offline live queue =>
    exact absurd ((Phase.session?_of_connecting offline).symm.trans hsession) (by simp)
  | close hp quitting => cases hafter
  | part hp due => cases hafter
  | stop offline quitting => cases hafter

/-- What a chapter can mean for a session. -/
inductive Round (ch : Chapter) (n : Nat) : Prop
  /-- Nothing: whoever serves the session goes on as before. -/
  | quiet (hears : ch.hears n = false) (beats : ch.beats n = false) (drops : ch.drops n = false)
      (phase : ∀ watch probed, ch.after.phase = .serving n watch probed ↔
        ch.before.phase = .serving n watch probed)
  /-- A sign of life begins a new window. -/
  | heard (hears : ch.hears n = true) (beats : ch.beats n = false) (drops : ch.drops n = false)
      (phase : ch.after.phase = .serving n ch.before.watchFrom false)
  /-- The session is opened and lost at once. -/
  | stillborn (hears : ch.hears n = true) (beats : ch.beats n = false)
      (drops : ch.drops n = false) (cuts : ch.Cuts n)
      (phase : ∀ watch probed, ch.after.phase ≠ .serving n watch probed)
  /-- The first half of the window is over. -/
  | asked {watch : Option Nat} (deed : ch.deed = .watch n false)
      (phase : ch.before.phase = .serving n watch false)
      (reached : ch.before.reached watch = true) (hears : ch.hears n = false)
      (beats : ch.beats n = true) (drops : ch.drops n = false)
      (after : ch.after.phase = .serving n ch.before.watchFrom true)
  /-- The second half of the window is over. -/
  | dropped {watch : Option Nat} (deed : ch.deed = .watch n true)
      (phase : ch.before.phase = .serving n watch true)
      (reached : ch.before.reached watch = true) (hears : ch.hears n = false)
      (beats : ch.beats n = false) (drops : ch.drops n = true)
      (after : ∀ watch probed, ch.after.phase ≠ .serving n watch probed)
  /-- The session comes to another end. -/
  | cut {watch : Option Nat} {probed : Bool} (phase : ch.before.phase = .serving n watch probed)
      (hears : ch.hears n = false) (beats : ch.beats n = false) (drops : ch.drops n = false)
      (cuts : ch.Cuts n) (after : ∀ watch probed, ch.after.phase ≠ .serving n watch probed)

theorem hears_of_opens {ch : Chapter} {n : Nat} (h : ch.opens n = true) : ch.hears n = true := by
  rw [opens, List.any_eq_true] at h
  obtain ⟨e, he, hopening⟩ := h
  refine List.any_eq_true.2 ⟨e, he, ?_⟩
  cases e with
  | opened k => rfl
  | _ => cases hopening

/-- A frame that is taken is a sign of life. -/
theorem hears_of_taken {s : Link} {d : Deed} {n : Nat} (h : d.taken n ≠ []) :
    hears ⟨s, d⟩ n = true := by
  cases d with
  | read k text =>
    have hk : k = n := by
      by_contra hne
      exact h (if_neg hne)
    rw [hears, vitals, events, Link.vitals_read, if_pos hk]
    rfl
  | _ => exact absurd rfl h

theorem quiet_of_vitals {ch : Chapter} {n : Nat} (h : ch.vitals n = []) :
    ch.hears n = false ∧ ch.drops n = false := by
  rw [hears, drops, h]
  exact ⟨rfl, rfl⟩

/-- A session that is lost, for another reason than its silence, is cut. -/
theorem round_of_lost {ch : Chapter} {n : Nat} {watch : Option Nat} {probed : Bool}
    (phase : ch.before.phase = .serving n watch probed) (vitals : ch.vitals n = [.lost n])
    (beats : ch.beats n = false) (cuts : ch.Cuts n) (after : ch.after.phase = ch.before.pause) :
    ch.Round n := by
  refine .cut phase ?_ beats ?_ cuts fun watch probed hafter => ?_
  · rw [hears, vitals]
    rfl
  · rw [drops, vitals]
    rfl
  · exact absurd (after.symm.trans hafter) Phase.noConfusion

theorem round_resolve {s : Link} {a : Attempt} (h : s.Ready (.resolve a))
    (hacc : a.ending = .accepted) : Round ⟨s, .resolve a⟩ (s.peers.length + 1) := by
  have hphase := Link.phase_perform h
  have hvitals : Chapter.vitals ⟨s, .resolve a⟩ (s.peers.length + 1) =
      .opened (s.peers.length + 1) ::
        if (Peer.accept a).accepted s.questions = s.questions then []
        else [.lost (s.peers.length + 1)] := by
    rw [vitals, events, Link.story, if_pos hacc, Link.vitals_opening, if_pos rfl]
  have hposting : posting? ⟨s, .resolve a⟩ (s.peers.length + 1) =
      some ⟨.opening, (Peer.accept a).accepted s.questions⟩ := if_pos ⟨hacc, rfl⟩
  have hbeats : beats ⟨s, .resolve a⟩ (s.peers.length + 1) = false := by
    rw [beats, hposting]
    exact decide_eq_false fun he =>
      Cause.noConfusion (congrArg Posting.cause (Option.some_inj.1 he))
  rw [Link.bareAfter, if_pos hacc] at hphase
  by_cases hall : (Peer.accept a).accepted s.questions = s.questions
  · rw [if_pos hall] at hvitals
    simp only [if_pos hall] at hphase
    refine .heard ?_ hbeats ?_ hphase
    · rw [hears, hvitals]
      rfl
    · rw [drops, hvitals]
      rfl
  · rw [if_neg hall] at hvitals
    simp only [if_neg hall] at hphase
    refine .stillborn ?_ hbeats ?_ (.opening rfl rfl hall) fun watch probed hafter => ?_
    · rw [hears, hvitals]
      rfl
    · rw [drops, hvitals]
      rfl
    · exact absurd (hphase.symm.trans hafter) Phase.noConfusion

theorem round_heartbeat {s : Link} {n : Nat} {watch : Option Nat}
    (h : s.Ready (.watch n false)) (phase : s.phase = .serving n watch false)
    (reached : s.reached watch = true) : Round ⟨s, .watch n false⟩ n := by
  have hphase := Link.phase_perform h
  have hposting : posting? ⟨s, .watch n false⟩ n =
      some ⟨.heartbeat, s.accepted n [.getStatus]⟩ := if_pos rfl
  have hvitals : Chapter.vitals ⟨s, .watch n false⟩ n =
      if s.accepted n [.getStatus] = [.getStatus] then [] else [.lost n] := by
    rw [vitals, events, Link.story, List.filter_append, Link.vitals_posts, Link.vitals_fate,
      if_pos rfl, List.nil_append]
  rw [Link.bareAfter] at hphase
  by_cases hall : s.accepted n [.getStatus] = [.getStatus]
  · rw [if_pos hall] at hvitals
    simp only [if_pos hall] at hphase
    obtain ⟨hhears, hdrops⟩ := quiet_of_vitals hvitals
    refine .asked rfl phase reached hhears ?_ hdrops hphase
    rw [beats, hposting, hall]
    rfl
  · rw [if_neg hall] at hvitals
    simp only [if_neg hall] at hphase
    refine round_of_lost phase hvitals ?_ (.heartbeat rfl hall) hphase
    rw [beats, hposting]
    exact decide_eq_false fun he => hall (congrArg Posting.accepted (Option.some_inj.1 he))

theorem round_serve {s : Link} {n id : Nat} {r : Request} {watch : Option Nat} {probed : Bool}
    (h : s.Ready (.serve n id r)) (phase : s.phase = .serving n watch probed) :
    Round ⟨s, .serve n id r⟩ n := by
  have hphase := Link.phase_perform h
  have hposting : posting? ⟨s, .serve n id r⟩ n =
      some ⟨.request id r, s.accepted n r.commands⟩ := if_pos rfl
  have hbeats : beats ⟨s, .serve n id r⟩ n = false := by
    rw [beats, hposting]
    exact decide_eq_false fun he =>
      Cause.noConfusion (congrArg Posting.cause (Option.some_inj.1 he))
  have hvitals : Chapter.vitals ⟨s, .serve n id r⟩ n =
      if s.accepted n r.commands = r.commands then [] else [.lost n] := by
    rw [vitals, events, Link.vitals_serve, if_pos rfl]
  rw [Link.bareAfter] at hphase
  by_cases hall : s.accepted n r.commands = r.commands
  · rw [if_pos hall] at hvitals
    simp only [if_pos hall] at hphase
    obtain ⟨hhears, hdrops⟩ := quiet_of_vitals hvitals
    refine .quiet hhears hbeats hdrops fun watch probed => ?_
    show (s.perform (.serve n id r)).phase = _ ↔ _
    rw [hphase]
  · rw [if_neg hall] at hvitals
    simp only [if_neg hall] at hphase
    exact round_of_lost phase hvitals hbeats (.request rfl hall) hphase

/-- **What a chapter can mean for a session.** -/
theorem round (ch : Chapter) (h : ch.before.Ready ch.deed) (n : Nat) : ch.Round n := by
  by_cases hstake : ch.stake? = some n
  · obtain ⟨s, d⟩ := ch
    have hready := h
    have hphase : (s.perform d).phase = (s.bareAfter d).phase := Link.phase_perform h
    cases h with
    | @resolve a due phase live reached =>
      by_cases hacc : a.ending = .accepted
      · obtain rfl : s.peers.length + 1 = n :=
          Option.some_inj.1 ((if_pos hacc).symm.trans hstake)
        exact round_resolve hready hacc
      · exact absurd ((if_neg hacc).symm.trans hstake) (by simp)
    | @read k watch probed p text phase live peer next =>
      obtain rfl : k = n := Option.some_inj.1 hstake
      have hvitals : Chapter.vitals ⟨s, .read k text⟩ k = [.took k text] :=
        (Link.vitals_read s k k text).trans (if_pos rfl)
      refine .heard ?_ rfl ?_ hphase
      · rw [hears, hvitals]
        rfl
      · rw [drops, hvitals]
        rfl
    | @lose k watch probed phase live finished =>
      obtain rfl : k = n := Option.some_inj.1 hstake
      exact round_of_lost phase ((Link.vitals_loss k k s.model).trans (if_pos rfl)) rfl
        (.ended rfl finished) hphase
    | @watch k watch probed p phase live peer next reached =>
      obtain rfl : k = n := Option.some_inj.1 hstake
      cases probed with
      | true =>
        have hvitals : Chapter.vitals ⟨s, .watch k true⟩ k = [.silent k, .lost k] := by
          rw [vitals, events, Link.story, List.filter_cons, Link.vitals_loss, if_pos rfl]
          simp [Event.isVital]
        refine .dropped rfl phase reached ?_ rfl ?_ fun watch probed hafter => ?_
        · rw [hears, hvitals]
          rfl
        · rw [drops, hvitals]
          rfl
        · exact absurd (hphase.symm.trans hafter) Phase.noConfusion
      | false => exact round_heartbeat hready phase reached
    | @serve k id watch probed p r rest phase live peer next early queue =>
      obtain rfl : k = n := Option.some_inj.1 hstake
      exact round_serve hready phase
    | @close k watch probed phase quitting =>
      obtain rfl : k = n := Option.some_inj.1 hstake
      refine .cut phase rfl rfl rfl (.closed rfl quitting) fun watch probed hafter => ?_
      exact absurd (hphase.symm.trans hafter) Phase.noConfusion
    | _ => cases hstake
  · have hvitals := vitals_of_stake_ne hstake
    obtain ⟨hhears, hdrops⟩ := quiet_of_vitals hvitals
    have hbeats : ch.beats n = false := by
      rw [beats, posting?_of_stake_ne hstake]
      rfl
    refine .quiet hhears hbeats hdrops fun watch probed => ⟨fun hafter => ?_, fun hbefore => ?_⟩
    · exact absurd (stake_of_serving_after h hafter) hstake
    · exact absurd (stake_of_serving h hbefore) hstake

/-- Only the watchdog gives a session up for its silence. -/
theorem deed_of_drops {ch : Chapter} {n : Nat} (h : ch.before.Ready ch.deed)
    (hdrops : ch.drops n = true) : ch.deed = .watch n true := by
  cases ch.round h n with
  | dropped deed phase reached hears beats drops after => exact deed
  | quiet hears beats drops phase =>
    rw [drops] at hdrops
    cases hdrops
  | heard hears beats drops phase =>
    rw [drops] at hdrops
    cases hdrops
  | stillborn hears beats drops cuts phase =>
    rw [drops] at hdrops
    cases hdrops
  | asked deed phase reached hears beats drops after =>
    rw [drops] at hdrops
    cases hdrops
  | cut phase hears beats drops cuts after =>
    rw [drops] at hdrops
    cases hdrops

/-- Only the watchdog sends heartbeats. -/
theorem deed_of_beats {ch : Chapter} {n : Nat} (hbeats : ch.beats n = true) :
    ch.deed = .watch n false := by
  obtain ⟨s, d⟩ := ch
  have hposting := of_decide_eq_true hbeats
  cases d with
  | resolve a =>
    simp only [posting?] at hposting
    split at hposting
    · cases hposting
    · cases hposting
  | watch k probed =>
    cases probed with
    | true => cases hposting
    | false =>
      simp only [posting?] at hposting
      split at hposting
      · rename_i hk
        rw [hk]
      · cases hposting
  | serve k id r =>
    simp only [posting?] at hposting
    split at hposting
    · cases hposting
    · cases hposting
  | _ => cases hposting

end Chapter

end RaceLink
