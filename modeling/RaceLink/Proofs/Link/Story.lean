import RaceLink.Proofs.Link.Sound

/-!
# What a deed tells

`Link.bareAfter` says what a deed does to the state that drives a client.  This file says the rest:
what becomes of the model, and what is told and written down.

* `Link.modelAfter` — the model after a deed (`model_perform`).
* `Link.story` — the events of a deed, written out; `events_perform` says that these, in this order
  and nothing else, are what a deed adds to the log.
* `Link.innerStory`, `Link.outerStory` — the part of a story that is about the model, and the part
  that is about requests and the texts that were sent.
-/

set_option autoImplicit false

namespace RaceLink
namespace Link

/-! ## The model -/

/-- The model after a deed. -/
def modelAfter (s : Link) : Deed → Model
  | .read _ text =>
    match Frame.decode text with
    | .error _ => s.model
    | .ok f => (s.model.apply f).1
  | .serve _ _ r => s.prepared r
  | .decline _ r => s.prepared r
  | _ => s.model

@[simp] theorem model_lose (s : Link) (n : Nat) : (s.lose n).model = s.model :=
  model_enter _ _ _

@[simp] theorem model_posted (s : Link) (n : Nat) (p : Peer) (cs : List Command) :
    (s.posted n p cs).model = s.model :=
  rfl

@[simp] theorem model_opened (s : Link) (a : Attempt) : (s.opened a).model = s.model :=
  model_enter _ _ _

@[simp] theorem model_answer (s : Link) (id : Nat) (outcome : Except Fault Unit) :
    (s.answer id outcome).model = s.model :=
  rfl

theorem model_stop (s : Link) : s.stop.model = s.model := by
  obtain ⟨-, -, hmodel⟩ := shows_refuseAll ({ s with phase := .stopped }.enter .closed none)
    ({ s with phase := .stopped }.enter .closed none).queue
  exact hmodel.trans (model_enter _ _ _)

theorem model_endAttempt (s : Link) (a : Attempt) : (s.endAttempt a).model = s.model := by
  rw [endAttempt]
  cases a.ending with
  | accepted =>
    show (s.openSession a).model = s.model
    rw [openSession_eq]
    split <;> simp
  | refused => rfl
  | never => rfl

theorem model_takeFrame (s : Link) {n : Nat} (hn : 0 < n) (text : String) :
    (s.takeFrame n text).model = s.modelAfter (.read n text) := by
  rw [takeFrame, onPeer_eq s hn, modelAfter]
  cases Frame.decode text with
  | error e => rfl
  | ok f => exact model_update _ _

theorem model_watchdog {s : Link} {n : Nat} {p : Peer} (peer : s.peer? n = some p)
    (probed : Bool) : (s.watchdog n probed).model = s.model := by
  cases probed with
  | true => exact model_lose _ _
  | false =>
    rw [watchdog_eq peer]
    split
    · rfl
    · simp

theorem model_serve {s : Link} {n id : Nat} {p : Peer} (r : Request) (peer : s.peer? n = some p) :
    (s.serve n id r).model = s.prepared r := by
  rw [serve_eq r peer]
  split <;> simp

/-- The model after a deed. -/
theorem model_perform {s : Link} {d : Deed} (h : Ready s d) :
    (s.perform d).model = s.modelAfter d := by
  cases h with
  | attempt phase live due => rfl
  | resolve phase live reached => exact model_endAttempt s _
  | read phase live peer next => exact model_takeFrame s (peer?_eq_some peer).1 _
  | lose phase live finished => exact model_lose s _
  | watch phase live peer next reached => exact model_watchdog peer _
  | @serve n id watch probed p r rest phase live peer next early queue =>
    exact model_serve (s := { s with queue := s.queue.drop 1 }) r peer
  | decline offline live queue => exact model_prepare _ _
  | close phase quitting => rfl
  | part phase due => exact model_stop s
  | stop offline quitting => exact model_stop s

/-! ## The events -/

/-- The events of a session that is given up. -/
def loss (n : Nat) (m : Model) : List Event := [.lost n, .notified (.link .connecting none) m]

/-- What comes after some commands were to be sent: nothing, or the loss of the session if a send
failed. -/
def fate (done : Prop) [Decidable done] (n : Nat) (m : Model) : List Event :=
  if done then [] else loss n m

/-- What a peer makes of some commands: all of them are accepted, or its excuse. -/
def verdict (s : Link) (n : Nat) (cs : List Command) : Except Fault Unit :=
  if s.accepted n cs = cs then .ok ()
  else .error (.transport (((s.peer? n).map fun p => (p.spent cs).excuse).getD "no session") none)

/-- What is told of a text that was read as a frame, or could not be. -/
def heard (s : Link) (n : Nat) (text : String) : List Event :=
  match Frame.decode text with
  | .error _ => [.malformed n]
  | .ok f => told (s.model.apply f)

/-- The events of a session that is opened. -/
def opening (s : Link) (a : Attempt) : List Event :=
  let n := s.peers.length + 1
  let p := Peer.accept a
  [.opened n, .notified (.link .isOpen (some ⟨UInt64.ofNat n⟩)) s.model]
    ++ posts n (p.accepted s.questions) ++ fate (p.accepted s.questions = s.questions) n s.model

/-- The events of a deed. -/
def story (s : Link) : Deed → List Event
  | .attempt => [.attempted]
  | .resolve a => if a.ending = .accepted then s.opening a else [.refused]
  | .read n text => .took n text :: s.heard n text
  | .lose n => loss n s.model
  | .watch n true => .silent n :: loss n s.model
  | .watch n false =>
    posts n (s.accepted n [.getStatus])
      ++ fate (s.accepted n [.getStatus] = [.getStatus]) n s.model
  | .serve n id r =>
    s.prelude r ++ posts n (s.accepted n r.commands) ++ [.answered id (s.verdict n r.commands)]
      ++ fate (s.accepted n r.commands = r.commands) n (s.prepared r)
  | .decline id r =>
    s.prelude r ++
      [.dropped id r.command.name, .answered id (.error (.notConnected r.command.name))]
  | .close _ => []
  | .stop =>
    .notified (.link .closed none) s.model
      :: s.queue.map fun e => .answered e.1 (.error .shutdown)

theorem events_lose {s : Link} (h : s.state ≠ .connecting) (n : Nat) :
    (s.lose n).events = s.events ++ loss n s.model := by
  let t : Link := { s with phase := s.pause }.record (.lost n)
  have ht : t.events = s.events ++ [.lost n] := events_record _ _
  have hne : t.state ≠ .connecting := h
  show (t.enter .connecting none).events = _
  rw [events_enter hne, ht, List.append_assoc]
  rfl

theorem events_stop {s : Link} (h : s.state ≠ .closed) :
    s.stop.events = s.events ++ s.story .stop := by
  let t : Link := { s with phase := .stopped }
  have hne : t.state ≠ .closed := h
  have hq : (t.enter .closed none).queue = s.queue :=
    (congrArg queue (bare_enter t .closed none) :)
  show ((t.enter .closed none).refuseAll (t.enter .closed none).queue).events = _
  rw [events_refuseAll, events_enter hne, hq, List.append_assoc]
  rfl

theorem events_posted (s : Link) (n : Nat) (p : Peer) (cs : List Command) :
    (s.posted n p cs).events = s.events ++ posts n (p.accepted cs) := by
  rw [posted, events_recordAll]
  rfl

theorem events_opened {s : Link} (h : s.state ≠ .isOpen) (a : Attempt) :
    (s.opened a).events = s.events ++ [.opened (s.peers.length + 1),
      .notified (.link .isOpen (some ⟨UInt64.ofNat (s.peers.length + 1)⟩)) s.model] := by
  let t : Link := { s with
    peers := s.peers ++ [Peer.accept a]
    phase := .serving (s.peers.length + 1) s.watchFrom false
    log := s.log.push ⟨s.now, .opened (s.peers.length + 1)⟩ }
  have ht : t.events = s.events ++ [.opened (s.peers.length + 1)] := events_record s _
  have hne : t.state ≠ .isOpen := h
  show (t.enter .isOpen (some (s.peers.length + 1))).events = _
  rw [events_enter hne, ht, List.append_assoc]
  rfl

theorem events_endAttempt {s : Link} (h : s.state = .connecting) (a : Attempt) :
    (s.endAttempt a).events = s.events ++ s.story (.resolve a) := by
  rw [endAttempt, story]
  cases a.ending with
  | accepted =>
    have hne : s.state ≠ .isOpen := by rw [h]; decide
    have hsent : ∀ p cs, ((s.opened a).posted (s.peers.length + 1) p cs).state ≠ .connecting := by
      intro p cs
      have hopen : (s.opened a).state = .isOpen := state_enter _ _ _
      show (s.opened a).state ≠ .connecting
      rw [hopen]
      decide
    show (s.openSession a).events = _
    rw [openSession_eq, if_pos rfl, opening]
    by_cases hall : (Peer.accept a).accepted s.questions = s.questions
    · simp [fate, if_pos hall, events_posted, events_opened hne]
    · simp [fate, if_neg hall, events_lose (hsent _ _), events_posted, events_opened hne]
  | refused => exact events_record _ _
  | never => exact events_record _ _

theorem events_takeFrame (s : Link) {n : Nat} (hn : 0 < n) (text : String) :
    (s.takeFrame n text).events = s.events ++ s.story (.read n text) := by
  rw [takeFrame, onPeer_eq s hn, story, heard]
  cases Frame.decode text with
  | error e => simp [events, record]
  | ok f =>
    simp only [events_update, events_record]
    rw [List.append_assoc]
    rfl

theorem events_watchdog {s : Link} (h : s.state = .isOpen) {n : Nat} {p : Peer}
    (peer : s.peer? n = some p) (probed : Bool) :
    (s.watchdog n probed).events = s.events ++ s.story (.watch n probed) := by
  have hne : s.state ≠ .connecting := by rw [h]; decide
  cases probed with
  | true =>
    have hr : (s.record (.silent n)).state ≠ .connecting := hne
    show ((s.record (.silent n)).lose n).events = _
    rw [events_lose hr, events_record, List.append_assoc]
    rfl
  | false =>
    have hp : (s.posted n p [.getStatus]).state ≠ .connecting := hne
    rw [watchdog_eq peer, story, accepted_eq peer]
    by_cases hall : p.accepted [.getStatus] = [.getStatus]
    · rw [if_pos hall, fate, if_pos hall, List.append_nil]
      exact events_posted s n p _
    · rw [if_neg hall, fate, if_neg hall, events_lose hp, events_posted, List.append_assoc]
      rfl

theorem events_serve {s : Link} (h : s.state = .isOpen) {n id : Nat} {p : Peer} (r : Request)
    (peer : s.peer? n = some p) :
    (s.serve n id r).events = s.events ++ s.story (.serve n id r) := by
  have hne : ∀ outcome,
      (((s.prepare r).posted n p r.commands).answer id outcome).state ≠ .connecting := by
    intro outcome
    have hp : (s.prepare r).state = .isOpen := (state_prepare s r).trans h
    show (s.prepare r).state ≠ .connecting
    rw [hp]
    decide
  rw [serve_eq r peer, story, verdict, accepted_eq peer, peer]
  by_cases hall : p.accepted r.commands = r.commands
  · simp [fate, if_pos hall, events_posted]
  · simp [fate, if_neg hall, events_lose (hne _), events_posted]

/-- **What a deed tells**: its story, in this order and nothing else. -/
theorem events_perform {s : Link} {d : Deed} (hs : Sound s) (h : Ready s d) :
    (s.perform d).events = s.events ++ s.story d := by
  have hstate := hs.state
  cases h with
  | attempt phase live due => exact events_record _ _
  | resolve phase live reached =>
    rw [phase] at hstate
    exact events_endAttempt hstate _
  | read phase live peer next => exact events_takeFrame s (peer?_eq_some peer).1 _
  | lose phase live finished =>
    rw [phase] at hstate
    exact events_lose (by simp [hstate, Phase.shown]) _
  | watch phase live peer next reached =>
    rw [phase] at hstate
    exact events_watchdog hstate peer _
  | @serve n id watch probed p r rest phase live peer next early queue =>
    rw [phase] at hstate
    exact events_serve (s := { s with queue := s.queue.drop 1 }) hstate r peer
  | @decline id r rest offline live queue =>
    show (decline { s with queue := s.queue.drop 1 } id r).events = _
    rw [decline, events_answer, events_record, events_prepare, List.append_assoc, List.append_assoc]
    rfl
  | close phase quitting => exact (List.append_nil _).symm
  | part phase due =>
    rw [phase] at hstate
    exact events_stop (by simp [hstate, Phase.shown])
  | stop offline quitting => exact events_stop (by rw [hstate, offline]; decide)

/-! ## Parts of a story

Of a story one mostly wants to know what is told of the model, or what is told of the requests and
the texts that were sent for them.  Each kind of event is in one part as a whole. -/

end Link

/-- Whether an event is about the model. -/
def Event.isInner : Event → Bool
  | .took _ _ => true
  | .malformed _ => true
  | .cleared => true
  | .notified (.model _) _ => true
  | _ => false

/-- Whether an event is about a request or a text that was sent. -/
def Event.isOuter : Event → Bool
  | .sent _ _ => true
  | .dropped _ _ => true
  | .answered _ _ => true
  | _ => false

/-- To pick events one need only look at a part that has them all. -/
theorem Event.filterMap_filter {α : Type} {f : Event → Option α} {p : Event → Bool}
    (h : ∀ e, p e = false → f e = none) (es : List Event) :
    es.filterMap f = (es.filter p).filterMap f := by
  induction es with
  | nil => rfl
  | cons e es ih =>
    cases hp : p e with
    | true => rw [List.filter_cons_of_pos hp, List.filterMap_cons, List.filterMap_cons, ih]
    | false =>
      rw [List.filter_cons_of_neg (by rw [hp]; exact Bool.false_ne_true), List.filterMap_cons,
        h e hp, ih]

namespace Link

/-- What a story tells of the model. -/
def innerStory (s : Link) : Deed → List Event
  | .read n text => .took n text :: s.heard n text
  | .serve _ _ r => s.prelude r
  | .decline _ r => s.prelude r
  | _ => []

/-- What a story tells of the requests and the texts that were sent. -/
def outerStory (s : Link) : Deed → List Event
  | .resolve a =>
    if a.ending = .accepted then
      posts (s.peers.length + 1) ((Peer.accept a).accepted s.questions)
    else []
  | .watch n false => posts n (s.accepted n [.getStatus])
  | .serve n id r =>
    posts n (s.accepted n r.commands) ++ [.answered id (s.verdict n r.commands)]
  | .decline id r =>
    [.dropped id r.command.name, .answered id (.error (.notConnected r.command.name))]
  | .stop => s.queue.map fun e => .answered e.1 (.error .shutdown)
  | _ => []

theorem filter_posts (p : Event → Bool) (n : Nat) (cs : List Command) (b : Bool)
    (h : ∀ t, p (.sent n t) = b) : (posts n cs).filter p = if b then posts n cs else [] := by
  induction cs with
  | nil => cases b <;> rfl
  | cons c cs ih =>
    show (Event.sent n c.text :: posts n cs).filter p = _
    rw [List.filter_cons, h, ih]
    cases b <;> rfl

theorem filter_told (p : Event → Bool) (r : Model × Option Change) (b : Bool)
    (h : ∀ c m, p (.notified (.model c) m) = b) :
    (told r).filter p = if b then told r else [] := by
  obtain ⟨m, _ | c⟩ := r
  · cases b <;> rfl
  · show [Event.notified (.model c) m].filter p = _
    rw [List.filter_cons, h]
    cases b <;> rfl

theorem filter_prelude (p : Event → Bool) (s : Link) (r : Request) (b : Bool)
    (hc : p .cleared = b) (h : ∀ c m, p (.notified (.model c) m) = b) :
    (s.prelude r).filter p = if b then s.prelude r else [] := by
  cases r with
  | reset =>
    rw [prelude, List.filter_cons, hc, filter_told p _ b h]
    cases b <;> rfl
  | send c => cases b <;> rfl
  | refresh => cases b <;> rfl

theorem filter_heard (p : Event → Bool) (s : Link) (n : Nat) (text : String) (b : Bool)
    (hm : p (.malformed n) = b) (h : ∀ c m, p (.notified (.model c) m) = b) :
    (s.heard n text).filter p = if b then s.heard n text else [] := by
  rw [heard]
  cases Frame.decode text with
  | error e =>
    show [Event.malformed n].filter p = _
    rw [List.filter_cons, hm]
    cases b <;> rfl
  | ok f => exact filter_told p _ b h

theorem filter_fate (p : Event → Bool) (done : Prop) [Decidable done] (n : Nat) (m : Model)
    (hl : p (.lost n) = false) (h : p (.notified (.link .connecting none) m) = false) :
    (fate done n m).filter p = [] := by
  rw [fate]
  split
  · rfl
  · rw [loss, List.filter_cons, hl, List.filter_cons, h]
    rfl

theorem filter_refusals (p : Event → Bool) (q : List (Nat × Request)) (b : Bool)
    (h : ∀ id, p (.answered id (.error .shutdown)) = b) :
    (q.map fun e => Event.answered e.1 (.error .shutdown)).filter p =
      if b then q.map (fun e => Event.answered e.1 (.error .shutdown)) else [] := by
  induction q with
  | nil => cases b <;> rfl
  | cons e q ih =>
    rw [List.map_cons, List.filter_cons, h, ih]
    cases b <;> rfl

theorem inner_story (s : Link) (d : Deed) :
    (s.story d).filter Event.isInner = s.innerStory d := by
  cases d with
  | resolve a =>
    rw [story]
    split
    · rw [opening, List.filter_append, List.filter_append, filter_fate _ _ _ _ rfl rfl,
        filter_posts _ _ _ false fun _ => rfl]
      rfl
    · rfl
  | read n text =>
    rw [story, List.filter_cons, filter_heard _ _ _ _ true rfl fun _ _ => rfl]
    rfl
  | watch n probed =>
    cases probed with
    | true => rfl
    | false =>
      rw [story, List.filter_append, filter_fate _ _ _ _ rfl rfl,
        filter_posts _ _ _ false fun _ => rfl]
      rfl
  | serve n id r =>
    rw [story, List.filter_append, List.filter_append, List.filter_append,
      filter_fate _ _ _ _ rfl rfl, filter_posts _ _ _ false fun _ => rfl,
      filter_prelude _ _ _ true rfl fun _ _ => rfl]
    simp [innerStory, Event.isInner]
  | decline id r =>
    rw [story, List.filter_append, filter_prelude _ _ _ true rfl fun _ _ => rfl]
    exact List.append_nil _
  | stop =>
    rw [story, List.filter_cons, filter_refusals _ _ false fun _ => rfl]
    rfl
  | _ => rfl

theorem outer_story (s : Link) (d : Deed) :
    (s.story d).filter Event.isOuter = s.outerStory d := by
  cases d with
  | resolve a =>
    rw [story, outerStory]
    split
    · rw [opening, List.filter_append, List.filter_append, filter_fate _ _ _ _ rfl rfl,
        filter_posts _ _ _ true fun _ => rfl]
      exact List.append_nil _
    · rfl
  | read n text =>
    rw [story, List.filter_cons, filter_heard _ _ _ _ false rfl fun _ _ => rfl]
    rfl
  | watch n probed =>
    cases probed with
    | true => rfl
    | false =>
      rw [story, List.filter_append, filter_fate _ _ _ _ rfl rfl,
        filter_posts _ _ _ true fun _ => rfl]
      exact List.append_nil _
  | serve n id r =>
    rw [story, List.filter_append, List.filter_append, List.filter_append,
      filter_fate _ _ _ _ rfl rfl, filter_posts _ _ _ true fun _ => rfl,
      filter_prelude _ _ _ false rfl fun _ _ => rfl]
    exact List.append_nil _
  | decline id r =>
    rw [story, List.filter_append, filter_prelude _ _ _ false rfl fun _ _ => rfl]
    rfl
  | stop =>
    rw [story, List.filter_cons, filter_refusals _ _ true fun _ => rfl]
    rfl
  | _ => rfl

/-- What is picked from a story about the model alone. -/
theorem filterMap_inner {α : Type} {f : Event → Option α} (h : ∀ e, e.isInner = false → f e = none)
    (s : Link) (d : Deed) : (s.story d).filterMap f = (s.innerStory d).filterMap f := by
  rw [Event.filterMap_filter h, inner_story]

/-- What is picked from a story about requests and texts alone. -/
theorem filterMap_outer {α : Type} {f : Event → Option α} (h : ∀ e, e.isOuter = false → f e = none)
    (s : Link) (d : Deed) : (s.story d).filterMap f = (s.outerStory d).filterMap f := by
  rw [Event.filterMap_filter h, outer_story]

theorem filterMap_posts {α : Type} {f : Event → Option α} {n : Nat}
    (h : ∀ text, f (.sent n text) = none) (cs : List Command) : (posts n cs).filterMap f = [] := by
  rw [posts, List.filterMap_map]
  exact List.filterMap_eq_nil_iff.2 fun c _ => h c.text

end Link
end RaceLink
