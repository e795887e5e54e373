import RaceLink.Proofs.Link.Effect

/-!
# What a client does, and when

`Link.deed?` picks the next deed of a client and `Link.perform` does it.  Everything below about
whole runs rests on what is said here about one deed.

* `Ready` — when a deed is due.  `ready_of_deed?` turns the choice of a deed into the facts that led
  to it, so that a proof about a turn is a case distinction with one case for each deed.
* `serve_eq`, `watchdog_eq`, `openSession_eq` — the deeds that send something, as one choice
  between going on and giving the session up.
* `bareAfter` — what a deed does to a client, apart from what others see of it, written out as one
  update of the state; `bare_perform` says that it is right.
-/

set_option autoImplicit false

namespace RaceLink

/-- What a client announces about its connection in a phase. -/
def Phase.shown : Phase → LinkState
  | .stopped => .closed
  | .serving _ _ _ => .isOpen
  | .closing _ _ => .isOpen
  | _ => .connecting

/-- What a deed takes from a session. -/
def Deed.taken (n : Nat) : Deed → List String
  | .read k text => if k = n then [text] else []
  | _ => []

theorem Phase.shown_eq_isOpen_iff (p : Phase) : p.shown = .isOpen ↔ p.session?.isSome := by
  cases p <;> simp [shown, session?]

theorem Phase.session?_of_connecting {p : Phase} (h : p.shown = .connecting) :
    p.session? = none := by
  cases p with
  | waiting t => rfl
  | seeking a due => rfl
  | stopped => rfl
  | _ => cases h

namespace Link

/-! ## When a deed is due -/

/-- Nobody wants the client to go on: it was told to stop, or it has neither handles nor requests
left. -/
def Quitting (s : Link) : Prop := s.cancelled = true ∨ (s.handles = 0 ∧ s.queue = [])

/-- When a deed is due. -/
inductive Ready (s : Link) : Deed → Prop
  | attempt {t : Nat} (phase : s.phase = .waiting t) (live : s.cancelled = false)
      (due : t ≤ s.now) : Ready s .attempt
  | resolve {a : Attempt} {due : Option Nat} (phase : s.phase = .seeking a due)
      (live : s.cancelled = false) (reached : s.reached due = true) : Ready s (.resolve a)
  | read {n : Nat} {watch : Option Nat} {probed : Bool} {p : Peer} {text : String}
      (phase : s.phase = .serving n watch probed) (live : s.cancelled = false)
      (peer : s.peer? n = some p) (next : p.next = .text text) : Ready s (.read n text)
  | lose {n : Nat} {watch : Option Nat} {probed : Bool}
      (phase : s.phase = .serving n watch probed) (live : s.cancelled = false)
      (finished : ∀ p, s.peer? n = some p → p.next = .over) : Ready s (.lose n)
  | watch {n : Nat} {watch : Option Nat} {probed : Bool} {p : Peer}
      (phase : s.phase = .serving n watch probed) (live : s.cancelled = false)
      (peer : s.peer? n = some p) (next : p.next = .nothing) (reached : s.reached watch = true) :
      Ready s (.watch n probed)
  | serve {n id : Nat} {watch : Option Nat} {probed : Bool} {p : Peer} {r : Request}
      {rest : List (Nat × Request)} (phase : s.phase = .serving n watch probed)
      (live : s.cancelled = false) (peer : s.peer? n = some p) (next : p.next = .nothing)
      (early : s.reached watch = false) (queue : s.queue = (id, r) :: rest) :
      Ready s (.serve n id r)
  | decline {id : Nat} {r : Request} {rest : List (Nat × Request)}
      (offline : s.phase.shown = .connecting) (live : s.cancelled = false)
      (queue : s.queue = (id, r) :: rest) : Ready s (.decline id r)
  | close {n : Nat} {watch : Option Nat} {probed : Bool}
      (phase : s.phase = .serving n watch probed) (quitting : s.Quitting) : Ready s (.close n)
  | part {n t : Nat} (phase : s.phase = .closing n t) (due : t ≤ s.now) : Ready s .stop
  | stop (offline : s.phase.shown = .connecting) (quitting : s.Quitting) : Ready s .stop

theorem nextRequest?_cases {s : Link} {take : Nat → Request → Deed} {abandoned d : Deed}
    (h : s.nextRequest? take abandoned = some d) :
    (∃ id r rest, s.queue = (id, r) :: rest ∧ d = take id r) ∨
      ((s.handles = 0 ∧ s.queue = []) ∧ d = abandoned) := by
  rw [nextRequest?] at h
  split at h
  · rename_i id r rest hq
    exact .inl ⟨id, r, rest, hq, (Option.some_inj.1 h).symm⟩
  · rename_i hq
    split at h
    · rename_i h0
      exact .inr ⟨⟨h0, hq⟩, (Option.some_inj.1 h).symm⟩
    · cases h

/-- The requests of a client that is offline are turned down, and without handles it stops. -/
theorem ready_offline {s : Link} {d : Deed} (offline : s.phase.shown = .connecting)
    (live : s.cancelled = false) (h : s.nextRequest? .decline .stop = some d) : Ready s d := by
  obtain ⟨id, r, rest, hq, rfl⟩ | ⟨hquit, rfl⟩ := nextRequest?_cases h
  · exact .decline offline live hq
  · exact .stop offline (.inr hquit)

theorem ready_serving {s : Link} {d : Deed} {n : Nat} {watch : Option Nat} {probed : Bool}
    (phase : s.phase = .serving n watch probed) (live : s.cancelled = false)
    (h : s.deedServing? n watch probed = some d) : Ready s d := by
  rw [deedServing?] at h
  split at h
  · rename_i hp
    cases h
    exact .lose phase live fun p hsome => by rw [hp] at hsome; cases hsome
  · rename_i p hp
    split at h
    · rename_i t hn
      cases h
      exact .read phase live hp hn
    · rename_i hn
      cases h
      exact .lose phase live fun q hsome => by rw [hp] at hsome; cases hsome; exact hn
    · rename_i hn
      split at h
      · rename_i hr
        cases h
        exact .watch phase live hp hn hr
      · rename_i hr
        obtain ⟨id, r, rest, hq, rfl⟩ | ⟨hquit, rfl⟩ := nextRequest?_cases h
        · exact .serve phase live hp hn (Bool.eq_false_iff.2 hr) hq
        · exact .close phase (.inr hquit)

/-- A deed is chosen only when it is due. -/
theorem ready_of_deed? {s : Link} {d : Deed} (h : s.deed? = some d) : Ready s d := by
  rw [deed?] at h
  split at h
  · cases h
  · rename_i n t hphase
    split at h
    · rename_i hdue
      cases h
      exact .part hphase hdue
    · cases h
  · rename_i t hphase
    have offline : s.phase.shown = .connecting := by rw [hphase]; rfl
    split at h
    · rename_i hc
      cases h
      exact .stop offline (.inl hc)
    · rename_i hc
      have live : s.cancelled = false := Bool.eq_false_iff.2 hc
      split at h
      · rename_i hdue
        cases h
        exact .attempt hphase live hdue
      · exact ready_offline offline live h
  · rename_i a due hphase
    have offline : s.phase.shown = .connecting := by rw [hphase]; rfl
    split at h
    · rename_i hc
      cases h
      exact .stop offline (.inl hc)
    · rename_i hc
      have live : s.cancelled = false := Bool.eq_false_iff.2 hc
      split at h
      · rename_i hdue
        cases h
        exact .resolve hphase live hdue
      · exact ready_offline offline live h
  · rename_i n watch probed hphase
    split at h
    · rename_i hc
      cases h
      exact .close hphase (.inl hc)
    · rename_i hc
      exact ready_serving hphase (Bool.eq_false_iff.2 hc) h

/-- When no deed is due. -/
inductive Waits (s : Link) : Prop
  | stopped (phase : s.phase = .stopped) : Waits s
  | closing {n t : Nat} (phase : s.phase = .closing n t) (early : s.now < t) : Waits s
  | offline (offline : s.phase.shown = .connecting) (live : s.cancelled = false)
      (queue : s.queue = []) (handles : s.handles ≠ 0) : Waits s
  | serving {n : Nat} {watch : Option Nat} {probed : Bool} {p : Peer}
      (phase : s.phase = .serving n watch probed) (live : s.cancelled = false)
      (peer : s.peer? n = some p) (next : p.next = .nothing) (early : s.reached watch = false)
      (queue : s.queue = []) (handles : s.handles ≠ 0) : Waits s

theorem nextRequest?_eq_none {s : Link} {take : Nat → Request → Deed} {abandoned : Deed}
    (h : s.nextRequest? take abandoned = none) : s.queue = [] ∧ s.handles ≠ 0 := by
  rw [nextRequest?] at h
  split at h
  · cases h
  · rename_i hq
    split at h
    · cases h
    · rename_i h0
      exact ⟨hq, h0⟩

theorem waits_serving {s : Link} {n : Nat} {watch : Option Nat} {probed : Bool}
    (phase : s.phase = .serving n watch probed) (live : s.cancelled = false)
    (h : s.deedServing? n watch probed = none) : Waits s := by
  rw [deedServing?] at h
  split at h
  · cases h
  · rename_i p hp
    split at h
    · cases h
    · cases h
    · rename_i hn
      split at h
      · cases h
      · rename_i hr
        obtain ⟨hq, h0⟩ := nextRequest?_eq_none h
        exact .serving phase live hp hn (Bool.eq_false_iff.2 hr) hq h0

/-- A client has to wait only when no deed is due. -/
theorem waits_of_deed? {s : Link} (h : s.deed? = none) : Waits s := by
  have hoffline : s.phase.shown = .connecting → ¬ s.cancelled = true →
      s.nextRequest? .decline .stop = none → Waits s := by
    intro offline hc hnext
    obtain ⟨hq, h0⟩ := nextRequest?_eq_none hnext
    exact .offline offline (Bool.eq_false_iff.2 hc) hq h0
  rw [deed?] at h
  split at h
  · rename_i hphase
    exact .stopped hphase
  · rename_i n t hphase
    split at h
    · cases h
    · rename_i hdue
      exact .closing hphase (Nat.lt_of_not_le hdue)
  · rename_i t hphase
    split at h
    · cases h
    · rename_i hc
      split at h
      · cases h
      · exact hoffline (by rw [hphase]; rfl) hc h
  · rename_i a due hphase
    split at h
    · cases h
    · rename_i hc
      split at h
      · cases h
      · exact hoffline (by rw [hphase]; rfl) hc h
  · rename_i n watch probed hphase
    split at h
    · cases h
    · rename_i hc
      exact waits_serving hphase (Bool.eq_false_iff.2 hc) h

/-! ## Deeds that send something

Each of them is one of two clients: the one that goes on, if all was accepted, or else the one that
gives the session up. -/

/-- The client after commands were sent on a session. -/
def posted (s : Link) (n : Nat) (p : Peer) (cs : List Command) : Link :=
  (s.setPeer n (p.spent cs)).recordAll (posts n (p.accepted cs))

theorem peer?_prepare {s : Link} {n : Nat} {p : Peer} (h : s.peer? n = some p) (r : Request) :
    (s.prepare r).peer? n = some p := by
  have hpeers : (s.prepare r).peers = s.peers := (congrArg peers (bare_prepare s r) :)
  rw [← h, peer?, peer?, hpeers]

theorem serve_eq {s : Link} {n id : Nat} {p : Peer} (r : Request) (h : s.peer? n = some p) :
    s.serve n id r =
      if p.accepted r.commands = r.commands then
        ((s.prepare r).posted n p r.commands).answer id (.ok ())
      else
        (((s.prepare r).posted n p r.commands).answer id
          (.error (.transport (p.spent r.commands).excuse none))).lose n := by
  rw [serve, deliver_eq r.commands (peer?_prepare h r), posted]
  by_cases hall : p.accepted r.commands = r.commands
  · rw [if_pos hall, if_pos hall]
  · rw [if_neg hall, if_neg hall]

theorem watchdog_eq {s : Link} {n : Nat} {p : Peer} (h : s.peer? n = some p) :
    s.watchdog n false =
      if p.accepted [.getStatus] = [.getStatus] then
        { s.posted n p [.getStatus] with phase := .serving n s.watchFrom true }
      else (s.posted n p [.getStatus]).lose n := by
  rw [watchdog, if_neg Bool.false_ne_true, deliver_eq _ h, posted]
  by_cases hall : p.accepted [.getStatus] = [.getStatus]
  · rw [if_pos hall, if_pos hall]
    rfl
  · rw [if_neg hall, if_neg hall]

/-- A client with a session that has just been opened. -/
def opened (s : Link) (a : Attempt) : Link :=
  let n := s.peers.length + 1
  let s := { s with peers := s.peers ++ [Peer.accept a] }.record (.opened n)
  { s with phase := .serving n s.watchFrom false }.enter .isOpen (some n)

/-- The questions that open a session. -/
def questions (s : Link) : List Command := if s.terms.resync then Command.resync else []

theorem bare_opened (s : Link) (a : Attempt) :
    (s.opened a).bare =
      { s.bare with
        peers := s.peers ++ [Peer.accept a]
        phase := .serving (s.peers.length + 1) s.watchFrom false } := by
  rw [opened, bare_enter]
  rfl

theorem peer?_opened (s : Link) (a : Attempt) :
    (s.opened a).peer? (s.peers.length + 1) = some (Peer.accept a) := by
  have hp : (s.opened a).peers = s.peers ++ [Peer.accept a] :=
    (congrArg peers (bare_opened s a) :)
  rw [peer?, if_neg (by omega), hp]
  simp

/-- A session is opened, and then the questions are sent. -/
theorem openSession_opened (s : Link) (a : Attempt) :
    s.openSession a =
      if (s.opened a).terms.resync then
        match (s.opened a).deliver (s.peers.length + 1) Command.resync with
        | (t, none) => t
        | (t, some _) => t.lose (s.peers.length + 1)
      else s.opened a :=
  rfl

theorem openSession_eq (s : Link) (a : Attempt) :
    s.openSession a =
      if (Peer.accept a).accepted s.questions = s.questions then
        (s.opened a).posted (s.peers.length + 1) (Peer.accept a) s.questions
      else
        ((s.opened a).posted (s.peers.length + 1) (Peer.accept a) s.questions).lose
          (s.peers.length + 1) := by
  have hp := peer?_opened s a
  have ht : (s.opened a).terms = s.terms := (congrArg terms (bare_opened s a) :)
  rw [openSession]
  -- what is done before the questions is `opened`
  show (if (s.opened a).terms.resync then _ else s.opened a) = _
  rw [ht, questions]
  split
  · have hdeliver := deliver_eq Command.resync hp
    rw [opened] at hdeliver
    rw [hdeliver]
    by_cases hall : (Peer.accept a).accepted Command.resync = Command.resync
    · rw [if_pos hall, if_pos hall]
      rfl
    · rw [if_neg hall, if_neg hall]
      rfl
  · simp [posted, posts, setPeer_self hp]

/-! ## What a deed does -/

/-- Those of some commands that the far side of a session accepts. -/
def accepted (s : Link) (n : Nat) (cs : List Command) : List Command :=
  match s.peer? n with
  | none => []
  | some p => p.accepted cs

theorem accepted_eq {s : Link} {n : Nat} {p : Peer} (h : s.peer? n = some p)
    (cs : List Command) : s.accepted n cs = p.accepted cs := by
  rw [accepted, h]

/-- What a deed does to a client, apart from what others see of it. -/
def bareAfter (s : Link) : Deed → Link
  | .attempt => s.beginAttempt.bare
  | .resolve a =>
    if a.ending = .accepted then
      let p := Peer.accept a
      { s.bare with
        peers := s.peers ++ [p.spent s.questions]
        phase :=
          if p.accepted s.questions = s.questions then
            .serving (s.peers.length + 1) s.watchFrom false
          else s.pause }
    else { s.bare with phase := s.pause }
  | .read n _ =>
    { s.bare with
      peers := s.peers.modify (n - 1) Peer.advance
      phase := .serving n s.watchFrom false }
  | .lose _ => { s.bare with phase := s.pause }
  | .watch _ true => { s.bare with phase := s.pause }
  | .watch n false =>
    { s.bare with
      peers := s.peers.modify (n - 1) (·.spent [.getStatus])
      phase :=
        if s.accepted n [.getStatus] = [.getStatus] then .serving n s.watchFrom true
        else s.pause }
  | .serve n _ r =>
    { s.bare with
      peers := s.peers.modify (n - 1) (·.spent r.commands)
      queue := s.queue.drop 1
      phase := if s.accepted n r.commands = r.commands then s.phase else s.pause }
  | .decline _ _ => { s.bare with queue := s.queue.drop 1 }
  | .close n => (s.beginClose n).bare
  | .stop => { s.bare with phase := .stopped, queue := [] }

theorem bare_posted {s : Link} {n : Nat} {p : Peer} (h : s.peer? n = some p)
    (cs : List Command) :
    (s.posted n p cs).bare =
      { s.bare with peers := s.bare.peers.modify (n - 1) (·.spent cs) } := by
  have hon := onPeer_eq s (peer?_eq_some h).1 (·.spent cs)
  rw [onPeer, h] at hon
  exact congrArg bare hon

theorem modify_last {α : Type} (f : α → α) (l : List α) (a : α) :
    (l ++ [a]).modify l.length f = l ++ [f a] := by
  induction l with
  | nil => rfl
  | cons b l ih => simpa using ih

theorem bare_opened_posted (s : Link) (a : Attempt) :
    ((s.opened a).posted (s.peers.length + 1) (Peer.accept a) s.questions).bare =
      { s.bare with
        peers := s.peers ++ [(Peer.accept a).spent s.questions]
        phase := .serving (s.peers.length + 1) s.watchFrom false } := by
  rw [bare_posted (peer?_opened s a), bare_opened, Nat.add_sub_cancel, modify_last]

theorem bare_prepare_posted {s : Link} {n : Nat} {p : Peer} (h : s.peer? n = some p)
    (r : Request) :
    ((s.prepare r).posted n p r.commands).bare =
      { s.bare with peers := s.bare.peers.modify (n - 1) (·.spent r.commands) } := by
  rw [bare_posted (peer?_prepare h r), bare_prepare]

theorem bare_endAttempt (s : Link) (a : Attempt) :
    (s.endAttempt a).bare = s.bareAfter (.resolve a) := by
  rw [endAttempt, bareAfter]
  cases a.ending with
  | accepted =>
    show (s.openSession a).bare = _
    rw [openSession_eq, if_pos rfl]
    by_cases hall : (Peer.accept a).accepted s.questions = s.questions
    · simp only [if_pos hall, bare_opened_posted]
    · simp only [if_neg hall, bare_lose, bare_opened_posted]
      rfl
  | refused => rfl
  | never => rfl

theorem bare_watchdog {s : Link} {n : Nat} {p : Peer} (h : s.peer? n = some p) :
    (s.watchdog n false).bare = s.bareAfter (.watch n false) := by
  have hb := bare_posted h [.getStatus]
  rw [watchdog_eq h, bareAfter, accepted_eq h]
  by_cases hall : p.accepted [.getStatus] = [.getStatus]
  · simp only [if_pos hall]
    exact congrArg (fun t : Link => { t with phase := .serving n s.watchFrom true }) hb
  · simp only [if_neg hall, bare_lose, hb]
    rfl

theorem bare_serve {s : Link} {n id : Nat} {p : Peer} (h : s.peer? n = some p) (r : Request) :
    ({ s with queue := s.queue.drop 1 }.serve n id r).bare = s.bareAfter (.serve n id r) := by
  let t : Link := { s with queue := s.queue.drop 1 }
  have hp : t.peer? n = some p := h
  show (t.serve n id r).bare = _
  rw [serve_eq r hp, bareAfter, accepted_eq h]
  by_cases hall : p.accepted r.commands = r.commands
  · simp only [if_pos hall, bare_answer, bare_prepare_posted hp]
    rfl
  · simp only [if_neg hall, bare_lose, bare_answer, bare_prepare_posted hp]
    rfl

/-- **What a deed does**, apart from what others see of it. -/
theorem bare_perform {s : Link} {d : Deed} (h : Ready s d) :
    (s.perform d).bare = s.bareAfter d := by
  cases h with
  | attempt phase live due => rfl
  | resolve phase live reached => exact bare_endAttempt s _
  | @read n watch probed p text phase live peer next =>
    show (s.takeFrame n text).bare = _
    rw [takeFrame, onPeer_eq s (peer?_eq_some peer).1]
    split
    · rfl
    · rw [bare_update]
      rfl
  | lose phase live finished => exact bare_lose _ _
  | @watch n watch probed p phase live peer next reached =>
    cases probed with
    | true => exact bare_lose _ _
    | false => exact bare_watchdog peer
  | serve phase live peer next early queue => exact bare_serve peer _
  | decline offline live queue =>
    show (decline _ _ _).bare = _
    rw [decline, bare_answer, bare_record, bare_prepare]
    rfl
  | close phase quitting => rfl
  | part phase due => exact bare_stop s
  | stop offline quitting => exact bare_stop s

/-- The phase after a deed. -/
theorem phase_perform {s : Link} {d : Deed} (h : Ready s d) :
    (s.perform d).phase = (s.bareAfter d).phase :=
  (congrArg phase (bare_perform h) :)

/-- The far sides after a deed. -/
theorem peers_perform {s : Link} {d : Deed} (h : Ready s d) :
    (s.perform d).peers = (s.bareAfter d).peers :=
  (congrArg peers (bare_perform h) :)

/-- The requests that wait after a deed. -/
theorem queue_perform {s : Link} {d : Deed} (h : Ready s d) :
    (s.perform d).queue = (s.bareAfter d).queue :=
  (congrArg queue (bare_perform h) :)

theorem terms_perform {s : Link} {d : Deed} (h : Ready s d) : (s.perform d).terms = s.terms := by
  have hb : (s.perform d).terms = (s.bareAfter d).terms := (congrArg terms (bare_perform h) :)
  rw [hb]
  cases d with
  | resolve a =>
    rw [bareAfter]
    split <;> rfl
  | watch n probed => cases probed <;> rfl
  | _ => rfl

theorem not_stopped_of_ready {s : Link} {d : Deed} (h : Ready s d) : s.phase ≠ .stopped := by
  intro hp
  cases h <;> simp_all [Phase.shown]

/-- Only one deed stops a client. -/
theorem stopped_perform_iff {s : Link} {d : Deed} (h : Ready s d) :
    (s.perform d).phase = .stopped ↔ d = .stop := by
  rw [phase_perform h]
  constructor
  · intro hp
    cases h with
    | attempt phase live due => cases hp
    | @resolve a due phase live reached =>
      rw [bareAfter] at hp
      split at hp
      · simp only at hp
        split at hp <;> cases hp
      · cases hp
    | read phase live peer next => cases hp
    | lose phase live finished => cases hp
    | @watch n watch probed p phase live peer next reached =>
      cases probed with
      | true => cases hp
      | false =>
        simp only [bareAfter] at hp
        split at hp <;> cases hp
    | serve phase live peer next early queue =>
      simp only [bareAfter, phase] at hp
      split at hp <;> cases hp
    | decline offline live queue =>
      have hs : s.phase = .stopped := hp
      rw [hs] at offline
      cases offline
    | close phase quitting => cases hp
    | part phase due => rfl
    | stop offline quitting => rfl
  · rintro rfl
    rfl

/-- A deed takes what waits first. -/
theorem inbox_perform {s : Link} {d : Deed} (h : Ready s d) (n : Nat) :
    s.inbox n = (d.taken n).map .text ++ (s.perform d).inbox n := by
  have hsame : (s.perform d).peers = s.peers → s.inbox n = (s.perform d).inbox n := fun hp => by
    rw [inbox, inbox, peer?_congr hp]
  have hspent : ∀ {k : Nat} {cs : List Command}, 0 < k →
      (s.perform d).peers = s.peers.modify (k - 1) (·.spent cs) →
      s.inbox n = (s.perform d).inbox n := by
    intro k cs hk hp
    rw [inbox, inbox, peer?_modify hk hp]
    split
    · rw [Option.map_map]
      simp [Function.comp_def]
    · rfl
  have hpeers := peers_perform h
  cases h with
  | @resolve a due phase live reached =>
    show s.inbox n = (s.perform (.resolve a)).inbox n
    rw [bareAfter] at hpeers
    split at hpeers
    · rw [inbox, inbox, peer?_append hpeers]
      split
      · rename_i hn
        subst hn
        have hnone : s.peer? (s.peers.length + 1) = none := by
          rw [peer?, if_neg (Nat.succ_ne_zero _)]
          exact List.getElem?_eq_none (Nat.le_refl _)
        rw [hnone]
        simp [Peer.accept]
      · rfl
    · exact hsame hpeers
  | @read k watch probed p text phase live peer next =>
    rw [inbox, inbox, peer?_modify (peer?_eq_some peer).1 hpeers, Deed.taken]
    by_cases hk : n = k
    · subst hk
      rw [if_pos rfl, if_pos rfl, peer]
      show p.inbox = _ :: p.inbox.drop 1
      rw [Peer.next] at next
      split at next
      · rename_i t rest hbox
        cases next
        rw [hbox]
        rfl
      · cases next
      · cases next
      · split at next <;> cases next
    · rw [if_neg hk, if_neg (Ne.symm hk)]
      rfl
  | watch phase live peer next reached =>
    rename_i probed p
    cases probed with
    | true => exact hsame hpeers
    | false => exact hspent (peer?_eq_some peer).1 hpeers
  | serve phase live peer next early queue => exact hspent (peer?_eq_some peer).1 hpeers
  | attempt phase live due => exact hsame hpeers
  | lose phase live finished => exact hsame hpeers
  | decline offline live queue => exact hsame hpeers
  | close phase quitting => exact hsame hpeers
  | part phase due => exact hsame hpeers
  | stop offline quitting => exact hsame hpeers

end Link
end RaceLink
