import RaceLink.Link.Run
import RaceLink.Proofs.Link.Story

/-!
# Lives

What a client does depends on the moment at which something happens to it.  A life lets anything
happen between any two deeds, and keeps what is needed to speak about all of it afterwards.

* `Move` — the next deed of the client, or something that happens to it: time passes, a far side
  acts, a handle is used.  A life is what any list of moves leads to (`Life.of`).
* `Life` — a run: the client, the requests handed in so far, all that the far sides sent, and a
  `Chapter` for every step that the client made.  The first request has the number zero, and so on.
* `Life.sound`, `Life.chapter_ready` — every deed of a life was done by a sound client, when it was
  due.
* `Life.kept` — the log is made of the stories of the chapters, and no request is ever lost: those
  that found their end in a chapter, those that wait, and those that came too late are all requests
  in the order in which they were handed in.
* `Life.link_invariant` — how the laws below are proved: what every deed keeps, and all that happens
  meanwhile, holds throughout.
-/

set_option autoImplicit false

namespace RaceLink

/-- One deed of a client, or one thing that happens to it. -/
inductive Move where
  /-- The client does what it is to do next, if there is anything. -/
  | turn
  /-- Time passes. -/
  | pass (milliseconds : Nat)
  /-- The far side of a session does something. -/
  | far (session : Nat) (what : List Inbound)
  /-- The far side of a session goes, without a word. -/
  | vanish (session : Nat)
  /-- A request is handed in through a handle. -/
  | submit (r : Request)
  /-- The client is closed through a handle. -/
  | cancel
  /-- A handle is cloned. -/
  | clone
  /-- A handle is dropped. -/
  | release
  deriving DecidableEq, Repr

/-- One step of a run: a deed, and the client that was to do it. -/
structure Chapter where
  /-- The client before the deed. -/
  before : Link
  deed : Deed

namespace Chapter

/-- The client once the deed is done. -/
def after (ch : Chapter) : Link := ch.before.perform ch.deed

/-- What is told in a chapter. -/
def events (ch : Chapter) : List Event := ch.before.story ch.deed

/-- The requests that find their end in a chapter. -/
def settled (ch : Chapter) : List (Nat × Request) :=
  match ch.deed with
  | .serve _ id r => [(id, r)]
  | .decline id r => [(id, r)]
  | .stop => ch.before.queue
  | _ => []

end Chapter

/-- A run of a client: what it has come to, and its history. -/
structure Life where
  /-- The client as it is now. -/
  link : Link
  /-- The requests that were handed in. -/
  asked : List Request
  /-- What the far sides sent, with the sessions on which they sent it. -/
  arrived : List (Nat × Inbound)
  /-- What the client did, the first deed first. -/
  chapters : List Chapter
  /-- The requests that were handed in when the client had already stopped. -/
  late : List (Nat × Request)

namespace Life

/-- The life of a client that has just been started. -/
def start (terms : Terms) (script : List Attempt) (hub : Hub) : Life :=
  { link := Link.start terms script hub, asked := [], arrived := [], chapters := [], late := [] }

/-- The life after one more deed. -/
def turned (c : Life) (d : Deed) : Life :=
  { c with link := c.link.perform d, chapters := c.chapters ++ [⟨c.link, d⟩] }

/-- What a far side can still send: nothing if there is none or it has gone. -/
def sending (s : Link) (n : Nat) (what : List Inbound) : List (Nat × Inbound) :=
  match s.peer? n with
  | none => []
  | some p => if p.gone then [] else what.map (n, ·)

/-- The life after a request was handed in. -/
def submitted (c : Life) (r : Request) : Life :=
  { c with
    link := c.link.submit c.asked.length r
    asked := c.asked ++ [r]
    late := if c.link.phase = .stopped then c.late ++ [(c.asked.length, r)] else c.late }

/-- The life after one more move. -/
def move (c : Life) : Move → Life
  | .turn =>
    match c.link.deed? with
    | none => c
    | some d => c.turned d
  | .pass ms => { c with link := { c.link with now := c.link.now + ms } }
  | .far n what =>
    { c with
      link := c.link.act (.far n what)
      arrived := c.arrived ++ sending c.link n what }
  | .vanish n => { c with link := c.link.act (.vanish n) }
  | .submit r => c.submitted r
  | .cancel => { c with link := c.link.act .cancel }
  | .clone => { c with link := c.link.act .clone }
  | .release => { c with link := c.link.act .release }

/-- The life that some moves lead to. -/
def of (terms : Terms) (script : List Attempt) (hub : Hub) (ms : List Move) : Life :=
  ms.foldl move (start terms script hub)

variable {terms : Terms} {script : List Attempt} {hub : Hub}

theorem of_append (ms : List Move) (m : Move) :
    of terms script hub (ms ++ [m]) = (of terms script hub ms).move m := by
  rw [of, List.foldl_append]
  rfl

/-! ## What happens to a client -/

/-- Something happened of which the client has not noticed anything yet. -/
structure Unnoticed (c c' : Life) : Prop where
  link : ∃ now ps cancelled handles, ps.length = c.link.peers.length ∧
    c'.link = { c.link with now := now, peers := ps, cancelled := cancelled, handles := handles }
  asked : c'.asked = c.asked
  chapters : c'.chapters = c.chapters
  late : c'.late = c.late

/-- A move is a deed that is due, or a request is handed in, or the client does not notice it. -/
theorem move_cases (c : Life) (m : Move) :
    (∃ d, c.link.Ready d ∧ c.move m = c.turned d) ∨ (∃ r, c.move m = c.submitted r) ∨
      Unnoticed c (c.move m) := by
  cases m with
  | turn =>
    rw [move]
    split
    · exact .inr (.inr ⟨⟨_, _, _, _, rfl, rfl⟩, rfl, rfl, rfl⟩)
    · rename_i d hd
      exact .inl ⟨d, Link.ready_of_deed? hd, rfl⟩
  | far n what =>
    obtain ⟨ps, hlen, he⟩ := Link.onPeer_frame c.link n (·.does what)
    exact .inr (.inr ⟨⟨_, ps, _, _, hlen, he⟩, rfl, rfl, rfl⟩)
  | vanish n =>
    obtain ⟨ps, hlen, he⟩ := Link.onPeer_frame c.link n Peer.vanish
    exact .inr (.inr ⟨⟨_, ps, _, _, hlen, he⟩, rfl, rfl, rfl⟩)
  | submit r => exact .inr (.inl ⟨r, rfl⟩)
  | pass ms => exact .inr (.inr ⟨⟨_, _, _, _, rfl, rfl⟩, rfl, rfl, rfl⟩)
  | cancel => exact .inr (.inr ⟨⟨_, _, _, _, rfl, rfl⟩, rfl, rfl, rfl⟩)
  | clone => exact .inr (.inr ⟨⟨_, _, _, _, rfl, rfl⟩, rfl, rfl, rfl⟩)
  | release => exact .inr (.inr ⟨⟨_, _, _, _, rfl, rfl⟩, rfl, rfl, rfl⟩)

/-- What does not change as long as a client does nothing.  Only a client that has stopped tells
something then: it refuses a request. -/
structure Meanwhile (s t : Link) : Prop where
  terms : t.terms = s.terms
  phase : t.phase = s.phase
  state : t.state = s.state
  model : t.model = s.model
  observers : t.hub.observers = s.hub.observers
  cell : t.stateCell = s.stateCell
  sessions : t.peers.length = s.peers.length
  events : t.events = s.events ∨
    (s.phase = .stopped ∧ ∃ id, t.events = s.events ++ [.answered id (.error .shutdown)])

theorem Meanwhile.sound {s t : Link} (h : Meanwhile s t) (hs : s.Sound) : t.Sound := by
  obtain ⟨hstate, hcell, hsession⟩ := hs
  refine ⟨?_, ?_, fun n hn => ?_⟩
  · rw [h.state, h.phase, hstate]
  · rw [h.cell, h.state, hcell]
  · rw [h.phase] at hn
    rw [h.sessions]
    exact hsession n hn

theorem Unnoticed.meanwhile {c c' : Life} (h : Unnoticed c c') : Meanwhile c.link c'.link := by
  obtain ⟨now, ps, cancelled, handles, hlen, he⟩ := h.link
  rw [he]
  exact ⟨rfl, rfl, rfl, rfl, rfl, rfl, hlen, .inl rfl⟩

theorem meanwhile_submit (s : Link) (id : Nat) (r : Request) : Meanwhile s (s.submit id r) := by
  rw [Link.submit]
  split
  · rename_i hstop
    exact ⟨rfl, rfl, rfl, rfl, rfl, rfl, rfl, .inr ⟨hstop, id, Link.events_answer s id _⟩⟩
  · exact ⟨rfl, rfl, rfl, rfl, rfl, rfl, rfl, .inl rfl⟩

/-- A move is a deed that is due, or leaves the client as it is meanwhile. -/
theorem deed_or_meanwhile (c : Life) (m : Move) :
    (∃ d, c.link.Ready d ∧ c.move m = c.turned d) ∨
      (Meanwhile c.link (c.move m).link ∧ (c.move m).chapters = c.chapters) := by
  rcases move_cases c m with hd | ⟨r, he⟩ | hu
  · exact .inl hd
  · rw [he]
    exact .inr ⟨meanwhile_submit _ _ _, rfl⟩
  · exact .inr ⟨hu.meanwhile, hu.chapters⟩

/-! ## Invariants -/

/-- What holds at the start and is kept by every move holds throughout every life. -/
theorem invariant {P : Life → Prop} (h0 : P (start terms script hub))
    (hstep : ∀ c m, P c → P (c.move m)) (ms : List Move) : P (of terms script hub ms) := by
  suffices h : ∀ (ms : List Move) (c : Life), P c → P (ms.foldl move c) from h ms _ h0
  intro ms
  induction ms with
  | nil => exact fun _ hc => hc
  | cons m ms ih => exact fun c hc => ih _ (hstep c m hc)

/-- **Every client is sound**, at every moment of its life. -/
theorem sound (ms : List Move) : (of terms script hub ms).link.Sound := by
  refine invariant (P := fun c => c.link.Sound) (Link.sound_start terms script hub) ?_ ms
  intro c m hc
  obtain ⟨d, hd, he⟩ | ⟨hm, -⟩ := deed_or_meanwhile c m
  · rw [he]
    exact hc.perform hd
  · exact hm.sound hc

/-- What holds of a client at the start, and is kept by its deeds and by all that happens
meanwhile, holds throughout its life. -/
theorem link_invariant {P : Link → Prop} (h0 : P (Link.start terms script hub))
    (hdeed : ∀ s d, s.Sound → s.Ready d → P s → P (s.perform d))
    (hmeanwhile : ∀ s t, Meanwhile s t → P s → P t) (ms : List Move) :
    P (of terms script hub ms).link := by
  refine (invariant (P := fun c => c.link.Sound ∧ P c.link)
    ⟨Link.sound_start terms script hub, h0⟩ ?_ ms).2
  intro c m hc
  obtain ⟨d, hd, he⟩ | ⟨hm, -⟩ := deed_or_meanwhile c m
  · rw [he]
    exact ⟨hc.1.perform hd, hdeed _ _ hc.1 hd hc.2⟩
  · exact ⟨hm.sound hc.1, hmeanwhile _ _ hm hc.2⟩

/-- Its terms stay the same. -/
theorem terms_eq (ms : List Move) : (of terms script hub ms).link.terms = terms :=
  link_invariant (P := fun s => s.terms = terms) rfl
    (fun _ _ _ hd h => (Link.terms_perform hd).trans h) (fun _ _ hm h => hm.terms.trans h) ms

/-- Every deed of a life was done by a sound client, when it was due. -/
theorem chapter_ready (ms : List Move) :
    ∀ ch ∈ (of terms script hub ms).chapters, ch.before.Sound ∧ ch.before.Ready ch.deed := by
  refine (invariant
    (P := fun c => c.link.Sound ∧ ∀ ch ∈ c.chapters, ch.before.Sound ∧ ch.before.Ready ch.deed)
    ⟨Link.sound_start terms script hub, fun ch hch => by cases hch⟩ ?_ ms).2
  intro c m hc
  obtain ⟨d, hd, he⟩ | ⟨hm, hch⟩ := deed_or_meanwhile c m
  · rw [he]
    refine ⟨hc.1.perform hd, fun ch hmem => ?_⟩
    rcases List.mem_append.1 hmem with hold | hnew
    · exact hc.2 ch hold
    · rw [List.mem_singleton.1 hnew]
      exact ⟨hc.1, hd⟩
  · rw [hch]
    exact ⟨hm.sound hc.1, hc.2⟩

/-- What holds of a client throughout its life holds before each of its deeds. -/
theorem chapter_invariant {P : Link → Prop}
    (h : ∀ ms : List Move, P (of terms script hub ms).link) (ms : List Move) :
    ∀ ch ∈ (of terms script hub ms).chapters, P ch.before := by
  suffices hboth : ∀ ms : List Move,
      ∀ ch ∈ (of terms script hub ms.reverse).chapters, P ch.before by
    have hms := hboth ms.reverse
    rwa [List.reverse_reverse] at hms
  intro ms
  -- the last move goes first: the chapter that it adds begins where the moves before it end
  induction ms with
  | nil => exact fun ch hch => by cases hch
  | cons m ms ih =>
    rw [List.reverse_cons, of_append]
    obtain ⟨d, -, he⟩ | ⟨-, hch⟩ := deed_or_meanwhile (of terms script hub ms.reverse) m
    · rw [he]
      intro ch hmem
      rcases List.mem_append.1 hmem with hold | hnew
      · exact ih ch hold
      · rw [List.mem_singleton.1 hnew]
        exact h ms.reverse
    · rw [hch]
      exact ih

/-! ## What a history keeps -/

/-- What is told of a request that comes too late or is refused by a client that stops. -/
def refusal (e : Nat × Request) : Event := .answered e.1 (.error .shutdown)

/-- Requests with their numbers. -/
def numbered (rs : List Request) : List (Nat × Request) := rs.zipIdx.map fun e => (e.2, e.1)

theorem numbered_append (rs : List Request) (r : Request) :
    numbered (rs ++ [r]) = numbered rs ++ [(rs.length, r)] := by
  simp [numbered, List.zipIdx_append]

theorem settled_append_queue {s : Link} {d : Deed} (h : s.Ready d) :
    Chapter.settled ⟨s, d⟩ ++ (s.perform d).queue = s.queue := by
  rw [Link.queue_perform h]
  cases h with
  | attempt phase live due => rfl
  | @resolve a due phase live reached =>
    rw [Link.bareAfter]
    split <;> rfl
  | read phase live peer next => rfl
  | lose phase live finished => rfl
  | @watch n watch probed p phase live peer next reached => cases probed <;> rfl
  | serve phase live peer next early queue =>
    show [_] ++ s.queue.drop 1 = s.queue
    rw [queue]
    rfl
  | decline offline live queue =>
    show [_] ++ s.queue.drop 1 = s.queue
    rw [queue]
    rfl
  | close phase quitting => rfl
  | part phase due => exact List.append_nil _
  | stop offline quitting => exact List.append_nil _

/-- The log, the history and the requests are about the same life. -/
structure Kept (c : Life) : Prop where
  sound : c.link.Sound
  /-- The log is made of the stories of the chapters, and of the refusals of a client that has
  stopped. -/
  log : c.link.events = c.chapters.flatMap Chapter.events ++ c.late.map refusal
  /-- No request is lost: those that found their end in a chapter, those that wait and those that
  came too late are all requests, in the order in which they were handed in. -/
  requests : c.chapters.flatMap Chapter.settled ++ c.link.queue ++ c.late = numbered c.asked
  queue : c.link.phase = .stopped → c.link.queue = []
  late : c.link.phase ≠ .stopped → c.late = []

theorem Kept.turned {c : Life} {d : Deed} (h : c.Kept) (hd : c.link.Ready d) :
    (c.turned d).Kept := by
  have hlate := h.late (Link.not_stopped_of_ready hd)
  refine ⟨h.sound.perform hd, ?_, ?_, fun hp => ?_, fun _ => hlate⟩
  · show (c.link.perform d).events =
      (c.chapters ++ [Chapter.mk c.link d]).flatMap Chapter.events ++ c.late.map refusal
    rw [Link.events_perform h.sound hd, h.log, hlate]
    simp [Chapter.events]
  · show (c.chapters ++ [Chapter.mk c.link d]).flatMap Chapter.settled ++ (c.link.perform d).queue
      ++ c.late = numbered c.asked
    rw [← h.requests, ← settled_append_queue hd]
    simp
  · obtain rfl := (Link.stopped_perform_iff hd).1 hp
    exact Link.queue_perform hd

/-- A client that has stopped refuses a request at once. -/
theorem Kept.refused {c : Life} (h : c.Kept) (hstop : c.link.phase = .stopped) (r : Request) :
    (c.submitted r).Kept := by
  have hm := meanwhile_submit c.link c.asked.length r
  have hl : c.link.submit c.asked.length r =
      c.link.answer c.asked.length (.error .shutdown) := if_pos hstop
  refine ⟨hm.sound h.sound, ?_, ?_, fun _ => ?_, fun hp => absurd (hm.phase.trans hstop) hp⟩
  · show (c.link.submit c.asked.length r).events =
      c.chapters.flatMap Chapter.events ++ List.map refusal (ite _ _ _)
    rw [hl, if_pos hstop, Link.events_answer, h.log, List.map_append, List.append_assoc]
    rfl
  · show c.chapters.flatMap Chapter.settled ++ (c.link.submit c.asked.length r).queue
      ++ (ite _ _ _) = numbered (c.asked ++ [r])
    rw [hl, if_pos hstop, numbered_append, ← h.requests, ← List.append_assoc]
    rfl
  · show (c.link.submit c.asked.length r).queue = []
    rw [hl]
    exact h.queue hstop

/-- Any other client lets a request wait behind those that already do. -/
theorem Kept.queued {c : Life} (h : c.Kept) (hstop : c.link.phase ≠ .stopped) (r : Request) :
    (c.submitted r).Kept := by
  have hm := meanwhile_submit c.link c.asked.length r
  have hl : c.link.submit c.asked.length r =
      { c.link with queue := c.link.queue ++ [(c.asked.length, r)] } := if_neg hstop
  refine ⟨hm.sound h.sound, ?_, ?_, fun hp => absurd (hm.phase.symm.trans hp) hstop, fun _ => ?_⟩
  · show (c.link.submit c.asked.length r).events =
      c.chapters.flatMap Chapter.events ++ List.map refusal (ite _ _ _)
    rw [hl, if_neg hstop]
    exact h.log
  · show c.chapters.flatMap Chapter.settled ++ (c.link.submit c.asked.length r).queue
      ++ (ite _ _ _) = numbered (c.asked ++ [r])
    rw [hl, if_neg hstop, numbered_append, ← h.requests, h.late hstop]
    simp
  · show ite _ _ _ = _
    rw [if_neg hstop]
    exact h.late hstop

theorem Kept.unnoticed {c c' : Life} (h : c.Kept) (hu : Unnoticed c c') : c'.Kept := by
  obtain ⟨now, ps, cancelled, handles, -, he⟩ := hu.link
  refine ⟨hu.meanwhile.sound h.sound, ?_, ?_, ?_, ?_⟩
  · rw [he, hu.chapters, hu.late]
    exact h.log
  · rw [he, hu.chapters, hu.late, hu.asked]
    exact h.requests
  · rw [he]
    exact h.queue
  · rw [he, hu.late]
    exact h.late

/-- **A history keeps everything**, at every moment of a life. -/
theorem kept (ms : List Move) : (of terms script hub ms).Kept := by
  refine invariant (P := Kept)
    ⟨Link.sound_start terms script hub, rfl, rfl, fun _ => rfl, fun _ => rfl⟩ ?_ ms
  intro c m hc
  obtain ⟨d, hd, he⟩ | ⟨r, he⟩ | hu := move_cases c m
  · rw [he]
    exact hc.turned hd
  · rw [he]
    by_cases hstop : c.link.phase = .stopped
    · exact hc.refused hstop r
    · exact hc.queued hstop r
  · exact hc.unnoticed hu

/-- What is picked from a log: what is picked from the stories of the chapters, and from the
refusals of a client that has stopped. -/
theorem Kept.picked {c : Life} (h : c.Kept) {α : Type} {f : Event → Option α}
    {g : Chapter → List α} (hg : ∀ ch : Chapter, ch.events.filterMap f = g ch) :
    c.link.events.filterMap f =
      c.chapters.flatMap g ++ c.late.filterMap fun e => f (refusal e) := by
  rw [h.log, List.filterMap_append, List.filterMap_flatMap, List.filterMap_map]
  congr 2
  funext ch
  exact hg ch

/-- If nothing is picked from a refusal, only the chapters count. -/
theorem Kept.picked_chapters {c : Life} (h : c.Kept) {α : Type} {f : Event → Option α}
    {g : Chapter → List α} (hf : ∀ e, f (refusal e) = none)
    (hg : ∀ ch : Chapter, ch.events.filterMap f = g ch) :
    c.link.events.filterMap f = c.chapters.flatMap g := by
  have hlate : (c.late.filterMap fun e => f (refusal e)) = [] :=
    List.filterMap_eq_nil_iff.2 fun e _ => hf e
  rw [h.picked hg, hlate, List.append_nil]

end Life
end RaceLink
