import RaceLink.Proofs.Link.Outbound
import RaceLink.Proofs.Link.Settle

/-!
# How requests are answered

A request is answered once, and the answer says what became of it: it was sent in full, or not at
all because no session was open, or in part because the session failed, or never taken.

* `Chapter.answers`, `Chapter.frames` — the answers that a chapter gives and the texts that it
  sends, read off its story.
* `Life.answersTo`, `Life.framesOf` — the answers to a request, and all that was ever sent for it.
* `Life.Took` — a request was taken, while a certain session or none was held.
* `Life.Truthful`, `Life.replies_truthful` — **answers are true**, in all lives.
-/

set_option autoImplicit false

namespace RaceLink

/-- The answer that an event gives. -/
def Event.answer? : Event → Option (Nat × Except Fault Unit)
  | .answered id outcome => some (id, outcome)
  | _ => none

/-- The request that an event warns of, with its name. -/
def Event.dropped? : Event → Option (Nat × String)
  | .dropped id name => some (id, name)
  | _ => none

namespace Chapter

/-- The answers that a chapter gives. -/
def answers (ch : Chapter) : List (Nat × Except Fault Unit) :=
  match ch.deed with
  | .serve n id r => [(id, ch.before.verdict n r.commands)]
  | .decline id r => [(id, .error (.notConnected r.command.name))]
  | .stop => ch.before.queue.map fun e => (e.1, .error .shutdown)
  | _ => []

/-- The texts that a chapter sends, with their sessions. -/
def frames (ch : Chapter) : List (Nat × String) := ch.events.filterMap Event.frame?

theorem filterMap_posts_frame (n : Nat) (cs : List Command) :
    (Link.posts n cs).filterMap Event.frame? = cs.map fun c => (n, c.text) := by
  rw [Link.posts, List.filterMap_map]
  exact congrFun (List.filterMap_eq_map (f := fun c : Command => (n, c.text))) cs

/-- The answers of a chapter can be read off its story. -/
theorem answers_events (ch : Chapter) : ch.events.filterMap Event.answer? = ch.answers := by
  obtain ⟨s, d⟩ := ch
  have hpart : ∀ e : Event, e.isOuter = false → e.answer? = none := by
    intro e he
    cases e <;> first | rfl | cases he
  rw [events, Link.filterMap_outer hpart]
  cases d with
  | resolve a =>
    rw [Link.outerStory]
    split
    · exact Link.filterMap_posts (fun _ => rfl) _
    · rfl
  | watch n probed =>
    cases probed with
    | true => rfl
    | false => exact Link.filterMap_posts (fun _ => rfl) _
  | serve n id r =>
    rw [Link.outerStory, List.filterMap_append, Link.filterMap_posts fun _ => rfl]
    rfl
  | stop =>
    rw [Link.outerStory, List.filterMap_map]
    exact congrFun (List.filterMap_eq_map
      (f := fun e : Nat × Request => (e.1, (.error .shutdown : Except Fault Unit)))) s.queue
  | _ => rfl

/-- A chapter answers the requests that find their end in it. -/
theorem answers_settled (ch : Chapter) : ch.answers.map Prod.fst = Life.numbers ch.settled := by
  obtain ⟨s, d⟩ := ch
  cases d with
  | stop => exact List.map_map
  | _ => rfl

theorem frames_eq (ch : Chapter) :
    ch.frames = (ch.before.outerStory ch.deed).filterMap Event.frame? := by
  have hpart : ∀ e : Event, e.isOuter = false → e.frame? = none := by
    intro e he
    cases e <;> first | rfl | cases he
  exact Link.filterMap_outer hpart ch.before ch.deed

/-- What is sent for a request that is served: those of its commands that are accepted. -/
theorem frames_serve (s : Link) (n id : Nat) (r : Request) :
    frames ⟨s, .serve n id r⟩ = (s.accepted n r.commands).map fun c => (n, c.text) := by
  rw [frames_eq, Link.outerStory, List.filterMap_append, filterMap_posts_frame]
  exact List.append_nil _

theorem frames_decline (s : Link) (id : Nat) (r : Request) : frames ⟨s, .decline id r⟩ = [] := by
  rw [frames_eq]
  rfl

theorem frames_stop (s : Link) : frames ⟨s, .stop⟩ = [] := by
  rw [frames_eq, Link.outerStory, List.filterMap_map]
  exact List.filterMap_eq_nil_iff.2 fun _ _ => rfl

end Chapter

namespace Life

/-- The answers that were given to a request. -/
def answersTo (c : Life) (id : Nat) : List (Except Fault Unit) :=
  (c.link.events.filterMap Event.answer?).filterMap fun e => if e.1 = id then some e.2 else none

/-- All that was ever sent for a request: the texts, with their sessions. -/
def framesOf (c : Life) (id : Nat) : List (Nat × String) := (c.endings id).flatMap Chapter.frames

/-- The warnings that a request was dropped, each with the name of its command. -/
def warningsOf (c : Life) (id : Nat) : List String :=
  (c.link.events.filterMap Event.dropped?).filterMap fun e => if e.1 = id then some e.2 else none

/-- A request was taken, while the given session or none was held. -/
def Took (c : Life) (id : Nat) (r : Request) (held : Option Nat) : Prop :=
  ∃ ch ∈ c.chapters, ch.taken? = some (id, r) ∧ ch.before.phase.session? = held

/-- The client is inside the close of a session. -/
def Closing (c : Life) : Prop := ∃ n moment, c.link.phase = .closing n moment

/-- Answers are true. -/
structure Truthful (t : Terms) (c : Life) : Prop where
  /-- All that was ever sent, as the log tells it, was sent in the chapters, in this order. -/
  logged : c.link.events.filterMap Event.frame? = c.chapters.flatMap Chapter.frames
  /-- No request is answered twice. -/
  at_most_one : ∀ id, (c.answersTo id).length ≤ 1
  /-- A client that has to wait, and is not inside the close of a session, has answered every
  request, and none waits. -/
  all_answered : c.link.deed? = none → ¬ c.Closing →
    c.link.queue = [] ∧ ∀ id, id < c.asked.length → ∃ outcome, c.answersTo id = [outcome]
  /-- There are four kinds of answers. -/
  kinds : ∀ id, ∀ outcome ∈ c.answersTo id, outcome = .ok () ∨
    (∃ name, outcome = .error (.notConnected name)) ∨
    (∃ reason, outcome = .error (.transport reason none)) ∨ outcome = .error .shutdown
  /-- Requests are taken as they were handed in. -/
  took : ∀ id r held, c.Took id r held → c.asked[id]? = some r
  /-- `ok` means that the texts of the request, and nothing else, were accepted by the session that
  was held when it was taken. -/
  ok : ∀ id, .ok () ∈ c.answersTo id ↔
    ∃ n r, c.Took id r (some n) ∧ c.framesOf id = r.commands.map fun m => (n, m.text)
  /-- `not connected` means that no session was held when the request was taken. -/
  not_connected : ∀ id name, .error (.notConnected name) ∈ c.answersTo id ↔
    ∃ r, c.Took id r none ∧ name = r.command.name
  /-- Then nothing was ever sent for it, and there is exactly one warning. -/
  dropped : ∀ id name, .error (.notConnected name) ∈ c.answersTo id →
    c.framesOf id = [] ∧ c.warningsOf id = [name]
  /-- A transport error means that the session that was held did not accept a text.  What came
  before it was sent, nothing after it was, and the session was given up. -/
  transport : ∀ id reason source, .error (.transport reason source) ∈ c.answersTo id →
    ∃ n r sent failed rest, c.Took id r (some n) ∧ r.commands = sent ++ failed :: rest ∧
      (c.framesOf id = sent.map fun m => (n, m.text)) ∧
      ∃ ch ∈ c.chapters, ch.taken? = some (id, r) ∧ .lost n ∈ ch.events ∧
        ch.after.phase.session? = none ∧ ∃ p, ch.after.peer? n = some p ∧ p.send = .error reason
  /-- `shutdown` means that the client has stopped and never took the request. -/
  shutdown : ∀ id, .error .shutdown ∈ c.answersTo id ↔
    id < c.asked.length ∧ c.link.phase = .stopped ∧ ∀ r held, ¬ c.Took id r held
  /-- Then nothing was ever sent for it. -/
  unsent : ∀ id, .error .shutdown ∈ c.answersTo id → c.framesOf id = []
  /-- A client that was told to stop takes no more requests, and stops. -/
  cancelled : (∀ ch ∈ c.chapters, ch.taken?.isSome → ch.before.cancelled = false) ∧
    (c.link.cancelled = true → c.link.deed? = none → ¬ c.Closing → c.link.phase = .stopped)
  /-- After some more turns the client has to wait. -/
  settles : 0 < t.delay → ∃ k, ((List.replicate k Move.turn).foldl move c).link.deed? = none

/-! ## Answers -/

variable {c : Life}

/-- If no key comes twice, looking up one that comes finds its value and no other. -/
theorem lookup_eq {α : Type} {l : List (Nat × α)} (h : (l.map Prod.fst).Nodup) {id : Nat} {a : α}
    (ha : (id, a) ∈ l) : (l.filterMap fun e => if e.1 = id then some e.2 else none) = [a] := by
  induction l with
  | nil => cases ha
  | cons e l ih =>
    rw [List.map_cons, List.nodup_cons] at h
    rw [List.filterMap_cons]
    rcases List.mem_cons.1 ha with rfl | hmem
    · have hnone : (l.filterMap fun e => if e.1 = id then some e.2 else none) = [] := by
        rw [List.filterMap_eq_nil_iff]
        intro e he
        exact if_neg fun hid => h.1 (List.mem_map.2 ⟨e, he, hid⟩)
      rw [if_pos rfl, hnone]
    · have hne : e.1 ≠ id := fun hid => h.1 (List.mem_map.2 ⟨(id, a), hmem, hid.symm⟩)
      rw [if_neg hne]
      exact ih h.2 hmem

theorem mem_lookup {α : Type} {l : List (Nat × α)} {id : Nat} {a : α} :
    a ∈ l.filterMap (fun e => if e.1 = id then some e.2 else none) ↔ (id, a) ∈ l := by
  rw [List.mem_filterMap]
  constructor
  · rintro ⟨⟨k, b⟩, hmem, hif⟩
    split at hif
    · rename_i hk
      obtain rfl := Option.some_inj.1 hif
      obtain rfl : k = id := hk
      exact hmem
    · cases hif
  · exact fun h => ⟨(id, a), h, if_pos rfl⟩

/-- All answers: those of the chapters, and those to requests that came too late. -/
theorem Kept.answers_log (h : c.Kept) : c.link.events.filterMap Event.answer? =
    c.chapters.flatMap Chapter.answers ++ c.late.map fun e => (e.1, .error .shutdown) := by
  rw [h.picked Chapter.answers_events]
  exact congrArg (_ ++ ·) (congrFun (List.filterMap_eq_map
    (f := fun e : Nat × Request => (e.1, (.error .shutdown : Except Fault Unit)))) c.late)

/-- The requests that were answered. -/
theorem Kept.answered_keys (h : c.Kept) : (c.link.events.filterMap Event.answer?).map Prod.fst =
    c.chapters.flatMap (fun ch => Life.numbers ch.settled) ++ Life.numbers c.late := by
  rw [h.answers_log, List.map_append, List.map_flatMap, List.map_map]
  congr 2
  funext ch
  exact ch.answers_settled

theorem Kept.answered_nodup (h : c.Kept) :
    ((c.link.events.filterMap Event.answer?).map Prod.fst).Nodup := by
  have hall : (List.range c.asked.length).Nodup := List.nodup_range
  rw [← h.numbers, List.append_assoc] at hall
  rw [h.answered_keys]
  exact hall.sublist ((List.sublist_append_right _ _).append_left _)

theorem Kept.answersTo_eq (h : c.Kept) {id : Nat} {outcome : Except Fault Unit}
    (ho : outcome ∈ c.answersTo id) : c.answersTo id = [outcome] :=
  lookup_eq h.answered_nodup (mem_lookup.1 ho)

/-- An answer was given by a chapter, or because the request came too late. -/
theorem Kept.mem_answersTo (h : c.Kept) {id : Nat} {outcome : Except Fault Unit} :
    outcome ∈ c.answersTo id ↔ (∃ ch ∈ c.chapters, (id, outcome) ∈ ch.answers) ∨
      (id ∈ Life.numbers c.late ∧ outcome = .error .shutdown) := by
  rw [answersTo, mem_lookup, h.answers_log, List.mem_append, List.mem_flatMap, List.mem_map]
  constructor
  · rintro (hch | ⟨e, he, hpair⟩)
    · exact .inl hch
    · obtain ⟨rfl, rfl⟩ := Prod.mk.inj hpair
      exact .inr ⟨List.mem_map_of_mem he, rfl⟩
  · rintro (hch | ⟨hid, rfl⟩)
    · exact .inl hch
    · obtain ⟨e, he, rfl⟩ := List.mem_map.1 hid
      exact .inr ⟨e, he, rfl⟩

/-- The three ways in which a chapter answers a request. -/
theorem mem_answers {ch : Chapter} {id : Nat} {outcome : Except Fault Unit} :
    (id, outcome) ∈ ch.answers ↔
      (∃ n r, ch.deed = .serve n id r ∧ outcome = ch.before.verdict n r.commands) ∨
      (∃ r, ch.deed = .decline id r ∧ outcome = .error (.notConnected r.command.name)) ∨
      (ch.deed = .stop ∧ id ∈ Life.numbers ch.before.queue ∧ outcome = .error .shutdown) := by
  constructor
  · intro h
    obtain ⟨s, d⟩ := ch
    cases d with
    | serve n id' r =>
      obtain ⟨rfl, rfl⟩ := Prod.mk.inj (List.mem_singleton.1 h)
      exact .inl ⟨n, r, rfl, rfl⟩
    | decline id' r =>
      obtain ⟨rfl, rfl⟩ := Prod.mk.inj (List.mem_singleton.1 h)
      exact .inr (.inl ⟨r, rfl, rfl⟩)
    | stop =>
      obtain ⟨e, he, hpair⟩ := List.mem_map.1 h
      obtain ⟨rfl, rfl⟩ := Prod.mk.inj hpair
      exact .inr (.inr ⟨rfl, List.mem_map_of_mem he, rfl⟩)
    | _ => cases h
  · rintro (⟨n, r, hd, rfl⟩ | ⟨r, hd, rfl⟩ | ⟨hd, hid, rfl⟩)
    · rw [Chapter.answers, hd]
      exact List.mem_singleton_self _
    · rw [Chapter.answers, hd]
      exact List.mem_singleton_self _
    · obtain ⟨e, he, rfl⟩ := List.mem_map.1 hid
      rw [Chapter.answers, hd]
      exact List.mem_map.2 ⟨e, he, rfl⟩

/-! ## Taking requests -/

variable {terms : Terms} {script : List Attempt} {hub : Hub}

/-- A request that is taken while a session is held is served on it. -/
theorem took_some {ms : List Move} {id n : Nat} {r : Request} :
    (of terms script hub ms).Took id r (some n) ↔
      ∃ ch ∈ (of terms script hub ms).chapters, ch.deed = .serve n id r := by
  constructor
  · rintro ⟨⟨s, d⟩, hch, htaken, hheld⟩
    refine ⟨⟨s, d⟩, hch, ?_⟩
    have hready := (chapter_ready ms _ hch).2
    cases hready with
    | @serve k id' watch probed p r' rest phase live peer next early queue =>
      obtain ⟨rfl, rfl⟩ := Prod.mk.inj (Option.some_inj.1 htaken)
      have hheld : s.phase.session? = some n := hheld
      have hk : s.phase.session? = some k := congrArg Phase.session? phase
      obtain rfl := Option.some_inj.1 (hk.symm.trans hheld)
      rfl
    | decline offline live queue =>
      have hnone : s.phase.session? = none := Phase.session?_of_connecting offline
      exact absurd (hnone.symm.trans hheld) (by simp)
    | _ => cases htaken
  · rintro ⟨⟨s, d⟩, hch, rfl⟩
    refine ⟨_, hch, rfl, ?_⟩
    have hready := (chapter_ready ms _ hch).2
    cases hready with
    | serve phase live peer next early queue => exact congrArg Phase.session? phase

/-- A request that is taken while no session is held is turned down. -/
theorem took_none {ms : List Move} {id : Nat} {r : Request} :
    (of terms script hub ms).Took id r none ↔
      ∃ ch ∈ (of terms script hub ms).chapters, ch.deed = .decline id r := by
  constructor
  · rintro ⟨⟨s, d⟩, hch, htaken, hheld⟩
    refine ⟨⟨s, d⟩, hch, ?_⟩
    have hready := (chapter_ready ms _ hch).2
    cases hready with
    | @serve k id' watch probed p r' rest phase live peer next early queue =>
      have hk : s.phase.session? = some k := congrArg Phase.session? phase
      exact absurd (hk.symm.trans hheld) (by simp)
    | decline offline live queue =>
      obtain ⟨rfl, rfl⟩ := Prod.mk.inj (Option.some_inj.1 htaken)
      rfl
    | _ => cases htaken
  · rintro ⟨⟨s, d⟩, hch, rfl⟩
    refine ⟨_, hch, rfl, ?_⟩
    have hready := (chapter_ready ms _ hch).2
    cases hready with
    | decline offline live queue => exact Phase.session?_of_connecting offline

theorem settled_of_taken {ch : Chapter} {id : Nat} {r : Request} (h : ch.taken? = some (id, r)) :
    (id, r) ∈ ch.settled := by
  refine (taken_sublist ch).subset ?_
  rw [h]
  exact List.mem_singleton_self _

theorem Kept.framesOf_eq (h : c.Kept) {ch : Chapter} (hch : ch ∈ c.chapters) {id : Nat}
    {r : Request} (hid : (id, r) ∈ ch.settled) : c.framesOf id = ch.frames := by
  rw [framesOf, h.endings_eq hch (List.mem_map_of_mem hid)]
  exact List.append_nil _

/-- What was sent for a request that was served. -/
theorem Kept.framesOf_serve (h : c.Kept) {ch : Chapter} (hch : ch ∈ c.chapters) {n id : Nat}
    {r : Request} (hd : ch.deed = .serve n id r) :
    c.framesOf id = (ch.before.accepted n r.commands).map fun m => (n, m.text) := by
  obtain ⟨s, d⟩ := ch
  obtain rfl : d = .serve n id r := hd
  have hid : (id, r) ∈ Chapter.settled ⟨s, .serve n id r⟩ := List.mem_singleton_self _
  rw [h.framesOf_eq hch hid, Chapter.frames_serve]

theorem Kept.framesOf_decline (h : c.Kept) {ch : Chapter} (hch : ch ∈ c.chapters) {id : Nat}
    {r : Request} (hd : ch.deed = .decline id r) : c.framesOf id = [] := by
  obtain ⟨s, d⟩ := ch
  obtain rfl : d = .decline id r := hd
  have hid : (id, r) ∈ Chapter.settled ⟨s, .decline id r⟩ := List.mem_singleton_self _
  rw [h.framesOf_eq hch hid, Chapter.frames_decline]

/-- All was accepted if as many texts were sent as there were commands. -/
theorem accepted_of_frames {s : Link} {n k : Nat} {cs : List Command}
    (h : ((s.accepted n cs).map fun m => (n, m.text)) = cs.map fun m => (k, m.text)) :
    s.accepted n cs = cs := by
  have hlen := congrArg List.length h
  rw [List.length_map, List.length_map] at hlen
  exact (Link.accepted_prefix s n cs).eq_of_length hlen

theorem verdict_ok_iff {s : Link} {n : Nat} {cs : List Command} :
    .ok () = s.verdict n cs ↔ s.accepted n cs = cs := by
  rw [Link.verdict]
  split
  · rename_i hall
    exact iff_of_true rfl hall
  · rename_i hcut
    exact iff_of_false (fun h => by cases h) hcut

/-- A client that has stopped was stopped by a chapter, and by no other than its last one. -/
theorem stopped_of_stop (ms : List Move) : ∀ ch ∈ (of terms script hub ms).chapters,
    ch.deed = .stop → (of terms script hub ms).link.phase = .stopped := by
  refine invariant (P := fun c => ∀ ch ∈ c.chapters, ch.deed = .stop → c.link.phase = .stopped)
    (fun ch hch => by cases hch) ?_ ms
  intro c m hc
  obtain ⟨d, hd, he⟩ | ⟨hm, hch⟩ := deed_or_meanwhile c m
  · rw [he]
    intro ch hmem hstop
    rcases List.mem_append.1 hmem with hold | hnew
    · exact absurd (hc ch hold hstop) (Link.not_stopped_of_ready hd)
    · rw [List.mem_singleton.1 hnew] at hstop
      exact (Link.stopped_perform_iff hd).2 hstop
  · rw [hch]
    intro ch hmem hstop
    exact hm.phase.trans (hc ch hmem hstop)

/-- A client that has to wait lets no request wait, unless it is inside the close of a session. -/
theorem Kept.queue_of_waiting (h : c.Kept) (hwait : c.link.deed? = none) (hclosing : ¬ c.Closing) :
    c.link.queue = [] := by
  cases Link.waits_of_deed? hwait with
  | stopped phase => exact h.queue phase
  | closing phase early => exact absurd ⟨_, _, phase⟩ hclosing
  | offline offline live queue handles => exact queue
  | serving phase live peer next early queue handles => exact queue

/-- A client that was told to stop has stopped once it has to wait, unless it is inside the close
of a session. -/
theorem stopped_of_cancelled (hcancelled : c.link.cancelled = true) (hwait : c.link.deed? = none)
    (hclosing : ¬ c.Closing) : c.link.phase = .stopped := by
  cases Link.waits_of_deed? hwait with
  | stopped phase => exact phase
  | closing phase early => exact absurd ⟨_, _, phase⟩ hclosing
  | offline offline live queue handles => exact absurd (hcancelled.symm.trans live) (by decide)
  | serving phase live peer next early queue handles =>
    exact absurd (hcancelled.symm.trans live) (by decide)

/-! ## What each answer means -/

theorem ok_iff (ms : List Move) (id : Nat) : .ok () ∈ (of terms script hub ms).answersTo id ↔
    ∃ n r, (of terms script hub ms).Took id r (some n) ∧
      (of terms script hub ms).framesOf id = r.commands.map fun m => (n, m.text) := by
  have hkept : (of terms script hub ms).Kept := kept ms
  rw [hkept.mem_answersTo]
  constructor
  · rintro (⟨ch, hch, hanswer⟩ | ⟨-, hbad⟩)
    · obtain ⟨n, r, hd, hok⟩ | ⟨r, -, hbad⟩ | ⟨-, -, hbad⟩ := mem_answers.1 hanswer
      · refine ⟨n, r, took_some.2 ⟨ch, hch, hd⟩, ?_⟩
        rw [hkept.framesOf_serve hch hd, verdict_ok_iff.1 hok]
      · cases hbad
      · cases hbad
    · cases hbad
  · rintro ⟨n, r, htook, hframes⟩
    obtain ⟨ch, hch, hd⟩ := took_some.1 htook
    rw [hkept.framesOf_serve hch hd] at hframes
    have hok := verdict_ok_iff.2 (accepted_of_frames hframes)
    exact .inl ⟨ch, hch, mem_answers.2 (.inl ⟨n, r, hd, hok⟩)⟩

theorem not_connected_iff (ms : List Move) (id : Nat) (name : String) :
    .error (.notConnected name) ∈ (of terms script hub ms).answersTo id ↔
      ∃ r, (of terms script hub ms).Took id r none ∧ name = r.command.name := by
  have hkept : (of terms script hub ms).Kept := kept ms
  rw [hkept.mem_answersTo]
  constructor
  · rintro (⟨ch, hch, hanswer⟩ | ⟨-, hbad⟩)
    · obtain ⟨n, r, -, hverdict⟩ | ⟨r, hd, hname⟩ | ⟨-, -, hbad⟩ := mem_answers.1 hanswer
      · rw [Link.verdict] at hverdict
        split at hverdict <;> cases hverdict
      · cases hname
        exact ⟨r, took_none.2 ⟨ch, hch, hd⟩, rfl⟩
      · cases hbad
    · cases hbad
  · rintro ⟨r, htook, rfl⟩
    obtain ⟨ch, hch, hd⟩ := took_none.1 htook
    exact .inl ⟨ch, hch, mem_answers.2 (.inr (.inl ⟨r, hd, rfl⟩))⟩

/-- The warnings of a chapter. -/
def droppedIn (ch : Chapter) : List (Nat × String) :=
  match ch.deed with
  | .decline id r => [(id, r.command.name)]
  | _ => []

theorem dropped_events (ch : Chapter) : ch.events.filterMap Event.dropped? = droppedIn ch := by
  obtain ⟨s, d⟩ := ch
  have hpart : ∀ e : Event, e.isOuter = false → e.dropped? = none := by
    intro e he
    cases e <;> first | rfl | cases he
  rw [Chapter.events, Link.filterMap_outer hpart]
  cases d with
  | resolve a =>
    rw [Link.outerStory]
    split
    · exact Link.filterMap_posts (fun _ => rfl) _
    · rfl
  | watch n probed =>
    cases probed with
    | true => rfl
    | false => exact Link.filterMap_posts (fun _ => rfl) _
  | serve n id r =>
    rw [Link.outerStory, List.filterMap_append, Link.filterMap_posts fun _ => rfl]
    rfl
  | stop =>
    rw [Link.outerStory, List.filterMap_map]
    exact List.filterMap_eq_nil_iff.2 fun _ _ => rfl
  | _ => rfl

theorem Kept.dropped_log (h : c.Kept) :
    c.link.events.filterMap Event.dropped? = c.chapters.flatMap droppedIn :=
  h.picked_chapters (fun _ => rfl) dropped_events

/-- A request is warned of once at most. -/
theorem Kept.dropped_nodup (h : c.Kept) :
    ((c.link.events.filterMap Event.dropped?).map Prod.fst).Nodup := by
  rw [h.dropped_log, List.map_flatMap]
  refine h.nodup.sublist ?_
  have hsub : ∀ l : List Chapter, (l.flatMap fun ch => (droppedIn ch).map Prod.fst).Sublist
      (l.flatMap fun ch => Life.numbers ch.settled) := by
    intro l
    induction l with
    | nil => exact List.Sublist.slnil
    | cons ch l ih =>
      refine List.Sublist.append ?_ ih
      obtain ⟨s, d⟩ := ch
      cases d with
      | decline id r => exact List.Sublist.refl _
      | _ => exact List.nil_sublist _
  exact hsub c.chapters

theorem dropped_once (ms : List Move) {id : Nat} {name : String}
    (h : .error (.notConnected name) ∈ (of terms script hub ms).answersTo id) :
    (of terms script hub ms).framesOf id = [] ∧
      (of terms script hub ms).warningsOf id = [name] := by
  have hkept : (of terms script hub ms).Kept := kept ms
  obtain ⟨r, htook, rfl⟩ := (not_connected_iff ms id name).1 h
  obtain ⟨ch, hch, hd⟩ := took_none.1 htook
  refine ⟨hkept.framesOf_decline hch hd, lookup_eq hkept.dropped_nodup ?_⟩
  rw [hkept.dropped_log]
  refine List.mem_flatMap.2 ⟨ch, hch, ?_⟩
  rw [droppedIn, hd]
  exact List.mem_singleton_self _

/-- The far side of a session on which a send failed would still refuse it. -/
theorem refusing_peer {s : Link} {n id : Nat} {r : Request} {reason : String}
    {source : Option String} (hd : s.Ready (.serve n id r))
    (hcut : ¬ s.accepted n r.commands = r.commands)
    (hverdict : s.verdict n r.commands = .error (.transport reason source)) :
    ∃ p, (s.perform (.serve n id r)).peer? n = some p ∧ p.send = .error reason := by
  have hpeers := Link.peers_perform hd
  cases hd with
  | @serve n id watch probed p r rest phase live peer next early queue =>
    refine ⟨p.spent r.commands, ?_, ?_⟩
    · rw [Link.peer?_modify (Link.peer?_eq_some peer).1 hpeers, if_pos rfl, peer]
      rfl
    · rw [Link.verdict, if_neg hcut, peer] at hverdict
      rw [Link.accepted_eq peer] at hcut
      rw [Peer.send_spent hcut]
      cases hverdict
      rfl

theorem transport_failed (ms : List Move) {id : Nat} {reason : String} {source : Option String}
    (h : .error (.transport reason source) ∈ (of terms script hub ms).answersTo id) :
    ∃ n r sent failed rest, (of terms script hub ms).Took id r (some n) ∧
      r.commands = sent ++ failed :: rest ∧
      ((of terms script hub ms).framesOf id = sent.map fun m => (n, m.text)) ∧
      ∃ ch ∈ (of terms script hub ms).chapters, ch.taken? = some (id, r) ∧ .lost n ∈ ch.events ∧
        ch.after.phase.session? = none ∧
          ∃ p, ch.after.peer? n = some p ∧ p.send = .error reason := by
  have hkept : (of terms script hub ms).Kept := kept ms
  obtain ⟨ch, hch, hanswer⟩ | ⟨-, hbad⟩ := hkept.mem_answersTo.1 h
  · obtain ⟨n, r, hd, hverdict⟩ | ⟨r, -, hbad⟩ | ⟨-, -, hbad⟩ := mem_answers.1 hanswer
    · have hframes := hkept.framesOf_serve hch hd
      have hready := (chapter_ready ms ch hch).2
      obtain ⟨s, d⟩ := ch
      obtain rfl : d = .serve n id r := hd
      have hcut : ¬ s.accepted n r.commands = r.commands := fun hall => by
        rw [← verdict_ok_iff.2 hall] at hverdict
        cases hverdict
      obtain ⟨tail, htail⟩ := Link.accepted_prefix s n r.commands
      cases tail with
      | nil => exact absurd ((List.append_nil _).symm.trans htail) hcut
      | cons failed rest =>
        -- the first command that was not accepted is the one whose send failed
        refine ⟨n, r, _, failed, rest, took_some.2 ⟨_, hch, rfl⟩, htail.symm, hframes,
          _, hch, rfl, ?_⟩
        have hposting : Chapter.posting? ⟨s, .serve n id r⟩ n =
            some ⟨.request id r, s.accepted n r.commands⟩ := if_pos rfl
        obtain ⟨hlost, hnone⟩ := lost_of_cut hready hposting hcut
        exact ⟨hlost, hnone, refusing_peer hready hcut hverdict.symm⟩
    · cases hbad
    · cases hbad
  · cases hbad

/-- A request that was taken is not among those that were never taken. -/
theorem not_took_of_stop {ms : List Move} {ch : Chapter}
    (hch : ch ∈ (of terms script hub ms).chapters) (hd : ch.deed = .stop) {id : Nat}
    (hid : id ∈ numbers ch.settled) (r : Request) (held : Option Nat) :
    ¬ (of terms script hub ms).Took id r held := by
  rintro ⟨ch', hch', htaken, -⟩
  have hkept : (of terms script hub ms).Kept := kept ms
  have hid' : id ∈ numbers ch'.settled := List.mem_map_of_mem (settled_of_taken htaken)
  obtain rfl := hkept.chapter_unique hch hch' hid hid'
  rw [Chapter.taken?, hd] at htaken
  cases htaken

theorem not_took_of_late {ms : List Move} {id : Nat}
    (hid : id ∈ numbers (of terms script hub ms).late) (r : Request) (held : Option Nat) :
    ¬ (of terms script hub ms).Took id r held := by
  rintro ⟨ch, hch, htaken, -⟩
  have hkept : (of terms script hub ms).Kept := kept ms
  have hnodup := hkept.answered_nodup
  rw [hkept.answered_keys, List.nodup_append] at hnodup
  obtain ⟨-, -, hdisjoint⟩ := hnodup
  have hsettled : id ∈ numbers ch.settled := List.mem_map_of_mem (settled_of_taken htaken)
  exact hdisjoint id (List.mem_flatMap.2 ⟨ch, hch, hsettled⟩) id hid rfl

/-- A chapter in which a request finds its end takes it, or stops the client. -/
theorem taken_or_stop {ch : Chapter} {id : Nat} (hid : id ∈ numbers ch.settled) :
    (∃ r, ch.taken? = some (id, r)) ∨ ch.deed = .stop := by
  obtain ⟨s, d⟩ := ch
  cases d with
  | serve n id' r =>
    obtain rfl := List.mem_singleton.1 hid
    exact .inl ⟨r, rfl⟩
  | decline id' r =>
    obtain rfl := List.mem_singleton.1 hid
    exact .inl ⟨r, rfl⟩
  | stop => exact .inr rfl
  | _ => cases hid

theorem shutdown_iff (ms : List Move) (id : Nat) :
    .error .shutdown ∈ (of terms script hub ms).answersTo id ↔
      id < (of terms script hub ms).asked.length ∧ (of terms script hub ms).link.phase = .stopped ∧
        ∀ r held, ¬ (of terms script hub ms).Took id r held := by
  have hkept : (of terms script hub ms).Kept := kept ms
  have hnumbers := hkept.numbers
  have hasked : id ∈ (of terms script hub ms).chapters.flatMap (fun ch => numbers ch.settled) ∨
      id ∈ numbers (of terms script hub ms).late → id < (of terms script hub ms).asked.length := by
    intro hid
    rw [← List.mem_range, ← hnumbers, List.mem_append, List.mem_append]
    rcases hid with hch | hlate
    · exact .inl (.inl hch)
    · exact .inr hlate
  rw [hkept.mem_answersTo]
  constructor
  · rintro (⟨ch, hch, hanswer⟩ | ⟨hlate, -⟩)
    · obtain ⟨n, r, -, hverdict⟩ | ⟨r, -, hbad⟩ | ⟨hd, hqueue, -⟩ := mem_answers.1 hanswer
      · rw [Link.verdict] at hverdict
        split at hverdict <;> cases hverdict
      · cases hbad
      · have hid : id ∈ numbers ch.settled := by
          rw [Chapter.settled, hd]
          exact hqueue
        exact ⟨hasked (.inl (List.mem_flatMap.2 ⟨ch, hch, hid⟩)), stopped_of_stop ms ch hch hd,
          not_took_of_stop hch hd hid⟩
    · refine ⟨hasked (.inr hlate), ?_, not_took_of_late hlate⟩
      by_contra hrunning
      rw [hkept.late hrunning] at hlate
      cases hlate
  · rintro ⟨hid, hstopped, hnever⟩
    rw [← List.mem_range, ← hnumbers, hkept.queue hstopped, numbers, List.map_nil, List.append_nil,
      List.mem_append] at hid
    rcases hid with hch | hlate
    · obtain ⟨ch, hch, hsettled⟩ := List.mem_flatMap.1 hch
      obtain ⟨r, htaken⟩ | hd := taken_or_stop hsettled
      · exact absurd ⟨ch, hch, htaken, rfl⟩ (hnever r _)
      · rw [Chapter.settled, hd] at hsettled
        exact .inl ⟨ch, hch, mem_answers.2 (.inr (.inr ⟨hd, hsettled, rfl⟩))⟩
    · exact .inr ⟨hlate, rfl⟩

/-- Nothing is sent for a request that is never taken. -/
theorem framesOf_never {id : Nat} (hnever : ∀ r held, ¬ c.Took id r held) : c.framesOf id = [] := by
  rw [framesOf, List.flatMap_eq_nil_iff]
  intro ch hmem
  obtain ⟨hch, hid⟩ := List.mem_filter.1 hmem
  obtain ⟨r, htaken⟩ | hd := taken_or_stop (of_decide_eq_true hid)
  · exact absurd ⟨ch, hch, htaken, rfl⟩ (hnever r _)
  · obtain ⟨s, d⟩ := ch
    obtain rfl : d = .stop := hd
    exact Chapter.frames_stop s

theorem live_of_taken {ch : Chapter} (hd : ch.before.Ready ch.deed) (h : ch.taken?.isSome) :
    ch.before.cancelled = false := by
  obtain ⟨s, d⟩ := ch
  cases hd with
  | serve phase live peer next early queue => exact live
  | decline offline live queue => exact live
  | _ => cases h

theorem Kept.kinds (h : c.Kept) {id : Nat} {outcome : Except Fault Unit}
    (ho : outcome ∈ c.answersTo id) : outcome = .ok () ∨
      (∃ name, outcome = .error (.notConnected name)) ∨
      (∃ reason, outcome = .error (.transport reason none)) ∨ outcome = .error .shutdown := by
  obtain ⟨ch, -, hanswer⟩ | ⟨-, rfl⟩ := h.mem_answersTo.1 ho
  · obtain ⟨n, r, -, rfl⟩ | ⟨r, -, rfl⟩ | ⟨-, -, rfl⟩ := mem_answers.1 hanswer
    · rw [Link.verdict]
      split
      · exact .inl rfl
      · exact .inr (.inr (.inl ⟨_, rfl⟩))
    · exact .inr (.inl ⟨_, rfl⟩)
    · exact .inr (.inr (.inr rfl))
  · exact .inr (.inr (.inr rfl))

/-! ## The law -/

/-- **Answers are true**, and every request gets one. -/
theorem replies_truthful (ms : List Move) : (of terms script hub ms).Truthful terms := by
  have hkept : (of terms script hub ms).Kept := kept ms
  exact {
    logged := hkept.picked_chapters (fun _ => rfl) fun _ => rfl
    at_most_one := fun id => by
      cases hanswers : (of terms script hub ms).answersTo id with
      | nil => exact Nat.zero_le 1
      | cons outcome rest =>
        have hmem : outcome ∈ (of terms script hub ms).answersTo id := by
          rw [hanswers]
          exact List.mem_cons_self
        rw [← hanswers, hkept.answersTo_eq hmem]
        exact Nat.le_refl 1
    all_answered := fun hwait hclosing => by
      have hqueue := hkept.queue_of_waiting hwait hclosing
      refine ⟨hqueue, fun id hid => ?_⟩
      rw [← List.mem_range, ← hkept.numbers, hqueue, numbers, List.map_nil, List.append_nil,
        ← hkept.answered_keys] at hid
      obtain ⟨⟨id, outcome⟩, hmem, rfl⟩ := List.mem_map.1 hid
      exact ⟨outcome, hkept.answersTo_eq (mem_lookup.2 hmem)⟩
    kinds := fun id outcome ho => hkept.kinds ho
    took := fun id r held ⟨ch, hch, htaken, _⟩ =>
      hkept.asked_of_settled hch (settled_of_taken htaken)
    ok := ok_iff ms
    not_connected := not_connected_iff ms
    dropped := fun id name h => dropped_once ms h
    transport := fun id reason source h => transport_failed ms h
    shutdown := shutdown_iff ms
    unsent := fun id h => framesOf_never ((shutdown_iff ms id).1 h).2.2
    cancelled := ⟨fun ch hch htaken => live_of_taken (chapter_ready ms ch hch).2 htaken,
      stopped_of_cancelled⟩
    settles := fun hdelay => by
      refine settled _ ?_
      rw [terms_eq]
      exact hdelay }

end Life
end RaceLink
