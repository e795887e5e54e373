import Mathlib.Data.List.DropRight
import RaceLink.Proofs.Link.Clock
import RaceLink.Proofs.Link.Vitals

/-!
# Windows of silence

When a session was heard for the last time, and what has been done about its silence since then, as
the log of the client tells it.  A frame that is taken is a sign of life, whatever it holds, and so
is the opening of the session itself.

* `Chapter.entries`, `Life.deedLog` — what a deed has added to the log; the log, with the deed that
  has written each entry (`Life.recorded`).
* `Link.heardAt?`, `Link.droppedAt` — the moment of the last sign of life, and the moments since
  then at which the session was given up for its silence.
* `Life.askedAt` — what was sent since then of the client's own accord, with the moments.
* `Life.window_heard`, `Life.window_unheard`, `Life.Rests.window` — a sign of life begins a new
  window; what other deeds add to it; and nothing changes while the client rests.
-/

set_option autoImplicit false

namespace RaceLink

/-! ## Signs in the log -/

namespace Event

/-- A session is opened. -/
def isOpeningOf (n : Nat) : Event → Bool
  | opened k => k == n
  | _ => false

/-- A session is opened, or a frame is taken from it. -/
def isSignOf (n : Nat) : Event → Bool
  | opened k => k == n
  | took k _ => k == n
  | _ => false

/-- A session is given up because nothing was heard on it. -/
def isSilenceOf (n : Nat) : Event → Bool
  | silent k => k == n
  | _ => false

theorem no_sign {n : Nat} {es : List Event} (h : es.any (isSignOf n) = false) :
    ∀ e ∈ es, (!e.isSignOf n) = true := by
  intro e he
  rw [Bool.not_eq_true', ← Bool.not_eq_true]
  exact List.any_eq_false.mp h e he

end Event

/-- Whether a deed sends for somebody: the questions with which a session opens, or a request. -/
def Deed.isAsked : Deed → Bool
  | .resolve _ => true
  | .serve _ _ _ => true
  | _ => false

namespace Link

/-- The moments at which the session was opened. -/
def openedAt (s : Link) (n : Nat) : List Nat :=
  (s.log.toList.filter (·.event.isOpeningOf n)).map Entry.time

/-- The moment of the last sign of life: the session was opened, or a frame was taken from it. -/
def heardAt? (s : Link) (n : Nat) : Option Nat :=
  ((s.log.toList.filter (·.event.isSignOf n)).getLast?).map Entry.time

/-- The moments at which the session was given up for its silence since the last sign of life. -/
def droppedAt (s : Link) (n : Nat) : List Nat :=
  ((s.log.toList.rtakeWhile fun e => !e.event.isSignOf n).filter (·.event.isSilenceOf n)).map
    Entry.time

end Link

/-- What a deed has added to the log. -/
def Chapter.entries (ch : Chapter) : List Entry :=
  ch.after.log.toList.drop ch.before.log.toList.length

namespace Life

/-- The log, with the deed that has written each entry. -/
def deedLog (c : Life) : List (Deed × Entry) :=
  c.chapters.flatMap fun ch => ch.entries.map (ch.deed, ·)

/-- What was sent on the session by deeds that do not send for anybody, with the moments. -/
def unasked (n : Nat) (es : List (Deed × Entry)) : List (Nat × String) :=
  (es.filter (!·.1.isAsked)).filterMap fun e => (e.2.event.sentOn? n).map (e.2.time, ·)

/-- What was sent on the session since the last sign of life of the client's own accord, with the
moments. -/
def askedAt (c : Life) (n : Nat) : List (Nat × String) :=
  unasked n (c.deedLog.rtakeWhile fun e => !e.2.event.isSignOf n)

end Life

/-! ## What is added to a list -/

section Added

variable {α : Type} {p : α → Bool} {l xs : List α}

theorem rtakeWhile_append_of_all (h : ∀ x ∈ xs, p x = true) :
    (l ++ xs).rtakeWhile p = l.rtakeWhile p ++ xs := by
  rw [List.rtakeWhile, List.reverse_append,
    List.takeWhile_append_of_pos fun x hx => h x (List.mem_reverse.mp hx), List.reverse_append,
    List.reverse_reverse]
  rfl

theorem rtakeWhile_append_sublist {x : α} (hx : x ∈ xs) (h : p x = false) :
    ((l ++ xs).rtakeWhile p).Sublist xs := by
  have hshort : (xs.reverse.takeWhile p).length ≠ xs.reverse.length := fun hlen => by
    have hall := List.takeWhile_eq_self_iff.mp ((List.takeWhile_prefix p).eq_of_length hlen)
    exact Bool.false_ne_true (h.symm.trans (hall x (List.mem_reverse.mpr hx)))
  rw [List.rtakeWhile, List.reverse_append, List.takeWhile_append, if_neg hshort]
  have hsub : (xs.reverse.takeWhile p).reverse.Sublist xs.reverse.reverse :=
    (List.takeWhile_sublist p).reverse
  rwa [List.reverse_reverse] at hsub

end Added

namespace Link

variable {s t : Link} {es : List Event}

/-- Picking from what was written down at one moment. -/
theorem moments_append (hlog : t.log.toList = s.log.toList ++ es.map (Entry.mk s.now))
    (p : Event → Bool) :
    t.log.toList.filter (p ·.event) =
      s.log.toList.filter (p ·.event) ++ (es.filter p).map (Entry.mk s.now) := by
  rw [hlog, List.filter_append, List.filter_map]
  rfl

theorem openedAt_of_log (hlog : t.log.toList = s.log.toList ++ es.map (Entry.mk s.now)) (n : Nat) :
    t.openedAt n = s.openedAt n ++ (es.filter (Event.isOpeningOf n)).map fun _ => s.now := by
  rw [openedAt, moments_append hlog (Event.isOpeningOf n), List.map_append, List.map_map]
  rfl

theorem heardAt?_of_log (hlog : t.log.toList = s.log.toList ++ es.map (Entry.mk s.now)) (n : Nat) :
    t.heardAt? n = if es.any (Event.isSignOf n) then some s.now else s.heardAt? n := by
  rw [heardAt?, moments_append hlog (Event.isSignOf n), List.getLast?_append, List.getLast?_map,
    heardAt?]
  cases hlast : (es.filter (Event.isSignOf n)).getLast? with
  | none =>
    have hnone : es.any (Event.isSignOf n) = false := by
      rw [List.any_eq_false]
      exact List.filter_eq_nil_iff.mp (List.getLast?_eq_none_iff.mp hlast)
    rw [hnone]
    rfl
  | some e =>
    have he := List.mem_filter.mp (List.mem_of_getLast? hlast)
    rw [List.any_eq_true.mpr ⟨e, he.1, he.2⟩]
    rfl

/-- What is written down adds to the window, if there is no sign of life in it. -/
theorem droppedAt_unheard (hlog : t.log.toList = s.log.toList ++ es.map (Entry.mk s.now)) {n : Nat}
    (hsign : es.any (Event.isSignOf n) = false) :
    t.droppedAt n = s.droppedAt n ++ (es.filter (Event.isSilenceOf n)).map fun _ => s.now := by
  rw [droppedAt, hlog, rtakeWhile_append_of_all, List.filter_append, List.filter_map,
    List.map_append, List.map_map]
  · rfl
  · intro x hx
    obtain ⟨e, he, rfl⟩ := List.mem_map.mp hx
    exact Event.no_sign hsign e he

/-- A sign of life begins a new window. -/
theorem droppedAt_heard (hlog : t.log.toList = s.log.toList ++ es.map (Entry.mk s.now)) {n : Nat}
    (hsign : es.any (Event.isSignOf n) = true) (hsilence : es.filter (Event.isSilenceOf n) = []) :
    t.droppedAt n = [] := by
  obtain ⟨e, he, hsign⟩ := List.any_eq_true.mp hsign
  have hsub := rtakeWhile_append_sublist (l := s.log.toList)
    (p := fun e => !e.event.isSignOf n) (List.mem_map_of_mem (f := Entry.mk s.now) he)
    (by rw [Bool.not_eq_false']; exact hsign)
  have hfilter := hsub.filter (·.event.isSilenceOf n)
  rw [List.filter_map, show es.filter ((·.event.isSilenceOf n) ∘ Entry.mk s.now) = [] from hsilence]
    at hfilter
  rw [droppedAt, hlog, List.eq_nil_of_sublist_nil hfilter]
  rfl

end Link

/-! ## What a chapter adds -/

namespace Chapter

variable (ch : Chapter) {n : Nat}

/-- What a deed has added to the log is its story, written down at its moment. -/
theorem entries_eq (hs : ch.before.Sound) (hd : ch.before.Ready ch.deed) :
    ch.entries = ch.events.map (Entry.mk ch.before.now) := by
  rw [entries, show ch.after.log.toList = _ from Link.log_perform hs hd, List.drop_left]
  rfl

theorem hears_eq (n : Nat) : ch.hears n = ch.events.any (Event.isSignOf n) := by
  rw [hears, vitals, List.any_filter]
  congr 1
  funext e
  cases e <;> simp [Event.isVital, Event.isSign, Event.isSignOf]

theorem heardAt?_after (hs : ch.before.Sound) (hd : ch.before.Ready ch.deed) (n : Nat) :
    ch.after.heardAt? n = if ch.hears n then some ch.before.now else ch.before.heardAt? n := by
  rw [hears_eq]
  exact Link.heardAt?_of_log (Link.log_perform hs hd) n

theorem drops_eq (n : Nat) : ch.drops n = ch.events.any (Event.isSilenceOf n) := by
  rw [drops, vitals, List.any_filter]
  congr 1
  funext e
  cases e <;> simp [Event.isVital, Event.isSilence, Event.isSilenceOf]

/-- A session is given up for its silence at most once in a chapter. -/
theorem filter_silence (hd : ch.before.Ready ch.deed) (n : Nat) :
    ch.events.filter (Event.isSilenceOf n) = if ch.drops n then [.silent n] else [] := by
  cases hdrops : ch.drops n with
  | false =>
    rw [drops_eq, List.any_eq_false] at hdrops
    exact List.filter_eq_nil_iff.mpr hdrops
  | true =>
    have hdeed := deed_of_drops hd hdrops
    rw [events, hdeed, Link.story, List.filter_cons, Link.loss]
    simp [Event.isSilenceOf]

/-- Of its own accord a client sends heartbeats, and nothing else. -/
theorem filterMap_sent (hasked : ch.deed.isAsked = false) (n : Nat) :
    ch.events.filterMap (Event.sentOn? n) =
      if ch.beats n then [Command.getStatus.text] else [] := by
  rw [sentOn_events, beats]
  obtain ⟨s, d⟩ := ch
  cases d with
  | resolve a => cases hasked
  | serve k id r => cases hasked
  | watch k probed =>
    cases probed with
    | true => rfl
    | false =>
      by_cases hk : k = n
      · have hposting : posting? ⟨s, .watch k false⟩ n =
            some ⟨.heartbeat, s.accepted k [.getStatus]⟩ := if_pos hk
        rw [hposting]
        obtain hnone | ⟨rest, hsome, hrest⟩ :=
          List.prefix_cons_iff.mp (s.accepted_prefix k [.getStatus])
        · simp [hnone, Posting.texts]
        · rw [List.prefix_nil.mp hrest] at hsome
          simp [hsome, Posting.texts]
      · have hposting : posting? ⟨s, .watch k false⟩ n = none := if_neg hk
        rw [hposting]
        rfl
  | _ => rfl

/-- A heartbeat is no sign of life. -/
theorem beats_of_hears {ch : Chapter} (hd : ch.before.Ready ch.deed) (h : ch.hears n = true) :
    ch.beats n = false := by
  cases ch.round hd n with
  | heard hears beats drops phase => exact beats
  | stillborn hears beats drops cuts phase => exact beats
  | quiet hears | asked deed phase reached hears | dropped deed phase reached hears
  | cut phase hears =>
    rw [h] at hears
    cases hears

end Chapter

namespace Life

theorem unasked_append (n : Nat) (es es' : List (Deed × Entry)) :
    unasked n (es ++ es') = unasked n es ++ unasked n es' := by
  rw [unasked, List.filter_append, List.filterMap_append]
  rfl

/-- What a deed sends of the client's own accord: a heartbeat, or nothing. -/
theorem unasked_entries (ch : Chapter) (hs : ch.before.Sound) (hd : ch.before.Ready ch.deed)
    (n : Nat) : unasked n (ch.entries.map (ch.deed, ·)) =
      if ch.beats n then [(ch.before.now, Command.getStatus.text)] else [] := by
  cases hasked : ch.deed.isAsked with
  | true =>
    have hbeats : ch.beats n = false := Bool.eq_false_iff.mpr fun hbeats => by
      rw [Chapter.deed_of_beats hbeats] at hasked
      cases hasked
    rw [hbeats, unasked, List.filter_map, List.filter_eq_nil_iff.mpr fun _ _ => ?_]
    · rfl
    · simp [hasked]
  | false =>
    rw [unasked, List.filter_map, List.filter_eq_self.mpr fun _ _ => ?_, List.filterMap_map,
      ch.entries_eq hs hd, List.filterMap_map]
    · have hsent := congrArg (List.map (ch.before.now, ·)) (ch.filterMap_sent hasked n)
      rw [List.map_filterMap] at hsent
      refine hsent.trans ?_
      split <;> rfl
    · simp [hasked]

section Turned

variable {c : Life} {d : Deed} {n : Nat}

theorem deedLog_of_chapters {c' : Life} (h : c'.chapters = c.chapters) :
    c'.deedLog = c.deedLog :=
  congrArg (List.flatMap _) h

theorem deedLog_turned (c : Life) (d : Deed) :
    (c.turned d).deedLog = c.deedLog ++ (Chapter.mk c.link d).entries.map (d, ·) := by
  rw [deedLog, turned, List.flatMap_append, List.flatMap_singleton]
  rfl

theorem heardAt?_turned (hs : c.link.Sound) (hd : c.link.Ready d) (n : Nat) :
    (c.turned d).link.heardAt? n =
      if (Chapter.mk c.link d).hears n then some c.link.now else c.link.heardAt? n :=
  (Chapter.mk c.link d).heardAt?_after hs hd n

/-- What a deed adds to the window, if it is no sign of life. -/
theorem window_unheard {beats drops : Bool} (hs : c.link.Sound) (hd : c.link.Ready d)
    (hears : (Chapter.mk c.link d).hears n = false)
    (hbeats : (Chapter.mk c.link d).beats n = beats)
    (hdrops : (Chapter.mk c.link d).drops n = drops) :
    (c.turned d).link.heardAt? n = c.link.heardAt? n ∧
      (c.turned d).askedAt n =
        c.askedAt n ++ (if beats then [(c.link.now, Command.getStatus.text)] else []) ∧
      (c.turned d).link.droppedAt n =
        c.link.droppedAt n ++ if drops then [c.link.now] else [] := by
  have hsign := ((Chapter.mk c.link d).hears_eq n).symm.trans hears
  refine ⟨?_, ?_, ?_⟩
  · rw [heardAt?_turned hs hd, hears, if_neg Bool.false_ne_true]
  · rw [askedAt, deedLog_turned, rtakeWhile_append_of_all, unasked_append, ← hbeats,
      ← unasked_entries ⟨c.link, d⟩ hs hd n]
    · rfl
    · intro x hx
      rw [(Chapter.mk c.link d).entries_eq hs hd, List.map_map] at hx
      obtain ⟨e, he, rfl⟩ := List.mem_map.mp hx
      exact Event.no_sign hsign e he
  · refine (Link.droppedAt_unheard (Link.log_perform hs hd) hsign).trans ?_
    rw [show (c.link.story d).filter _ = _ from (Chapter.mk c.link d).filter_silence hd n, hdrops]
    cases drops <;> rfl

/-- A sign of life begins a new window. -/
theorem window_heard (hs : c.link.Sound) (hd : c.link.Ready d)
    (hears : (Chapter.mk c.link d).hears n = true)
    (hdrops : (Chapter.mk c.link d).drops n = false) :
    (c.turned d).link.heardAt? n = some c.link.now ∧ (c.turned d).askedAt n = [] ∧
      (c.turned d).link.droppedAt n = [] := by
  have hsign := ((Chapter.mk c.link d).hears_eq n).symm.trans hears
  refine ⟨?_, ?_, ?_⟩
  · rw [heardAt?_turned hs hd, hears, if_pos rfl]
  · obtain ⟨e, he, hsign⟩ := List.any_eq_true.mp hsign
    have hmem : (d, Entry.mk c.link.now e) ∈ (Chapter.mk c.link d).entries.map (d, ·) := by
      rw [(Chapter.mk c.link d).entries_eq hs hd]
      exact List.mem_map_of_mem (List.mem_map_of_mem he)
    have hsub := rtakeWhile_append_sublist (l := c.deedLog)
      (p := fun e => !e.2.event.isSignOf n) hmem (by rw [Bool.not_eq_false']; exact hsign)
    have hnone : unasked n ((Chapter.mk c.link d).entries.map (d, ·)) = [] := by
      rw [unasked_entries ⟨c.link, d⟩ hs hd, Chapter.beats_of_hears hd hears]
      rfl
    rw [askedAt, deedLog_turned]
    exact List.eq_nil_of_sublist_nil (hnone ▸ (hsub.filter _).filterMap _)
  · refine Link.droppedAt_heard (Link.log_perform hs hd) hsign ?_
    rw [show (c.link.story d).filter _ = _ from (Chapter.mk c.link d).filter_silence hd n, hdrops]
    rfl

end Turned

/-- A client that rests writes down at most that it refuses a request. -/
theorem Rests.log_eq {s t : Link} (h : Rests s t) :
    ∃ es : List Event, t.log.toList = s.log.toList ++ es.map (Entry.mk s.now) ∧
      (s.phase ≠ .stopped → es = []) ∧ ∀ e ∈ es, ∃ id, e = .answered id (.error .shutdown) := by
  obtain hlog | ⟨hstop, id, hlog⟩ := h.log
  · exact ⟨[], by rw [hlog]; exact (List.append_nil _).symm, fun _ => rfl, nofun⟩
  · refine ⟨[.answered id (.error .shutdown)], by rw [hlog, Array.toList_push]; rfl,
      absurd hstop, fun e he => ⟨id, List.mem_singleton.mp he⟩⟩

/-- Nothing changes while a client rests. -/
theorem Rests.window {s t : Link} (h : Rests s t) (n : Nat) :
    t.heardAt? n = s.heardAt? n ∧ t.droppedAt n = s.droppedAt n ∧
      t.openedAt n = s.openedAt n := by
  obtain ⟨es, hlog, -, hes⟩ := h.log_eq
  have hnone : ∀ p : Event → Bool, (∀ id, p (.answered id (.error .shutdown)) = false) →
      es.any p = false := fun p hp => by
    rw [List.any_eq_false]
    intro e he
    obtain ⟨id, rfl⟩ := hes e he
    exact Bool.eq_false_iff.mp (hp id)
  have hsign := hnone (Event.isSignOf n) fun _ => rfl
  refine ⟨?_, ?_, ?_⟩
  · rw [Link.heardAt?_of_log hlog, hsign, if_neg Bool.false_ne_true]
  · rw [Link.droppedAt_unheard hlog hsign, List.filter_eq_nil_iff.mpr, List.map_nil,
      List.append_nil]
    exact List.any_eq_false.mp (hnone _ fun _ => rfl)
  · rw [Link.openedAt_of_log hlog, List.filter_eq_nil_iff.mpr, List.map_nil, List.append_nil]
    exact List.any_eq_false.mp (hnone _ fun _ => rfl)

variable {terms : Terms} {script : List Attempt} {hub : Hub}

end Life
end RaceLink
