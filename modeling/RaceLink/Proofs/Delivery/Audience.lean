import RaceLink.Delivery.Audience
import RaceLink.Proofs.Delivery.Ring

/-!
# Who hears what

Everything that is published to a hub is heard by its observers at once, and by its streams when
they ask.  An observer misses nothing.  A stream misses what has slid out of the ring before it
asked, is told so, and otherwise gets the same as an observer who was added when it began.

* `History` — an audience, all that was published to it, and for each observer and stream what it
  was told since it is there.
* `Listener.Follows` — what a stream got, seen from what was published; asking keeps it so
  (`Follows.hear`).
* `History.Kept` — all of this together; every act keeps it (`Kept.act`).
* `History.Delivered`, `History.delivery_law` — **the delivery law**, for every capacity and after
  all that can be done to a hub and its streams.
-/

set_option autoImplicit false

namespace RaceLink

/-- What an observer is told in a call, if the call is for it. -/
def Call.for? (i : Nat) (c : Call) : Option (Notice × Model) :=
  if c.observer = i then some (c.notice, c.model) else none

/-- What one sees of a stream who only sees what it gives. -/
structure Listener where
  /-- How many notices had been published when the stream began. -/
  since : Nat
  got : List Notice
  /-- How many notices it had to skip. -/
  missed : Nat
  warnings : Nat

namespace Listener

/-- The number of the first notice that a stream neither got nor had to skip. -/
def seen (l : Listener) : Nat := l.since + l.got.length + l.missed

/-- The stream was asked once `published` notices were out.  Those that the ring has no room for
are skipped. -/
def hear (l : Listener) (capacity published : Nat) (heard : Audience.Heard) : Listener :=
  { l with
    got := l.got ++ heard.notices
    missed := l.missed + (published - l.seen - capacity)
    warnings := l.warnings + heard.warnings }

end Listener

/-- An audience and what has happened to it. -/
structure History where
  audience : Audience
  published : List (Notice × Model)
  /-- How many notices had been published when each observer was added. -/
  joined : List Nat
  /-- All calls of observers, the first one first. -/
  calls : List Call
  /-- The streams in the order in which they began. -/
  listeners : List Listener

namespace History

/-- The history of a hub that has just been made. -/
def start (capacity : Nat) : History := ⟨Audience.make capacity, [], [], [], []⟩

/-- How many notices streams can be behind without missing any. -/
def capacity (h : History) : Nat := h.audience.hub.ring.capacity

/-- The notices that were published. -/
def notices (h : History) : List Notice := h.published.map Prod.fst

/-- How many notices are out that a stream neither got nor had to skip. -/
def behind (h : History) (l : Listener) : Nat := h.notices.length - l.seen

/-- A stream that is still read, with what it got so far. -/
def Listening (h : History) (i : Nat) (l : Listener) : Prop :=
  h.listeners[i]? = some l ∧ (h.audience.cursor? i).isSome

/-- All that an observer was told. -/
def toldTo (h : History) (i : Nat) : List (Notice × Model) := h.calls.filterMap (Call.for? i)

/-- The streams after one of them was asked; one that was given up gets nothing. -/
def asked (h : History) (i : Nat) (heard : Audience.Heard) : List Listener :=
  if (h.audience.cursor? i).isSome then
    h.listeners.modify i (·.hear h.capacity h.notices.length heard)
  else h.listeners

/-- The history after one more act. -/
def act (h : History) (a : Audience.Act) : History :=
  let heard := (h.audience.act a).2
  { audience := (h.audience.act a).1
    calls := h.calls ++ heard.calls
    published :=
      match a with
      | .publish n m => if h.audience.dropped then h.published else h.published ++ [(n, m)]
      | _ => h.published
    joined :=
      match a with
      | .addObserver => h.joined ++ [h.published.length]
      | _ => h.joined
    listeners :=
      match a with
      | .subscribe => h.listeners ++ [⟨h.published.length, [], 0, 0⟩]
      | .look i => h.asked i heard
      | .drain i => h.asked i heard
      | _ => h.listeners }

/-- The history after all that was done. -/
def run (h : History) (acts : List Audience.Act) : History := acts.foldl act h

/-- The history of a hub from its beginning. -/
def of (capacity : Nat) (acts : List Audience.Act) : History := (start capacity).run acts

/-- All calls that are due: each notice is told to those observers who were there when it was
published, in the order in which they were added. -/
def roll (h : History) : List Call :=
  h.published.zipIdx.flatMap fun p =>
    (List.range (h.joined.countP (· ≤ p.2))).map fun i => ⟨i, p.1.1, p.1.2⟩

end History

/-! ## Calls -/

theorem filterMap_range_eq {α : Type} (a : α) {i k : Nat} (h : i < k) :
    (List.range k).filterMap (fun j => if j = i then some a else none) = [a] := by
  induction k with
  | zero => cases h
  | succ k ih =>
    rw [List.range_succ, List.filterMap_append]
    rcases Nat.lt_or_ge i k with hlt | hge
    · have hne : k ≠ i := by omega
      rw [ih hlt]
      simp [hne]
    · have he : k = i := by omega
      have hnone : (List.range k).filterMap (fun j => if j = i then some a else none) = [] := by
        rw [List.filterMap_eq_nil_iff]
        intro j hj
        rw [if_neg]
        have := List.mem_range.1 hj
        omega
      rw [hnone, he]
      simp

/-- Each observer is called once. -/
theorem Hub.calls_for {h : Hub} {i : Nat} (hi : i < h.observers) (n : Notice) (m : Model) :
    (h.calls n m).filterMap (Call.for? i) = [(n, m)] := by
  rw [Hub.calls, List.filterMap_map]
  exact filterMap_range_eq (n, m) hi

/-- Where a stream reads, once one of them was told where to go on. -/
theorem Audience.cursor?_set (a : Audience) (i j : Nat) (next : Option Nat) :
    { a with streams := a.streams.set i next }.cursor? j =
      if i = j ∧ j < a.streams.length then next else a.cursor? j := by
  rw [cursor?, List.getElem?_set]
  by_cases hij : i = j
  · subst hij
    by_cases hlt : i < a.streams.length
    · rw [if_pos rfl, if_pos hlt, if_pos ⟨rfl, hlt⟩]
      rfl
    · rw [if_pos rfl, if_neg hlt, if_neg (fun h => hlt h.2), cursor?,
        List.getElem?_eq_none (Nat.not_lt.1 hlt)]
  · rw [if_neg hij, if_neg (fun h => hij h.1), cursor?]

/-! ## What a stream gets -/

namespace Listener

/-- What a stream got, seen from all that was published. -/
structure Follows (l : Listener) (notices : List Notice) : Prop where
  seen_le : l.seen ≤ notices.length
  /-- It got notices that were published after it began, in their order and none of them twice. -/
  inOrder : ∃ read : List Nat, read.Pairwise (· < ·) ∧ (∀ n ∈ read, l.since ≤ n ∧ n < l.seen) ∧
    l.got.map some = read.map (notices[·]?)
  /-- If it had to skip none, it got all of them. -/
  complete : l.missed = 0 → l.got <+: notices.drop l.since
  warned : l.missed = 0 ↔ l.warnings = 0

variable {l : Listener} {notices : List Notice}

theorem follows_new (notices : List Notice) : Follows ⟨notices.length, [], 0, 0⟩ notices :=
  ⟨Nat.le_refl _, ⟨[], .nil, nofun, rfl⟩, fun _ => List.nil_prefix, Iff.rfl⟩

theorem Follows.since_le (h : l.Follows notices) : l.since ≤ notices.length := by
  have := h.seen_le
  rw [seen] at this
  omega

theorem Follows.publish (h : l.Follows notices) (n : Notice) : l.Follows (notices ++ [n]) := by
  obtain ⟨read, hpairwise, hbounds, hgot⟩ := h.inOrder
  have hlen := h.seen_le
  refine ⟨?_, ⟨read, hpairwise, hbounds, ?_⟩, fun hmissed => ?_, h.warned⟩
  · rw [List.length_append]
    exact Nat.le_add_right_of_le hlen
  · rw [hgot]
    refine List.map_congr_left fun k hk => ?_
    have hlt := (hbounds k hk).2
    rw [List.getElem?_append_left (by omega)]
  · rw [List.drop_append_of_le_length h.since_le]
    exact (h.complete hmissed).trans (List.prefix_append _ _)

/-- Where a stream goes on that has to skip what there is no room for. -/
theorem seen_add_skipped (l : Listener) (capacity published : Nat) :
    l.seen + (published - l.seen - capacity) = Ring.reach capacity published l.seen := by
  rw [Ring.reach]
  omega

variable {capacity k : Nat} {heard : Audience.Heard}

/-- What a stream gets is that many of the notices from where it goes on. -/
theorem seen_hear (l : Listener) (capacity published : Nat) (heard : Audience.Heard) :
    (l.hear capacity published heard).seen =
      Ring.reach capacity published l.seen + heard.notices.length := by
  have hseen : (l.hear capacity published heard).seen =
      l.since + (l.got ++ heard.notices).length + (l.missed + (published - l.seen - capacity)) :=
    rfl
  have hold : l.seen = l.since + l.got.length + l.missed := rfl
  rw [hseen, ← seen_add_skipped, List.length_append]
  omega

theorem Follows.hear_inOrder (h : l.Follows notices)
    (hnotices : heard.notices = (notices.drop (Ring.reach capacity notices.length l.seen)).take k) :
    ∃ read : List Nat, read.Pairwise (· < ·) ∧
      (∀ n ∈ read, l.since ≤ n ∧ n < (l.hear capacity notices.length heard).seen) ∧
      (l.got ++ heard.notices).map some = read.map (notices[·]?) := by
  obtain ⟨read, hpairwise, hbounds, hgot⟩ := h.inOrder
  have hfrom : l.seen ≤ Ring.reach capacity notices.length l.seen := Nat.le_max_left _ _
  have hsince : l.since ≤ l.seen := Nat.le_add_right_of_le (Nat.le_add_right _ _)
  rw [seen_hear]
  refine ⟨read ++ List.range' (Ring.reach capacity notices.length l.seen) heard.notices.length,
    ?_, fun n hn => ?_, ?_⟩
  · refine List.pairwise_append.2 ⟨hpairwise, List.pairwise_lt_range', fun i hi j hj => ?_⟩
    have hlt := (hbounds i hi).2
    have hge := (List.mem_range'_1.1 hj).1
    omega
  · rcases List.mem_append.1 hn with hold | hnew
    · obtain ⟨hge, hlt⟩ := hbounds n hold
      exact ⟨hge, by omega⟩
    · obtain ⟨hge, hlt⟩ := List.mem_range'_1.1 hnew
      exact ⟨by omega, hlt⟩
  · rw [List.map_append, List.map_append, hgot, List.append_cancel_left_eq]
    refine List.ext_getElem? fun i => ?_
    rcases Nat.lt_or_ge i heard.notices.length with hi | hi
    · have hk : i < k := by
        rw [hnotices, List.length_take] at hi
        omega
      have hitem : heard.notices[i]? =
          notices[Ring.reach capacity notices.length l.seen + i]? := by
        rw [hnotices, List.getElem?_take_of_lt hk, List.getElem?_drop]
      rw [List.getElem?_map, List.getElem?_map, List.getElem?_range' hi, Option.map_some,
        Nat.one_mul, ← hitem, List.getElem?_eq_getElem hi, Option.map_some]
    · rw [List.getElem?_eq_none (by simpa using hi), List.getElem?_eq_none (by simpa using hi)]

theorem Follows.hear_complete (h : l.Follows notices)
    (hnotices : heard.notices = (notices.drop (Ring.reach capacity notices.length l.seen)).take k)
    (hmissed : l.missed + (notices.length - l.seen - capacity) = 0) :
    l.got ++ heard.notices <+: notices.drop l.since := by
  have hstart : Ring.reach capacity notices.length l.seen = l.since + l.got.length := by
    have hold : l.seen = l.since + l.got.length + l.missed := rfl
    rw [← seen_add_skipped]
    omega
  obtain ⟨rest, hrest⟩ := h.complete (by omega)
  have hgoes : notices.drop (l.since + l.got.length) = rest := by
    rw [← List.drop_drop, ← hrest, List.drop_left]
  rw [hnotices, hstart, hgoes, ← hrest]
  exact (List.prefix_append_right_inj _).2 (List.take_prefix _ _)

/-- A stream that is asked goes on from where it was, or from the oldest notice that is left. -/
theorem Follows.hear (h : l.Follows notices)
    (hnotices : heard.notices = (notices.drop (Ring.reach capacity notices.length l.seen)).take k)
    (hwarnings : heard.warnings = if capacity < notices.length - l.seen then 1 else 0) :
    (l.hear capacity notices.length heard).Follows notices where
  seen_le := by
    have hle := h.seen_le
    have hreach : Ring.reach capacity notices.length l.seen ≤ notices.length := by
      rw [Ring.reach]
      omega
    rw [seen_hear, hnotices, List.length_take, List.length_drop]
    omega
  inOrder := h.hear_inOrder hnotices
  complete := h.hear_complete hnotices
  warned := by
    have hwarned := h.warned
    show l.missed + (notices.length - l.seen - capacity) = 0 ↔ l.warnings + heard.warnings = 0
    by_cases hlag : capacity < notices.length - l.seen
    · rw [hwarnings, if_pos hlag]
      omega
    · rw [hwarnings, if_neg hlag]
      omega

end Listener

namespace History

/-! ## What every act keeps -/

/-- The observers were told what they had to be told, and nothing else. -/
structure Observed (h : History) : Prop where
  observers : h.audience.hub.observers = h.joined.length
  joined : ∀ k ∈ h.joined, k ≤ h.published.length
  called : ∀ c ∈ h.calls, c.observer < h.joined.length
  told : ∀ i k, h.joined[i]? = some k → h.toldTo i = h.published.drop k
  roll : h.calls = h.roll

/-- The streams are where one who follows them thinks they are. -/
structure Heeded (h : History) : Prop where
  streams : h.audience.streams.length = h.listeners.length
  cursor : ∀ i l next, h.listeners[i]? = some l → h.audience.cursor? i = some next → next = l.seen
  follows : ∀ l ∈ h.listeners, l.Follows h.notices

/-- An audience and its history are about the same hub. -/
structure Kept (h : History) (atLeast : Nat) : Prop extends Observed h, Heeded h where
  ring : h.audience.hub.ring.Window h.notices
  capacity : h.capacity = Ring.roomFor (max 1 atLeast)

variable {h h' : History} {atLeast : Nat}

theorem kept_start (atLeast : Nat) : (start atLeast).Kept atLeast where
  observers := rfl
  joined := nofun
  called := nofun
  told := nofun
  roll := rfl
  streams := rfl
  cursor := nofun
  follows := nofun
  ring := Ring.window_make _
  capacity := rfl

/-! ### Observers -/

theorem Observed.congr (hk : h.Observed)
    (hobservers : h'.audience.hub.observers = h.audience.hub.observers)
    (hjoined : h'.joined = h.joined) (hcalls : h'.calls = h.calls)
    (hpublished : h'.published = h.published) : h'.Observed := by
  have htold : ∀ i, h'.toldTo i = h.toldTo i := fun i => by rw [toldTo, hcalls, toldTo]
  have hroll : h'.roll = h.roll := by rw [History.roll, hpublished, hjoined, History.roll]
  constructor
  · rw [hobservers, hjoined]
    exact hk.observers
  · rw [hjoined, hpublished]
    exact hk.joined
  · rw [hcalls, hjoined]
    exact hk.called
  · rw [hjoined, hpublished]
    exact fun i k hi => (htold i).trans (hk.told i k hi)
  · rw [hcalls, hroll]
    exact hk.roll

/-- Who is not there yet is not told anything. -/
theorem Observed.toldTo_length (hk : h.Observed) : h.toldTo h.joined.length = [] := by
  refine List.filterMap_eq_nil_iff.2 fun c hc => if_neg ?_
  exact Nat.ne_of_lt (hk.called c hc)

theorem Observed.addObserver (hk : h.Observed)
    (hjoined : h'.joined = h.joined ++ [h.published.length])
    (hobservers : h'.audience.hub.observers = h.audience.hub.observers + 1)
    (hcalls : h'.calls = h.calls) (hpublished : h'.published = h.published) : h'.Observed := by
  have htold : ∀ i, h'.toldTo i = h.toldTo i := fun i => by rw [toldTo, hcalls, toldTo]
  constructor
  · rw [hobservers, hjoined, hk.observers, List.length_append, List.length_singleton]
  · rw [hjoined, hpublished]
    intro k hmem
    rcases List.mem_append.1 hmem with hold | hnew
    · exact hk.joined k hold
    · exact Nat.le_of_eq (List.mem_singleton.1 hnew)
  · rw [hcalls, hjoined, List.length_append]
    exact fun c hc => Nat.lt_add_right _ (hk.called c hc)
  · rw [hjoined, hpublished]
    intro i k hi
    rw [htold]
    rcases Nat.lt_trichotomy i h.joined.length with hlt | rfl | hgt
    · rw [List.getElem?_append_left hlt] at hi
      exact hk.told i k hi
    · rw [List.getElem?_concat_length, Option.some_inj] at hi
      rw [hk.toldTo_length, ← hi, List.drop_length]
    · rw [List.getElem?_eq_none (by rw [List.length_append]; exact hgt)] at hi
      cases hi
  · rw [hcalls, hk.roll, History.roll, History.roll, hpublished, hjoined, List.flatMap_def,
      List.flatMap_def]
    congr 1
    refine List.map_congr_left fun p hp => ?_
    have hlt : p.2 < h.published.length := List.snd_lt_of_mem_zipIdx hp
    rw [List.countP_append, List.countP_singleton, if_neg (by simpa using hlt), Nat.add_zero]

/-- All who are there when a notice is published are called. -/
theorem Observed.publish (hk : h.Observed) (n : Notice) (m : Model)
    (hobservers : h'.audience.hub.observers = h.audience.hub.observers)
    (hjoined : h'.joined = h.joined) (hcalls : h'.calls = h.calls ++ h.audience.hub.calls n m)
    (hpublished : h'.published = h.published ++ [(n, m)]) : h'.Observed := by
  constructor
  · rw [hobservers, hjoined]
    exact hk.observers
  · rw [hjoined, hpublished, List.length_append]
    exact fun k hmem => Nat.le_add_right_of_le (hk.joined k hmem)
  · rw [hcalls, hjoined, ← hk.observers]
    intro c hc
    rcases List.mem_append.1 hc with hold | hnew
    · exact hk.observers ▸ hk.called c hold
    · obtain ⟨i, hi, rfl⟩ := List.mem_map.1 hnew
      exact List.mem_range.1 hi
  · rw [hjoined, hpublished]
    intro i k hi
    have hlt : i < h.audience.hub.observers := by
      rw [hk.observers]
      exact (List.getElem?_eq_some_iff.1 hi).1
    rw [toldTo, hcalls, List.filterMap_append, Hub.calls_for hlt,
      List.drop_append_of_le_length (hk.joined k (List.mem_of_getElem? hi)), ← hk.told i k hi,
      toldTo]
  · have hall : h.joined.countP (· ≤ h.published.length) = h.joined.length :=
      List.countP_eq_length.2 fun k hmem => decide_eq_true (hk.joined k hmem)
    rw [hcalls, hk.roll, History.roll, History.roll, hpublished, hjoined, List.zipIdx_append,
      List.flatMap_append, Nat.zero_add, List.zipIdx_singleton, List.flatMap_singleton, hall,
      ← hk.observers]
    rfl

/-! ### Streams -/

/-- Nothing changed, but that streams may have been given up. -/
theorem Heeded.congr (hk : h.Heeded)
    (hstreams : h'.audience.streams.length = h.audience.streams.length)
    (hcursor : ∀ i next, h'.audience.cursor? i = some next → h.audience.cursor? i = some next)
    (hlisteners : h'.listeners = h.listeners) (hpublished : h'.published = h.published) :
    h'.Heeded := by
  have hnotices : h'.notices = h.notices := by rw [notices, hpublished, notices]
  constructor
  · rw [hstreams, hlisteners]
    exact hk.streams
  · rw [hlisteners]
    exact fun i l next hl hnext => hk.cursor i l next hl (hcursor i next hnext)
  · rw [hlisteners, hnotices]
    exact hk.follows

theorem Heeded.publish (hk : h.Heeded) (n : Notice) (m : Model)
    (hstreams : h'.audience.streams = h.audience.streams)
    (hlisteners : h'.listeners = h.listeners)
    (hpublished : h'.published = h.published ++ [(n, m)]) : h'.Heeded := by
  have hnotices : h'.notices = h.notices ++ [n] := by
    rw [notices, hpublished, List.map_append, List.map_singleton, notices]
  constructor
  · rw [hstreams, hlisteners]
    exact hk.streams
  · rw [hlisteners]
    intro i l next hl hnext
    rw [Audience.cursor?, hstreams] at hnext
    exact hk.cursor i l next hl hnext
  · rw [hlisteners, hnotices]
    exact fun l hl => (hk.follows l hl).publish n

theorem Heeded.subscribe (hk : h.Heeded)
    (hstreams : h'.audience.streams = h.audience.streams ++ [some h.notices.length])
    (hlisteners : h'.listeners = h.listeners ++ [⟨h.notices.length, [], 0, 0⟩])
    (hpublished : h'.published = h.published) : h'.Heeded := by
  have hnotices : h'.notices = h.notices := by rw [notices, hpublished, notices]
  constructor
  · rw [hstreams, hlisteners, List.length_append, List.length_append, hk.streams]
    rfl
  · rw [hlisteners]
    intro i l next hl hnext
    rw [Audience.cursor?, hstreams] at hnext
    rcases Nat.lt_trichotomy i h.listeners.length with hlt | rfl | hgt
    · rw [List.getElem?_append_left hlt] at hl
      rw [List.getElem?_append_left (hk.streams ▸ hlt)] at hnext
      exact hk.cursor i l next hl hnext
    · rw [List.getElem?_concat_length, Option.some_inj] at hl
      rw [← hk.streams, List.getElem?_concat_length] at hnext
      rw [← hl, ← Option.some_inj.1 hnext]
      rfl
    · rw [List.getElem?_eq_none (by rw [List.length_append]; exact hgt)] at hl
      cases hl
  · rw [hlisteners, hnotices]
    intro l hl
    rcases List.mem_append.1 hl with hold | hnew
    · exact hk.follows l hold
    · rw [List.mem_singleton.1 hnew]
      exact Listener.follows_new _

/-- A stream was asked and gave what it has. -/
theorem Heeded.asked (hk : h.Heeded) {i next k : Nat} {c : Ring.Catch Notice}
    {heard : Audience.Heard}
    (hnext : h.audience.cursor? i = some next) (hc : c.From h.capacity h.notices next k)
    (hitems : heard.notices = c.items) (hwarnings : heard.warnings = if c.missed then 1 else 0)
    (hstreams : h'.audience.streams = h.audience.streams.set i (some c.next))
    (hlisteners : h'.listeners = h.asked i heard)
    (hpublished : h'.published = h.published) : h'.Heeded := by
  have hnotices : h'.notices = h.notices := by rw [notices, hpublished, notices]
  have hasked : h.asked i heard = h.listeners.modify i (·.hear h.capacity h.notices.length heard) :=
    if_pos (Option.isSome_of_eq_some hnext)
  constructor
  · rw [hstreams, hlisteners, hasked, List.length_set, List.length_modify]
    exact hk.streams
  · rw [hlisteners, hasked]
    intro j l' next' hl' hnext'
    have hcursor : h'.audience.cursor? j =
        if i = j ∧ j < h.audience.streams.length then some c.next else h.audience.cursor? j := by
      rw [← Audience.cursor?_set, Audience.cursor?, Audience.cursor?, hstreams]
    rw [hcursor] at hnext'
    rw [List.getElem?_modify] at hl'
    obtain ⟨l, hl, rfl⟩ := Option.map_eq_some_iff.1 hl'
    by_cases hij : i = j
    · subst hij
      have hlt : i < h.audience.streams.length := hk.streams ▸ (List.getElem?_eq_some_iff.1 hl).1
      rw [if_pos ⟨rfl, hlt⟩] at hnext'
      rw [if_pos rfl, Listener.seen_hear, ← hk.cursor i l next hl hnext, hitems, ← hc.next]
      exact (Option.some_inj.1 hnext').symm
    · rw [if_neg (fun h => hij h.1)] at hnext'
      rw [if_neg hij]
      exact hk.cursor j l next' hl hnext'
  · rw [hlisteners, hasked, hnotices]
    intro l' hmem
    obtain ⟨j, hl'⟩ := List.mem_iff_getElem?.1 hmem
    rw [List.getElem?_modify] at hl'
    obtain ⟨l, hl, rfl⟩ := Option.map_eq_some_iff.1 hl'
    have hfollows := hk.follows l (List.mem_of_getElem? hl)
    by_cases hij : i = j
    · subst hij
      have hseen := hk.cursor i l next hl hnext
      rw [if_pos rfl]
      refine hfollows.hear (hitems.trans (hseen ▸ hc.items)) ?_
      rw [hwarnings, hc.missed, hseen]
      simp only [decide_eq_true_eq]
    · rw [if_neg hij]
      exact hfollows

/-! ### Acts -/

theorem Kept.addObserver (hk : h.Kept atLeast) : (h.act .addObserver).Kept atLeast where
  toObserved := hk.toObserved.addObserver rfl rfl (List.append_nil _) rfl
  toHeeded := hk.toHeeded.congr rfl (fun _ _ => id) rfl rfl
  ring := hk.ring
  capacity := hk.capacity

theorem Kept.subscribe (hk : h.Kept atLeast) : (h.act .subscribe).Kept atLeast where
  toObserved := hk.toObserved.congr rfl rfl (List.append_nil _) rfl
  toHeeded := hk.toHeeded.subscribe
    (by rw [← Nat.zero_add h.notices.length, ← hk.ring.total]; rfl)
    (by rw [notices, List.length_map]; rfl) rfl
  ring := hk.ring
  capacity := hk.capacity

theorem Kept.unsubscribe (hk : h.Kept atLeast) (i : Nat) :
    (h.act (.unsubscribe i)).Kept atLeast where
  toObserved := hk.toObserved.congr rfl rfl (List.append_nil _) rfl
  toHeeded := hk.toHeeded.congr List.length_set (fun j next hnext => by
    have hset : (if i = j ∧ j < h.audience.streams.length then none else h.audience.cursor? j) =
        some next := (Audience.cursor?_set h.audience i j none).symm.trans hnext
    split at hset
    · cases hset
    · exact hset) rfl rfl
  ring := hk.ring
  capacity := hk.capacity

/-- Nothing is published once the hub is gone. -/
theorem act_publish_of_dropped (hdropped : h.audience.dropped = true) (n : Notice) (m : Model) :
    h.act (.publish n m) = h := by
  simp [History.act, Audience.act, hdropped, Audience.Heard.silence]

theorem act_publish (hdropped : ¬ h.audience.dropped = true) (n : Notice) (m : Model) :
    h.act (.publish n m) =
      { h with
        audience := { h.audience with hub := (h.audience.hub.publish n m).1 }
        calls := h.calls ++ h.audience.hub.calls n m
        published := h.published ++ [(n, m)] } := by
  simp [History.act, Audience.act, hdropped, Hub.publish]

theorem Kept.publish (hk : h.Kept atLeast) (n : Notice) (m : Model) :
    (h.act (.publish n m)).Kept atLeast := by
  by_cases hdropped : h.audience.dropped = true
  · rw [act_publish_of_dropped hdropped]
    exact hk
  · rw [act_publish hdropped]
    exact
      { toObserved := hk.toObserved.publish n m rfl rfl rfl rfl
        toHeeded := hk.toHeeded.publish n m rfl rfl rfl
        ring := by
          show (h.audience.hub.ring.push n).Window ((h.published ++ [(n, m)]).map Prod.fst)
          rw [List.map_append]
          exact hk.ring.push n
        capacity := (Ring.capacity_push _ n).trans hk.capacity }

/-- The history after a stream was asked. -/
def hearing (h : History) (i : Nat) (answer : Audience × Audience.Heard) : History :=
  { h with
    audience := answer.1
    calls := h.calls ++ answer.2.calls
    listeners := h.asked i answer.2 }

theorem hearing_of_gone {i : Nat} {ask : Ring Notice → Nat → Ring.Catch Notice} {untilNone : Bool}
    (hnext : h.audience.cursor? i = none) :
    h.hearing i (h.audience.read i ask untilNone) = h := by
  simp [hearing, Audience.read, hnext, asked, Audience.Heard.silence]

/-- A stream that is still read is where it seems to be. -/
theorem Kept.cursor_of_listening (hk : h.Kept atLeast) {i : Nat} {l : Listener}
    (hl : h.Listening i l) : h.audience.cursor? i = some l.seen := by
  obtain ⟨next, hnext⟩ := Option.isSome_iff_exists.1 hl.2
  rw [hnext, hk.cursor i l next hl.1 hnext]

theorem Kept.listening_of_cursor (hk : h.Kept atLeast) {i next : Nat}
    (hnext : h.audience.cursor? i = some next) : ∃ l, h.Listening i l ∧ next = l.seen := by
  have hlt : i < h.audience.streams.length := by
    refine Nat.lt_of_not_le fun hge => ?_
    rw [Audience.cursor?, List.getElem?_eq_none hge] at hnext
    cases hnext
  have hl := List.getElem?_eq_getElem (hk.streams ▸ hlt)
  exact ⟨_, ⟨hl, Option.isSome_of_eq_some hnext⟩, hk.cursor i _ next hl hnext⟩

theorem Kept.cursor_le (hk : h.Kept atLeast) {i next : Nat}
    (hnext : h.audience.cursor? i = some next) : next ≤ h.notices.length := by
  obtain ⟨l, hl, rfl⟩ := hk.listening_of_cursor hnext
  exact (hk.follows l (List.mem_of_getElem? hl.1)).seen_le

theorem Kept.hearing (hk : h.Kept atLeast) {i k : Nat}
    {ask : Ring Notice → Nat → Ring.Catch Notice} {untilNone : Bool}
    (hask : ∀ next ≤ h.notices.length,
      (ask h.audience.hub.ring next).From h.capacity h.notices next k) :
    (h.hearing i (h.audience.read i ask untilNone)).Kept atLeast := by
  cases hnext : h.audience.cursor? i with
  | none =>
    rw [hearing_of_gone hnext]
    exact hk
  | some next =>
    rw [Audience.read, hnext]
    exact
      { toObserved := hk.toObserved.congr rfl rfl (List.append_nil _) rfl
        toHeeded := hk.toHeeded.asked hnext (hask next (hk.cursor_le hnext)) rfl rfl rfl rfl rfl
        ring := hk.ring
        capacity := hk.capacity }

theorem Kept.act (hk : h.Kept atLeast) (a : Audience.Act) : (h.act a).Kept atLeast := by
  cases a with
  | addObserver => exact hk.addObserver
  | subscribe => exact hk.subscribe
  | unsubscribe i => exact hk.unsubscribe i
  | publish n m => exact hk.publish n m
  | look i => exact hk.hearing fun next _ => hk.ring.look next
  | drain i => exact hk.hearing fun next hle => hk.ring.drain hle
  | drop =>
    exact
      { toObserved := hk.toObserved.congr rfl rfl (List.append_nil _) rfl
        toHeeded := hk.toHeeded.congr rfl (fun _ _ => id) rfl rfl
        ring := hk.ring
        capacity := hk.capacity }

theorem Kept.run (hk : h.Kept atLeast) (acts : List Audience.Act) : (h.run acts).Kept atLeast := by
  induction acts generalizing h with
  | nil => exact hk
  | cons a acts ih => exact ih (hk.act a)

theorem kept (atLeast : Nat) (acts : List Audience.Act) : (of atLeast acts).Kept atLeast :=
  (kept_start atLeast).run acts

/-! ## What is heard of a stream -/

/-- A drain gives all that a stream has not seen, as far as it is still there. -/
theorem Kept.drained (hk : h.Kept atLeast) {i : Nat} {l : Listener} (hl : h.Listening i l) :
    (h.audience.act (.drain i)).2 =
      if h.behind l ≤ h.capacity then ⟨[], h.notices.drop l.seen, h.audience.dropped, 0⟩
      else ⟨[], h.notices.drop (h.notices.length - h.capacity), h.audience.dropped, 1⟩ := by
  have hnext := hk.cursor_of_listening hl
  have hle := hk.cursor_le hnext
  have hbehind : h.behind l = h.notices.length - l.seen := rfl
  have hact : (h.audience.act (.drain i)).2 =
      ⟨[], h.notices.drop (Ring.reach h.capacity h.notices.length l.seen), h.audience.dropped,
        if h.capacity < h.behind l then 1 else 0⟩ := by
    show (h.audience.read i Ring.drain true).2 = _
    simp only [Audience.read, hnext, hk.ring.drain_items, (hk.ring.drain hle).missed,
      Bool.true_or, Bool.and_true, decide_eq_true_eq]
    rfl
  rw [hact]
  by_cases hlag : h.behind l ≤ h.capacity
  · have hreach : Ring.reach h.capacity h.notices.length l.seen = l.seen := by
      rw [Ring.reach]
      omega
    rw [if_pos hlag, if_neg (Nat.not_lt.2 hlag), hreach]
  · have hreach : Ring.reach h.capacity h.notices.length l.seen =
        h.notices.length - h.capacity := by
      rw [Ring.reach]
      omega
    rw [if_neg hlag, if_pos (Nat.not_le.1 hlag), hreach]

/-- Asked for one notice, a stream gives the first that a drain gives. -/
theorem Kept.looked (hk : h.Kept atLeast) {i : Nat} {l : Listener} (hl : h.Listening i l) :
    (h.audience.act (.look i)).2 =
      { (h.audience.act (.drain i)).2 with
        notices := (h.audience.act (.drain i)).2.notices.take 1
        ended := h.audience.dropped && (h.audience.act (.drain i)).2.notices.isEmpty } := by
  have hnext := hk.cursor_of_listening hl
  have hmissed : (h.audience.hub.ring.look l.seen).missed =
      (h.audience.hub.ring.drain l.seen).missed := rfl
  have hempty : ((h.audience.hub.ring.drain l.seen).items.take 1).isEmpty =
      (h.audience.hub.ring.drain l.seen).items.isEmpty := by
    cases (h.audience.hub.ring.drain l.seen).items <;> rfl
  show (h.audience.read i Ring.look false).2 = { (h.audience.read i Ring.drain true).2 with
    notices := (h.audience.read i Ring.drain true).2.notices.take 1
    ended := h.audience.dropped && (h.audience.read i Ring.drain true).2.notices.isEmpty }
  simp only [Audience.read, hnext, hk.ring.look_items, hmissed, hempty, Bool.false_or]

/-- After a drain nothing is left to be seen. -/
theorem Kept.caughtUp (hk : h.Kept atLeast) {i : Nat} {l : Listener} (hl : h.Listening i l) :
    (h.act (.drain i)).audience.cursor? i = some h.notices.length := by
  have hnext := hk.cursor_of_listening hl
  have hlt : i < h.audience.streams.length :=
    hk.streams ▸ (List.getElem?_eq_some_iff.1 hl.1).1
  show (h.audience.read i Ring.drain true).1.cursor? i = _
  rw [Audience.read, hnext]
  show { h.audience with
    streams := h.audience.streams.set i (some h.audience.hub.ring.total) }.cursor? i = _
  rw [Audience.cursor?_set, if_pos ⟨rfl, hlt⟩, hk.ring.total, Nat.zero_add]

/-! ### The end -/

/-- A stream that has nothing to give any more: it was given up, or it has given all there was when
the hub went. -/
def Spent (h : History) (i : Nat) : Prop :=
  i < h.audience.streams.length ∧
    (h.audience.cursor? i = none ∨
      h.audience.dropped = true ∧ h.audience.cursor? i = some h.notices.length)

theorem Kept.spent_heard (hk : h.Kept atLeast) {i : Nat} (hs : h.Spent i) :
    (h.audience.act (.drain i)).2 = { Audience.Heard.silence with ended := true } ∧
      (h.audience.act (.look i)).2 = { Audience.Heard.silence with ended := true } := by
  obtain ⟨-, hgone | ⟨hdropped, hnext⟩⟩ := hs
  · constructor
    · show (h.audience.read i Ring.drain true).2 = _
      rw [Audience.read, hgone]
    · show (h.audience.read i Ring.look false).2 = _
      rw [Audience.read, hgone]
  · obtain ⟨l, hl, hseen⟩ := hk.listening_of_cursor hnext
    have hbehind : h.behind l = 0 := by rw [behind, ← hseen, Nat.sub_self]
    have hdrain :
        (h.audience.act (.drain i)).2 = { Audience.Heard.silence with ended := true } := by
      rw [hk.drained hl, if_pos (hbehind ▸ Nat.zero_le _), ← hseen, List.drop_length, hdropped]
      rfl
    refine ⟨hdrain, ?_⟩
    rw [hk.looked hl, hdrain, hdropped]
    rfl

theorem hearing_spent (hk : h.Kept atLeast) {i j : Nat} (hs : h.Spent i)
    {ask : Ring Notice → Nat → Ring.Catch Notice} {untilNone : Bool} {k : Nat}
    (hask : ∀ next ≤ h.notices.length,
      (ask h.audience.hub.ring next).From h.capacity h.notices next k) :
    (h.hearing j (h.audience.read j ask untilNone)).Spent i := by
  cases hnext : h.audience.cursor? j with
  | none =>
    rw [hearing_of_gone hnext]
    exact hs
  | some next =>
    have hc := hask next (hk.cursor_le hnext)
    have hread : (h.audience.read j ask untilNone).1 =
        { h.audience with streams :=
          h.audience.streams.set j (some (ask h.audience.hub.ring next).next) } := by
      rw [Audience.read, hnext]
    rw [Spent, History.hearing, hread]
    refine ⟨by rw [List.length_set]; exact hs.1, ?_⟩
    rw [Audience.cursor?_set]
    by_cases hij : j = i
    · subst hij
      obtain ⟨hlt, hgone | ⟨hdropped, hend⟩⟩ := hs
      · rw [hnext] at hgone
        cases hgone
      · have hlast : next = h.notices.length := Option.some_inj.1 (hnext.symm.trans hend)
        have hreach : Ring.reach h.capacity h.notices.length h.notices.length = h.notices.length :=
          Nat.max_eq_left (Nat.sub_le _ _)
        have hnone : (ask h.audience.hub.ring next).items = [] := by
          rw [hc.items, hlast, hreach, List.drop_length, List.take_nil]
        refine .inr ⟨hdropped, ?_⟩
        rw [if_pos ⟨rfl, hlt⟩, hc.next, hnone, hlast, hreach]
        rfl
    · rw [if_neg (fun h => hij h.1)]
      exact hs.2

/-- A stream that has nothing to give any more never has anything again. -/
theorem Kept.act_spent (hk : h.Kept atLeast) {i : Nat} (hs : h.Spent i) (a : Audience.Act) :
    (h.act a).Spent i := by
  obtain ⟨hlt, hend⟩ := hs
  cases a with
  | addObserver => exact ⟨hlt, hend⟩
  | subscribe =>
    refine ⟨by rw [History.act, Audience.act, List.length_append]; exact Nat.lt_add_right _ hlt, ?_⟩
    have hcursor : (h.act .subscribe).audience.cursor? i = h.audience.cursor? i :=
      congrArg Option.join (List.getElem?_append_left hlt)
    rw [hcursor]
    exact hend
  | unsubscribe j =>
    refine ⟨Nat.lt_of_lt_of_eq hlt List.length_set.symm, ?_⟩
    show { h.audience with streams := h.audience.streams.set j none }.cursor? i = none ∨ _ ∧
      { h.audience with streams := h.audience.streams.set j none }.cursor? i = _
    rw [Audience.cursor?_set]
    split
    · exact .inl rfl
    · exact hend
  | publish n m =>
    by_cases hdropped : h.audience.dropped = true
    · rw [act_publish_of_dropped hdropped]
      exact ⟨hlt, hend⟩
    · rw [act_publish hdropped]
      exact ⟨hlt, .inl (hend.resolve_right fun h => hdropped h.1)⟩
  | look j => exact hearing_spent hk ⟨hlt, hend⟩ fun next _ => hk.ring.look next
  | drain j => exact hearing_spent hk ⟨hlt, hend⟩ fun next hle => hk.ring.drain hle
  | drop => exact ⟨hlt, hend.imp_right fun h => ⟨rfl, h.2⟩⟩

theorem Kept.run_spent (hk : h.Kept atLeast) {i : Nat} (hs : h.Spent i) (acts : List Audience.Act) :
    (h.run acts).Spent i := by
  induction acts generalizing h with
  | nil => exact hs
  | cons a acts ih => exact ih (hk.act a) (hk.act_spent hs a)

/-- Only a stream that has seen everything gives nothing. -/
theorem Kept.seen_all (hk : h.Kept atLeast) {i : Nat} {l : Listener} (hl : h.Listening i l)
    (hnone : (h.audience.act (.drain i)).2.notices = []) : l.seen = h.notices.length := by
  have hle := hk.cursor_le (hk.cursor_of_listening hl)
  have hbehind : h.behind l = h.notices.length - l.seen := rfl
  have hroom : 0 < h.capacity := hk.ring.room
  rw [hk.drained hl] at hnone
  split at hnone
  · have hge := List.drop_eq_nil_iff.1 hnone
    omega
  · have hge := List.drop_eq_nil_iff.1 hnone
    omega

/-- A stream that says it has ended has nothing to give any more. -/
theorem Kept.ended (hk : h.Kept atLeast) {i : Nat} (hlt : i < h.audience.streams.length)
    {a : Audience.Act} (ha : a = .look i ∨ a = .drain i)
    (hended : (h.audience.act a).2.ended = true) :
    (h.act a).Spent i := by
  cases hnext : h.audience.cursor? i with
  | none => exact hk.act_spent ⟨hlt, .inl hnext⟩ a
  | some next =>
    obtain ⟨l, hl, rfl⟩ := hk.listening_of_cursor hnext
    rcases ha with rfl | rfl
    · rw [hk.looked hl, Bool.and_eq_true, List.isEmpty_iff] at hended
      rw [hk.seen_all hl hended.2] at hnext
      exact hk.act_spent ⟨hlt, .inr ⟨hended.1, hnext⟩⟩ _
    · have hdropped : h.audience.dropped = true := by
        rw [hk.drained hl] at hended
        split at hended <;> exact hended
      have haudience : (h.act (.drain i)).audience.dropped = true := by
        show (h.audience.read i Ring.drain true).1.dropped = true
        rw [Audience.read, hnext]
        exact hdropped
      have hlength : i < (h.act (.drain i)).audience.streams.length := by
        show i < (h.audience.read i Ring.drain true).1.streams.length
        rw [Audience.read, hnext]
        exact Nat.lt_of_lt_of_eq hlt List.length_set.symm
      exact ⟨hlength, .inr ⟨haudience, hk.caughtUp hl⟩⟩

/-! ### Streams that keep up -/

theorem warnings_asked {i j : Nat} {heard : Audience.Heard} {l' : Listener}
    (hl' : (h.asked j heard)[i]? = some l') :
    ∃ l, h.listeners[i]? = some l ∧
      (l' = l ∨ h.Listening i l ∧ i = j ∧ l'.warnings = l.warnings + heard.warnings) := by
  rw [asked] at hl'
  split at hl'
  · rename_i hcursor
    rw [List.getElem?_modify] at hl'
    obtain ⟨l, hl, rfl⟩ := Option.map_eq_some_iff.1 hl'
    by_cases hij : j = i
    · subst hij
      rw [if_pos rfl]
      exact ⟨l, hl, .inr ⟨⟨hl, hcursor⟩, rfl, rfl⟩⟩
    · rw [if_neg hij]
      exact ⟨l, hl, .inl rfl⟩
  · exact ⟨l', hl', .inl rfl⟩

/-- A stream is warned by no act while it is not too far behind. -/
theorem Kept.unwarned_act (hk : h.Kept atLeast) (a : Audience.Act) {i : Nat} {l' : Listener}
    (hl' : (h.act a).listeners[i]? = some l')
    (hbehind : ∀ l, h.listeners[i]? = some l → l.warnings = 0 ∧ h.behind l ≤ h.capacity) :
    l'.warnings = 0 := by
  -- only who asks a stream can be warned
  have hasked : ∀ {j : Nat} {heard : Audience.Heard},
      (∀ l, h.Listening j l → heard.warnings = (h.audience.act (.drain j)).2.warnings) →
      (h.asked j heard)[i]? = some l' → l'.warnings = 0 := by
    intro j heard hheard hl'
    obtain ⟨l, hl, rfl | ⟨hlistening, rfl, hwarnings⟩⟩ := warnings_asked hl'
    · exact (hbehind l' hl).1
    · obtain ⟨hnone, hle⟩ := hbehind l hl
      rw [hwarnings, hnone, hheard l hlistening, hk.drained hlistening, if_pos hle, Nat.zero_add]
  cases a with
  | addObserver => exact (hbehind l' hl').1
  | subscribe =>
    rcases Nat.lt_or_ge i h.listeners.length with hlt | hge
    · exact (hbehind l' ((List.getElem?_append_left hlt).symm.trans hl')).1
    · have hnew := List.mem_of_getElem? ((List.getElem?_append_right hge).symm.trans hl')
      rw [List.mem_singleton.1 hnew]
  | unsubscribe j => exact (hbehind l' hl').1
  | publish n m => exact (hbehind l' hl').1
  | look j =>
    refine hasked (fun l hl => ?_) hl'
    rw [hk.looked hl]
  | drain j => exact hasked (fun _ _ => rfl) hl'
  | drop => exact (hbehind l' hl').1

/-- A stream that is never too far behind is never warned. -/
theorem Kept.unwarned_run (hk : h.Kept atLeast) {i : Nat}
    (hold : ∀ l, h.listeners[i]? = some l → l.warnings = 0) (acts : List Audience.Act)
    (hbehind : ∀ earlier, earlier <+: acts → ∀ l, (h.run earlier).listeners[i]? = some l →
      (h.run earlier).behind l ≤ (h.run earlier).capacity)
    {l : Listener} (hl : (h.run acts).listeners[i]? = some l) : l.warnings = 0 := by
  induction acts generalizing h with
  | nil => exact hold l hl
  | cons a acts ih =>
    refine ih (hk.act a) (fun l' hl' => ?_) (fun earlier hearlier => ?_) hl
    · exact hk.unwarned_act a hl' fun l hl => ⟨hold l hl, hbehind [] List.nil_prefix l hl⟩
    · exact hbehind (a :: earlier) (List.cons_prefix_cons.2 ⟨rfl, hearlier⟩)

/-- A stream without warnings gives what an observer is told who was added when it began. -/
theorem Kept.faithful (hk : h.Kept atLeast) {l : Listener} (hl : l ∈ h.listeners)
    (hwarnings : l.warnings = 0) {k : Nat} (hjoined : h.joined[k]? = some l.since) :
    l.got ++ h.notices.drop l.seen = (h.toldTo k).map Prod.fst := by
  have hfollows := hk.follows l hl
  have hmissed := hfollows.warned.2 hwarnings
  obtain ⟨rest, hrest⟩ := hfollows.complete hmissed
  have hseen : l.seen = l.since + l.got.length := by rw [Listener.seen, hmissed, Nat.add_zero]
  rw [hk.told k _ hjoined, List.map_drop, ← notices, ← hrest, hseen, ← List.drop_drop, ← hrest,
    List.drop_left]

/-! ## The delivery law -/

/-- The delivery law, for what has happened to a hub that was asked for so much room. -/
structure Delivered (h : History) (atLeast : Nat) : Prop where
  /-- The room of the hub is the least power of two that is enough. -/
  room : ∃ k, h.capacity = Nat.pow 2 k ∧ max 1 atLeast ≤ h.capacity ∧
    ∀ j, max 1 atLeast ≤ Nat.pow 2 j → h.capacity ≤ Nat.pow 2 j
  /-- An observer is told all that was published after it was added, once and in order. -/
  observed : ∀ i k, h.joined[i]? = some k → h.toldTo i = h.published.drop k
  /-- The observers of a notice are called in the order in which they were added. -/
  roll : h.calls = h.roll
  /-- A stream gives notices that were published after it began, in their order and none twice. -/
  inOrder : ∀ l ∈ h.listeners, ∃ read : List Nat, read.Pairwise (· < ·) ∧
    (∀ n ∈ read, l.since ≤ n ∧ n < l.seen) ∧ l.got.map some = read.map (h.notices[·]?)
  /-- Who drains a stream gets all that it has not seen, and no warning; if there is more than the
  hub has room for, as many of the last as there is room for, and one warning.  The stream has
  ended with this if the hub is gone. -/
  drained : ∀ i l, h.Listening i l → (h.audience.act (.drain i)).2 =
    if h.behind l ≤ h.capacity then ⟨[], h.notices.drop l.seen, h.audience.dropped, 0⟩
    else ⟨[], h.notices.drop (h.notices.length - h.capacity), h.audience.dropped, 1⟩
  /-- Who asks for one notice gets the first of these.  The stream has ended if the hub is gone and
  there is none. -/
  looked : ∀ i l, h.Listening i l → (h.audience.act (.look i)).2 =
    { (h.audience.act (.drain i)).2 with
      notices := (h.audience.act (.drain i)).2.notices.take 1
      ended := h.audience.dropped && (h.audience.act (.drain i)).2.notices.isEmpty }
  /-- A stream that has ended gives nothing any more, whatever is done. -/
  ended : ∀ i < h.listeners.length, ∀ a, a = .look i ∨ a = .drain i →
    (h.audience.act a).2.ended = true → ∀ acts b, b = .look i ∨ b = .drain i →
      (((h.act a).run acts).audience.act b).2 = { Audience.Heard.silence with ended := true }
  /-- What a stream without warnings gave, and what it has not seen yet, is what an observer was
  told who was added when the stream began. -/
  faithful : ∀ l ∈ h.listeners, l.warnings = 0 → ∀ k, h.joined[k]? = some l.since →
    l.got ++ h.notices.drop l.seen = (h.toldTo k).map Prod.fst

theorem Kept.ended_for_good (hk : h.Kept atLeast) {i : Nat} (hlt : i < h.listeners.length)
    {a : Audience.Act} (ha : a = .look i ∨ a = .drain i)
    (hended : (h.audience.act a).2.ended = true)
    (acts : List Audience.Act) {b : Audience.Act} (hb : b = .look i ∨ b = .drain i) :
    (((h.act a).run acts).audience.act b).2 = { Audience.Heard.silence with ended := true } := by
  have hspent := hk.ended (Nat.lt_of_lt_of_eq hlt hk.streams.symm) ha hended
  have hheard := ((hk.act a).run acts).spent_heard ((hk.act a).run_spent hspent acts)
  rcases hb with rfl | rfl
  · exact hheard.2
  · exact hheard.1

theorem Kept.delivered (hk : h.Kept atLeast) : h.Delivered atLeast where
  room := hk.capacity ▸ Ring.roomFor_spec _
  observed := hk.told
  roll := hk.toObserved.roll
  inOrder := fun l hl => (hk.follows l hl).inOrder
  drained := fun _ _ hl => hk.drained hl
  looked := fun _ _ hl => hk.looked hl
  ended := fun _ hlt _ ha hended acts _ hb => hk.ended_for_good hlt ha hended acts hb
  faithful := fun _ hl hwarnings _ hjoined => hk.faithful hl hwarnings hjoined

/-- At no time were there more notices that a stream had not seen than the hub had room for. -/
def KeepsUp (atLeast : Nat) (acts : List Audience.Act) (i : Nat) : Prop :=
  ∀ earlier, earlier <+: acts → ∀ l, (of atLeast earlier).listeners[i]? = some l →
    (of atLeast earlier).behind l ≤ (of atLeast earlier).capacity

/-- **The delivery law**: whatever is done to a hub and its streams, its observers are told
everything and its streams give everything that there is room for.  A stream that keeps up is never
warned. -/
theorem delivery_law (atLeast : Nat) (acts : List Audience.Act) :
    (of atLeast acts).Delivered atLeast ∧
      ∀ i l, KeepsUp atLeast acts i → (of atLeast acts).listeners[i]? = some l →
        l.warnings = 0 := by
  refine ⟨(kept atLeast acts).delivered, fun i l hkeeps hl => ?_⟩
  have hnobody : ∀ l, (start atLeast).listeners[i]? = some l → l.warnings = 0 := by
    intro l hl
    rw [start, List.getElem?_nil] at hl
    cases hl
  exact (kept_start atLeast).unwarned_run hnobody acts hkeeps hl

/-- A hub that was asked for room for three has room for four: of six notices the last four are
left. -/
example :
    ((of 3 (.subscribe :: List.replicate 6 (.publish (.model .laps) .empty))).audience.act
      (.drain 0)).2 = ⟨[], List.replicate 4 (.model .laps), false, 1⟩ := rfl

end History
end RaceLink
