import RaceLink.Link.Counters
import RaceLink.Link.Handle
import RaceLink.Proofs.Link.Lifecycle
import RaceLink.Proofs.Link.Reconnect

/-!
# Counting in words

Of all that a client computes in words only one thing can leave its range: the count of attempts in
a row that led to no session, of which 32 bits hold no more than 4294967295.

* `Span.exists_half`, `Model.place?_eq` — halves and places fit, whatever they are taken of.
* `Tally` — what there is to count, as numbers, read off the events.
* `Counters.Counting`, `Counters.counting_after` — counters that count just that, or have broken;
  what a deed does to them.
* `Life.counters?`, `Life.along?_spec` — the counters of a client, and when they break.
* `Life.Knocked`, `Life.knocked` — clients whose attempts are all refused, any number of them.
* `Life.Reckoned`, `Life.counters_reckoned` — **the counters of every client**.
-/

set_option autoImplicit false

namespace RaceLink

/-! ## Halves -/

namespace Span

/-- Every number of milliseconds is a length of time. -/
theorem exists_ofMilliseconds (milliseconds : UInt64) : ∃ d, ofMilliseconds? milliseconds = some d ∧
    d.nanoseconds.toNat < Rate.second ∧ d.total = milliseconds.toNat * 1000000 := by
  have hrest : (milliseconds % 1000).toNat = milliseconds.toNat % 1000 := UInt64.toNat_mod _ _
  have hseconds : (milliseconds / 1000).toNat = milliseconds.toNat / 1000 := UInt64.toNat_div _ _
  have hlt : (milliseconds % 1000).toNat * 1000000 < Rate.second := by
    rw [hrest, Rate.second]
    omega
  obtain ⟨nanoseconds, hword, hvalue⟩ := exists_word32 (Nat.lt_trans hlt (by decide))
  refine ⟨⟨milliseconds / 1000, nanoseconds⟩, ?_, hvalue ▸ hlt, ?_⟩
  · rw [ofMilliseconds?, hword]
    rfl
  · rw [total, hvalue, hrest, hseconds, Rate.second]
    omega

/-- Every length of time has a half. -/
theorem exists_half {d : Span} (h : d.nanoseconds.toNat < Rate.second) :
    ∃ e, d.half? = some e ∧ e.nanoseconds.toNat < Rate.second ∧ e.total = d.total / 2 := by
  have hodd : (d.seconds % 2).toNat = d.seconds.toNat % 2 := UInt64.toNat_mod _ _
  have hseconds : (d.seconds / 2).toNat = d.seconds.toNat / 2 := UInt64.toNat_div _ _
  have hrest : (d.nanoseconds % 2).toNat = d.nanoseconds.toNat % 2 := UInt32.toNat_mod _ _
  have hwhole : (d.nanoseconds / 2).toNat = d.nanoseconds.toNat / 2 := UInt32.toNat_div _ _
  rw [Rate.second] at h
  have hsecondfits : (d.seconds % 2).toNat * Rate.second < UInt64.size := by
    rw [hodd, Rate.second, UInt64.size]
    omega
  obtain ⟨second, hsecond, hsecondvalue⟩ := exists_word64 hsecondfits
  rw [hodd, Rate.second] at hsecondvalue
  have hleftfits : second.toNat + (d.nanoseconds % 2).toNat < UInt64.size := by
    rw [hrest, UInt64.size]
    omega
  obtain ⟨left, hleft, hleftvalue⟩ := exists_word64 hleftfits
  have hhalf : (left / 2).toNat = left.toNat / 2 := UInt64.toNat_div _ _
  have hfits : (d.nanoseconds / 2).toNat + (left / 2).toNat < UInt32.size := by
    rw [hwhole, hhalf, UInt32.size]
    omega
  obtain ⟨nanoseconds, hword, hvalue⟩ := exists_word32 hfits
  rw [hrest] at hleftvalue
  rw [hwhole, hhalf] at hvalue
  refine ⟨⟨d.seconds / 2, nanoseconds⟩, ?_, ?_, ?_⟩
  · rw [half?, hsecond, Option.bind_eq_bind, Option.bind_some, hleft, Option.bind_eq_bind,
      Option.bind_some, hword]
    rfl
  · show nanoseconds.toNat < Rate.second
    rw [Rate.second]
    omega
  · rw [total, total, hseconds, Rate.second]
    show d.seconds.toNat / 2 * 1000000000 + nanoseconds.toNat = _
    omega

end Span

namespace Terms

/-- Half of the time of silence fits, and to the next whole millisecond it is `half`. -/
theorem exists_window {t : Terms} (h : t.idle < UInt64.size) : ∃ d, t.window? = some d ∧
    d.nanoseconds.toNat < Rate.second ∧ d.total = t.idle * 500000 ∧
    t.half = (d.total + 999999) / 1000000 := by
  obtain ⟨idle, hidle, hvalue⟩ := exists_word64 h
  obtain ⟨d, hd, hnano, htotal⟩ := Span.exists_ofMilliseconds idle
  obtain ⟨e, he, hsmall, hhalf⟩ := Span.exists_half hnano
  rw [htotal, hvalue] at hhalf
  refine ⟨e, ?_, hsmall, by omega, ?_⟩
  · rw [window?, hidle, Option.bind_eq_bind, Option.bind_some, hd, Option.bind_eq_bind,
      Option.bind_some, he]
  · rw [half]
    omega

end Terms

/-! ## Places -/

namespace Model

/-- The index of a lap fits and is in the list, whatever its number is. -/
theorem place?_eq (m : Model) (lap : Lap) (number : Option UInt32) :
    m.place? lap number = some (m.applyLap lap number) := by
  cases number with
  | none => rfl
  | some n =>
    have hvalue : n.toUInt64.toNat = n.toNat := UInt32.toNat_toUInt64 n
    have hpos : 1 ≤ n.toUInt64 ↔ 0 < n.toNat := by
      rw [UInt64.le_iff_toNat_le, hvalue]
      exact Iff.rfl
    simp only [place?, applyLap, Option.map_some, Option.getD_some, hpos, hvalue]
    split
    case isFalse => rfl
    case isTrue h =>
      obtain ⟨index, hindex, hless⟩ := exists_less64 (hpos.2 h.1)
      have hless : index.toNat = n.toNat - 1 := by rw [hless, hvalue]; rfl
      have hlt : n.toNat - 1 < m.laps.length := by omega
      rw [hindex, Option.bind_eq_bind, Option.bind_some, hless, List.getElem?_eq_getElem hlt,
        Option.bind_eq_bind, Option.bind_some, apply_ite some]
      simp only [Option.some.injEq]

theorem take?_eq (m : Model) (f : Frame) : m.take? f = some (m.apply f) := by
  cases f with
  | lap lap number => exact m.place?_eq lap number
  | _ => rfl

end Model

/-! ## What there is to count -/

namespace Event

/-- An event that is counted. -/
def isCounted (e : Event) : Bool := e.isAttempt || e.opened?.isSome || e.taken?.isSome

end Event

/-- What there is to count. -/
structure Tally where
  attempts : Nat
  sessions : Nat
  frames : Nat

namespace Tally

/-- The events since a session was opened last, the newest one first. -/
def recent (es : List Event) : List Event := es.reverse.takeWhile fun e => e.opened?.isNone

/-- What there is to count in some events: the attempts since a session was opened last, the
sessions, and the frames taken since one was opened last. -/
def of (es : List Event) : Tally :=
  { attempts := (recent es).countP Event.isAttempt
    sessions := es.countP (·.opened?.isSome)
    frames := (recent es).countP (·.taken?.isSome) }

/-- What there is to count after one more event. -/
def next (t : Tally) : Event → Tally
  | .attempted => { t with attempts := t.attempts + 1 }
  | .opened _ => ⟨0, t.sessions + 1, 0⟩
  | .took _ _ => { t with frames := t.frames + 1 }
  | _ => t

theorem recent_concat (es : List Event) (e : Event) :
    recent (es ++ [e]) = if e.opened?.isNone then e :: recent es else [] := by
  rw [recent, List.reverse_append, List.reverse_singleton, List.singleton_append,
    List.takeWhile_cons]
  rfl

theorem of_concat (es : List Event) (e : Event) : of (es ++ [e]) = (of es).next e := by
  rw [of, recent_concat, List.countP_append]
  cases e with
  | attempted =>
    have hcount : (Event.attempted :: recent es).countP Event.isAttempt = _ :=
      List.countP_cons_of_pos rfl
    exact congrArg (Tally.mk · _ _) hcount
  | took n text =>
    have hcount : (Event.took n text :: recent es).countP (·.taken?.isSome) = _ :=
      List.countP_cons_of_pos rfl
    exact congrArg (Tally.mk _ _ ·) hcount
  | _ => rfl

theorem next_eq_self {e : Event} (h : e.isCounted = false) (t : Tally) : t.next e = t := by
  cases e with
  | attempted | opened n | took n text => cases h
  | _ => rfl

/-- Only events that are counted count. -/
theorem of_append (es fs : List Event) :
    of (es ++ fs) = (fs.filter Event.isCounted).foldl next (of es) := by
  induction fs using List.reverseRecOn with
  | nil => rw [List.append_nil]; rfl
  | append_singleton fs e ih =>
    rw [← List.append_assoc, of_concat, ih, List.filter_append, List.foldl_append]
    cases he : e.isCounted with
    | true => rw [List.filter_cons_of_pos he]; rfl
    | false =>
      rw [List.filter_cons_of_neg (by rw [he]; exact Bool.false_ne_true), next_eq_self he]
      rfl

/-- Attempts that are all that is counted. -/
theorem of_attempts {es : List Event} {n : Nat}
    (h : es.filter Event.isCounted = List.replicate n .attempted) : of es = ⟨n, 0, 0⟩ := by
  rw [← List.nil_append es, of_append, h]
  clear h
  induction n with
  | zero => rfl
  | succ n ih =>
    rw [List.replicate_succ', List.foldl_append, ih]
    rfl

theorem frames_le (es : List Event) : (of es).frames ≤ es.countP (·.taken?.isSome) := by
  have hle : (of es).frames ≤ es.reverse.countP (·.taken?.isSome) :=
    (List.takeWhile_sublist _).countP_le
  rwa [List.countP_reverse] at hle

end Tally

namespace Link

/-- What is counted of a story: one event at most. -/
theorem counted_story (s : Link) (d : Deed) :
    (s.story d).filter Event.isCounted =
      match d with
      | .attempt => [.attempted]
      | .resolve a => if a.ending = .accepted then [.opened (s.peers.length + 1)] else []
      | .read n text => [.took n text]
      | _ => [] := by
  cases d with
  | resolve a =>
    rw [story]
    by_cases hacc : a.ending = .accepted
    · rw [if_pos hacc, opening, List.filter_append, List.filter_append,
        filter_fate _ _ _ _ rfl rfl, filter_posts _ _ _ false fun _ => rfl]
      exact (if_pos hacc).symm
    · rw [if_neg hacc]
      exact (if_neg hacc).symm
  | read n text =>
    rw [story, List.filter_cons, filter_heard _ _ _ _ false rfl fun _ _ => rfl]
    rfl
  | watch n probed =>
    cases probed with
    | true => rfl
    | false =>
      rw [story, List.filter_append, filter_fate _ _ _ _ rfl rfl,
        filter_posts _ _ _ false fun _ => rfl]
      rfl
  | serve n id r =>
    rw [story, List.filter_append, List.filter_append, List.filter_append,
      filter_fate _ _ _ _ rfl rfl, filter_posts _ _ _ false fun _ => rfl,
      filter_prelude _ _ _ false rfl fun _ _ => rfl]
    rfl
  | decline id r =>
    rw [story, List.filter_append, filter_prelude _ _ _ false rfl fun _ _ => rfl]
    rfl
  | stop =>
    rw [story, List.filter_cons, filter_refusals _ _ false fun _ => rfl]
    rfl
  | _ => rfl

end Link

/-! ## What becomes of the counters -/

namespace Counters

variable {k : Counters} {t : Tally} {s : Link}

/-- What has been counted. -/
def tally (k : Counters) : Tally := ⟨k.attempt.toNat, k.sessions.toNat, k.frames.toNat⟩

/-- Counters that count what there is to count.  They break if these are too many attempts. -/
structure Counting (t : Tally) (r : Option Counters) : Prop where
  breaks : r = none ↔ UInt32.size ≤ t.attempts
  counts : ∀ k, r = some k → k.tally = t

theorem counting_some (h : k.tally = t) : Counting t (some k) := by
  refine ⟨iff_of_false (Option.some_ne_none k) (Nat.not_le_of_lt ?_), fun k' hk => ?_⟩
  · rw [← h]
    exact k.attempt.toNat_lt_size
  · rw [← Option.some_inj.1 hk, h]

theorem counting_none (h : UInt32.size ≤ t.attempts) : Counting t none :=
  ⟨iff_of_true rfl h, fun _ hk => by cases hk⟩

theorem counting_attempt (h : k.tally = t) :
    Counting (t.next .attempted) (k.after? s .attempt) := by
  subst h
  by_cases hfit : k.attempt.toNat + 1 < UInt32.size
  · obtain ⟨attempt, hword, hvalue⟩ := exists_word32 hfit
    rw [after?, hword]
    exact counting_some (congrArg (Tally.mk · _ _) hvalue)
  · have hword := word32?_eq_none_iff.2 (Nat.le_of_not_lt hfit)
    rw [after?, hword]
    exact counting_none (Nat.le_of_not_lt hfit)

theorem counting_accepted {a : Attempt} (n : Nat) (h : k.tally = t)
    (hacc : a.ending = .accepted) (hidle : s.terms.idle < UInt64.size)
    (hsessions : (t.next (.opened n)).sessions < UInt64.size) :
    Counting (t.next (.opened n)) (k.after? s (.resolve a)) := by
  subst h
  obtain ⟨sessions, hword, hvalue⟩ := exists_word64 hsessions
  obtain ⟨window, hwindow, -⟩ := Terms.exists_window hidle
  have hword : word64? (k.sessions.toNat + 1) = some sessions := hword
  rw [after?, if_pos hacc, hword, Option.bind_eq_bind, Option.bind_some, hwindow]
  exact counting_some (congrArg (Tally.mk _ · _) hvalue)

theorem counting_read {n : Nat} {text : String} (h : k.tally = t)
    (hframes : (t.next (.took n text)).frames < UInt64.size) :
    Counting (t.next (.took n text)) (k.after? s (.read n text)) := by
  subst h
  obtain ⟨frames, hword, hvalue⟩ := exists_word64 hframes
  have hword : word64? (k.frames.toNat + 1) = some frames := hword
  have hcounts : Counting (k.tally.next (.took n text)) (some { k with frames := frames }) :=
    counting_some (congrArg (Tally.mk _ _ ·) hvalue)
  rw [after?, hword, Option.bind_eq_bind, Option.bind_some]
  cases Frame.decode text with
  | error f => exact hcounts
  | ok f =>
    show Counting _ ((s.model.take? f).bind _)
    rw [Model.take?_eq]
    exact hcounts

/-- **What a deed does to the counters.**  As long as there are not too many sessions and frames,
they go on counting what there is to count. -/
theorem counting_after {es : List Event} {d : Deed} (hk : k.tally = Tally.of es)
    (hidle : s.terms.idle < UInt64.size)
    (hsessions : (Tally.of (es ++ s.story d)).sessions < UInt64.size)
    (hframes : (Tally.of (es ++ s.story d)).frames < UInt64.size) :
    Counting (Tally.of (es ++ s.story d)) (k.after? s d) := by
  rw [Tally.of_append, Link.counted_story] at hsessions hframes ⊢
  cases d with
  | attempt => exact counting_attempt hk
  | resolve a =>
    by_cases hacc : a.ending = .accepted
    · simp only [if_pos hacc] at hsessions ⊢
      exact counting_accepted (s.peers.length + 1) hk hacc hidle hsessions
    · simp only [if_neg hacc]
      rw [after?, if_neg hacc]
      exact counting_some hk
  | read n text => exact counting_read hk hframes
  | _ => exact counting_some hk

end Counters

/-! ## The counters of a life -/

namespace Life

/-- What there was to count in some chapters. -/
def tallied (chs : List Chapter) : Tally := Tally.of (chs.flatMap Chapter.events)

/-- The counters after some chapters. -/
def along? (chs : List Chapter) : Option Counters :=
  chs.foldlM (fun k ch => k.after? ch.before ch.deed) Counters.start

/-- The counters of a client. -/
def counters? (c : Life) : Option Counters := along? c.chapters

theorem along?_concat (chs : List Chapter) (ch : Chapter) :
    along? (chs ++ [ch]) = (along? chs).bind fun k => k.after? ch.before ch.deed := by
  simp only [along?, List.foldlM_append, List.foldlM_cons, List.foldlM_nil, bind_pure]
  rfl

theorem tallied_concat (chs : List Chapter) (ch : Chapter) :
    tallied (chs ++ [ch]) = Tally.of (chs.flatMap Chapter.events ++ ch.before.story ch.deed) := by
  rw [tallied, List.flatMap_append, List.flatMap_singleton]
  rfl

/-- **What a life does to the counters.**  As long as there are not too many sessions and frames,
they count what there is to count, and break as soon as these are too many attempts. -/
theorem along?_spec {chs : List Chapter} (hidle : ∀ ch ∈ chs, ch.before.terms.idle < UInt64.size)
    (hsessions : (chs.flatMap Chapter.events).countP (·.opened?.isSome) < UInt64.size)
    (hframes : (chs.flatMap Chapter.events).countP (·.taken?.isSome) < UInt64.size) :
    (along? chs = none ↔ ∃ early, early <+: chs ∧ UInt32.size ≤ (tallied early).attempts) ∧
      ∀ k, along? chs = some k → k.tally = tallied chs := by
  induction chs using List.reverseRecOn with
  | nil =>
    refine ⟨iff_of_false (Option.some_ne_none _) ?_, fun k hk => ?_⟩
    · rintro ⟨early, hearly, hmany⟩
      obtain rfl := List.prefix_nil.1 hearly
      exact absurd hmany (by decide)
    · obtain rfl := Option.some_inj.1 hk
      rfl
  | append_singleton chs ch ih =>
    have hframes' := Nat.lt_of_le_of_lt (Tally.frames_le _) hframes
    have hsessions' : (tallied (chs ++ [ch])).sessions < UInt64.size := hsessions
    rw [← tallied, tallied_concat] at hframes'
    rw [tallied_concat] at hsessions'
    rw [List.flatMap_append, List.countP_append] at hsessions hframes
    obtain ⟨hbreaks, hcounts⟩ := ih (fun ch' hch => hidle ch' (List.mem_append_left _ hch))
      (Nat.lt_of_le_of_lt (Nat.le_add_right _ _) hsessions)
      (Nat.lt_of_le_of_lt (Nat.le_add_right _ _) hframes)
    rw [along?_concat]
    cases hk : along? chs with
    | none =>
      obtain ⟨early, hearly, hmany⟩ := hbreaks.1 hk
      exact ⟨iff_of_true rfl ⟨early, hearly.trans (List.prefix_append _ _), hmany⟩,
        fun k hk => by cases hk⟩
    | some k =>
      have hcounting := Counters.counting_after (hcounts k hk)
        (hidle ch (List.mem_append_right _ List.mem_cons_self)) hsessions' hframes'
      rw [← tallied_concat] at hcounting
      refine ⟨hcounting.breaks.trans ⟨fun hmany => ⟨_, List.prefix_refl _, hmany⟩, ?_⟩,
        hcounting.counts⟩
      -- the counters have not broken before
      rintro ⟨early, hearly, hmany⟩
      rcases List.prefix_concat_iff.1 hearly with rfl | hbefore
      · exact hmany
      · have hnone := hbreaks.2 ⟨early, hbefore, hmany⟩
        rw [hk] at hnone
        cases hnone

/-! ## The law -/

variable {terms : Terms} {script : List Attempt} {hub : Hub}

/-- A log tells of nothing else to count. -/
theorem Kept.tally {c : Life} (h : c.Kept) : Tally.of c.link.events = tallied c.chapters := by
  have hlate : (c.late.map refusal).filter Event.isCounted = [] :=
    Link.filter_refusals _ _ false fun _ => rfl
  rw [h.log, Tally.of_append, hlate]
  rfl

/-- The counters of a client, and what it computes besides. -/
structure Reckoned (t : Terms) (c : Life) : Prop where
  /-- What there is to count is counted, and fits, as long as no more attempts in a row than fit
  have led to no session. -/
  breaks : c.counters? = none ↔
    ∃ early, early <+: c.chapters ∧ UInt32.size ≤ (tallied early).attempts
  counts : ∀ k, c.counters? = some k → k.tally = Tally.of c.link.events
  sessions : (Tally.of c.link.events).sessions = c.link.peers.length
  /-- Every lap has a place, whatever its number is. -/
  slot : ∀ lap number, c.link.model.place? lap number = some (c.link.model.applyLap lap number)
  /-- Half of the time of silence is just that, and to the next whole millisecond it is what the
  watchdog waits for. -/
  window : ∃ d, t.window? = some d ∧ d.nanoseconds.toNat < Rate.second ∧
    d.total = t.idle * 500000 ∧ t.half = (d.total + 999999) / 1000000
  /-- An attempt that is due is made, however many have been made before. -/
  tireless : c.link.cancelled = false → ∀ moment, c.link.phase = .waiting moment →
    moment ≤ c.link.now → (c.move .turn).link.attempts = c.link.attempts + 1 ∧
      (Tally.of (c.move .turn).link.events).attempts = (Tally.of c.link.events).attempts + 1

theorem sessions_log (ms : List Move) :
    (Tally.of (of terms script hub ms).link.events).sessions =
      (of terms script hub ms).link.peers.length := by
  obtain ⟨hfit, hview⟩ := log_fits terms script hub ms
  have hcount := congrArg List.length (opened_of_fitting hfit)
  rw [List.length_filterMap_eq_countP, List.length_range', hview] at hcount
  exact hcount

/-- An attempt that is due is made. -/
theorem move_due {c : Life} {moment : Nat} (hlive : c.link.cancelled = false)
    (hphase : c.link.phase = .waiting moment) (hdue : moment ≤ c.link.now) :
    c.move .turn = c.turned .attempt := by
  have hdeed : c.link.deed? = some .attempt := by
    rw [Link.deed?, hphase]
    simp [hlive, hdue]
  rw [move, hdeed]

theorem events_attempt (c : Life) :
    (c.turned .attempt).link.events = c.link.events ++ [.attempted] :=
  Link.events_record _ _

theorem reckoned {ms : List Move} (idle : terms.idle < UInt64.size)
    (sessions : (of terms script hub ms).link.peers.length < UInt64.size)
    (frames : ((of terms script hub ms).link.events.filterMap Event.taken?).length < UInt64.size) :
    (of terms script hub ms).Reckoned terms := by
  have hkept : (of terms script hub ms).Kept := kept ms
  have hterms : ∀ ch ∈ (of terms script hub ms).chapters, ch.before.terms.idle < UInt64.size :=
    chapter_invariant (P := fun s => s.terms.idle < UInt64.size)
      (fun ms => by rw [terms_eq]; exact idle) ms
  rw [List.length_filterMap_eq_countP, hkept.log, List.countP_append] at frames
  rw [← sessions_log, hkept.tally] at sessions
  obtain ⟨hbreaks, hcounts⟩ :=
    along?_spec hterms sessions (Nat.lt_of_le_of_lt (Nat.le_add_right _ _) frames)
  refine {
    breaks := hbreaks
    counts := fun k hk => (hcounts k hk).trans hkept.tally.symm
    sessions := sessions_log ms
    slot := fun lap number => Model.place?_eq _ lap number
    window := Terms.exists_window idle
    tireless := fun hlive moment hphase hdue => ?_ }
  rw [move_due hlive hphase hdue, events_attempt, Tally.of_concat]
  exact ⟨rfl, rfl⟩

/-! ## Attempts that are all refused -/

/-- An attempt that is refused at once. -/
def knock : Attempt := ⟨.refused, 0, none, .never⟩

/-- The moves of a client that makes some such attempts, and after each of them waits. -/
def knocks (delay : Nat) : Nat → List Move
  | 0 => []
  | n + 1 => knocks delay n ++ [.turn, .turn, .pass delay]

/-- The life after one more such attempt. -/
def rebuffed (c : Life) : Life := (c.turned .attempt).turned (.resolve knock)

/-- A client that has made some such attempts and no others, and is about to make one more. -/
structure Knocked (delay total n : Nat) (c : Life) : Prop where
  script : c.link.script = List.replicate total knock
  delay : c.link.terms.delay = delay
  phase : c.link.phase = .waiting c.link.now
  attempts : c.link.attempts = n
  live : c.link.cancelled = false
  handles : c.link.handles ≠ 0
  queue : c.link.queue = []
  peers : c.link.peers = []
  events : c.link.events.filter Event.isCounted = List.replicate n .attempted
  counters : c.counters? = (word32? n).map fun attempt => ⟨attempt, 0, 0⟩

/-- The counters count one more such attempt. -/
theorem counters_rebuffed {n : Nat} {c : Life}
    (h : c.counters? = (word32? n).map fun attempt => ⟨attempt, 0, 0⟩) :
    (rebuffed c).counters? = (word32? (n + 1)).map fun attempt => ⟨attempt, 0, 0⟩ := by
  rw [counters?] at h
  show along? (c.chapters ++ [⟨c.link, .attempt⟩] ++ [⟨_, .resolve knock⟩]) = _
  rw [along?_concat, along?_concat, h]
  by_cases hfit : n < UInt32.size
  · obtain ⟨attempt, hword, hvalue⟩ := exists_word32 hfit
    rw [hword, ← hvalue]
    show (Option.bind (Counters.after? ⟨attempt, 0, 0⟩ c.link .attempt) _) = _
    rw [Counters.after?]
    cases word32? (attempt.toNat + 1) <;> rfl
  · have hmany := Nat.le_of_not_lt hfit
    rw [word32?_eq_none_iff.2 hmany, word32?_eq_none_iff.2 (Nat.le_succ_of_le hmany)]
    rfl

namespace Knocked

variable {delay total n : Nat} {c : Life}

/-- One more such attempt is made and refused. -/
theorem refused (h : Knocked delay total n c) (hn : n < total) :
    (c.move .turn).move .turn = rebuffed c := by
  have hphase : (c.turned .attempt).link.phase = .seeking knock (some c.link.now) := by
    show (c.link.beginAttempt).phase = _
    rw [Link.beginAttempt, h.script, h.attempts, List.getElem?_replicate, if_pos hn]
    rfl
  have hseek : (c.turned .attempt).link.deed? = some (.resolve knock) := by
    have hlive : (c.turned .attempt).link.cancelled = false := h.live
    have hnow : (c.turned .attempt).link.now = c.link.now := rfl
    rw [Link.deed?, hphase]
    simp [hlive, Link.reached, hnow]
  rw [move_due h.live h.phase (Nat.le_refl _), move, hseek]
  rfl

/-- Then the client waits. -/
theorem waits (h : Knocked delay total n c) (hdelay : 0 < delay) :
    (rebuffed c).link.Allows (.pass delay) := by
  have hphase : (rebuffed c).link.phase = .waiting (c.link.now + delay) :=
    congrArg (Phase.waiting <| c.link.now + ·) h.delay
  refine ⟨?_, fun t ht => ?_⟩
  · have hlive : (rebuffed c).link.cancelled = false := h.live
    have hnow : (rebuffed c).link.now = c.link.now := rfl
    have hqueue : (rebuffed c).link.queue = [] := h.queue
    have hhandles : (rebuffed c).link.handles ≠ 0 := h.handles
    have hlate : ¬ c.link.now + delay ≤ c.link.now := by omega
    simp only [Link.deed?, hphase, hlive, hnow, hlate, Link.nextRequest?, hqueue, hhandles,
      Bool.false_eq_true, if_false]
  · rw [hphase] at ht
    exact Nat.le_of_eq (Option.some_inj.1 ht)

theorem counted (h : Knocked delay total n c) :
    (rebuffed c).link.events.filter Event.isCounted = List.replicate (n + 1) .attempted := by
  have hevents : (rebuffed c).link.events = c.link.events ++ [.attempted] ++ [.refused] := by
    rw [← events_attempt]
    exact Link.events_record _ _
  rw [hevents, List.filter_append, List.filter_append, h.events, List.replicate_succ']
  exact List.append_nil _

/-- One more such attempt. -/
theorem next (h : Knocked delay total n c) (hdelay : 0 < delay) (hn : n < total) :
    c.Orderly [.turn, .turn, .pass delay] ∧
      Knocked delay total (n + 1) ([.turn, .turn, .pass delay].foldl move c) := by
  refine ⟨⟨trivial, trivial, ?_, trivial⟩, ?_⟩
  · rw [h.refused hn]
    exact h.waits hdelay
  · show Knocked delay total (n + 1) (((c.move .turn).move .turn).move (.pass delay))
    rw [h.refused hn]
    exact {
      script := h.script
      delay := h.delay
      phase := congrArg (Phase.waiting <| c.link.now + ·) h.delay
      attempts := congrArg Nat.succ h.attempts
      live := h.live
      handles := h.handles
      queue := h.queue
      peers := h.peers
      events := h.counted
      counters := counters_rebuffed h.counters }

theorem taken (h : Knocked delay total n c) : c.link.events.filterMap Event.taken? = [] := by
  have hcounted : ∀ e : Event, e.isCounted = false → e.taken? = none := fun e he => by
    cases e with
    | took n text => cases he
    | _ => rfl
  rw [Event.filterMap_filter hcounted, h.events, List.filterMap_replicate_of_none rfl]

theorem breaks (h : Knocked delay total n c) : c.counters? = none ↔ UInt32.size ≤ n := by
  rw [h.counters, Option.map_eq_none_iff, word32?_eq_none_iff]

end Knocked

/-- Any number of such attempts, one after the other. -/
theorem knocked (hdelay : 0 < terms.delay) (hub : Hub) {total n : Nat} (hn : n ≤ total) :
    (start terms (List.replicate total knock) hub).Orderly (knocks terms.delay n) ∧
      Knocked terms.delay total n
        (of terms (List.replicate total knock) hub (knocks terms.delay n)) := by
  induction n with
  | zero => exact ⟨trivial, ⟨rfl, rfl, rfl, rfl, rfl, Nat.one_ne_zero, rfl, rfl, rfl, rfl⟩⟩
  | succ n ih =>
    obtain ⟨horderly, hknocked⟩ := ih (Nat.le_of_succ_le hn)
    obtain ⟨hmore, hnext⟩ := hknocked.next hdelay hn
    refine ⟨(orderly_append _ _ _).2 ⟨horderly, hmore⟩, ?_⟩
    rw [knocks, of, List.foldl_append]
    exact hnext

/-- Settings that can be used have clients wait between attempts. -/
theorem delay_pos {s : Settings} {u : Endpoint.Url} (valid : s.validate = .ok u) :
    0 < s.terms.delay := by
  refine Nat.pos_of_ne_zero fun hzero => ?_
  have hdelay : s.reconnectDelay = 0 := UInt64.toNat_inj.1 hzero
  have hlimit : s.zeroLimit? = some "reconnect_delay_ms" := by
    rw [Settings.zeroLimit?, List.findSome?_cons, hdelay]
    rfl
  rw [Settings.validate, hlimit] at valid
  cases valid

/-- With all settings that can be used, any number of attempts in a row can be refused. -/
theorem refused_runs {s : Settings} {u : Endpoint.Url} (valid : s.validate = .ok u)
    (observers n : Nat) : ∃ script ms, (start s.terms script (s.hub observers)).Orderly ms ∧
      Tally.of (of s.terms script (s.hub observers) ms).link.events = ⟨n, 0, 0⟩ ∧
      (of s.terms script (s.hub observers) ms).link.peers = [] ∧
      (of s.terms script (s.hub observers) ms).link.events.filterMap Event.taken? = [] ∧
      ((of s.terms script (s.hub observers) ms).counters? = none ↔ UInt32.size ≤ n) := by
  obtain ⟨horderly, hknocked⟩ := knocked (delay_pos valid) (s.hub observers) (Nat.le_refl n)
  exact ⟨_, _, horderly, Tally.of_attempts hknocked.events, hknocked.peers, hknocked.taken,
    hknocked.breaks⟩

/-- **The counters of every client.**  They count what there is to count, and laps and the time of
silence have their places and halves, unless 4294967296 attempts in a row have led to no session.
That can happen with all settings: any number of attempts in a row can be refused. -/
theorem counters_reckoned {s : Settings} {u : Endpoint.Url} {observers : Nat} {ms : List Move}
    (valid : s.validate = .ok u)
    (sessions : (of s.terms script (s.hub observers) ms).link.peers.length < UInt64.size)
    (frames : ((of s.terms script (s.hub observers) ms).link.events.filterMap
      Event.taken?).length < UInt64.size) :
    (of s.terms script (s.hub observers) ms).Reckoned s.terms ∧
      ∀ n, ∃ script' ms', (start s.terms script' (s.hub observers)).Orderly ms' ∧
        Tally.of (of s.terms script' (s.hub observers) ms').link.events = ⟨n, 0, 0⟩ ∧
        ((of s.terms script' (s.hub observers) ms').counters? = none ↔ UInt32.size ≤ n) := by
  refine ⟨reckoned s.idleTimeout.toNat_lt_size sessions frames, fun n => ?_⟩
  obtain ⟨script', ms', horderly, htally, -, -, hbreaks⟩ := refused_runs valid observers n
  exact ⟨script', ms', horderly, htally, hbreaks⟩

/-- A client whose first attempt is refused, and whose session is lost after two texts. -/
theorem counters_reckoned_lost :
    let ms : List Move := [.turn, .turn, .pass 3000, .turn, .turn, .far 1 [.text "?", .text "?"],
      .turn, .turn, .vanish 1, .turn, .pass 3000, .turn]
    (∃ u, Settings.default.validate = .ok u) ∧
      (of Settings.default.terms [knock] (Settings.default.hub 1) ms).counters? = some ⟨1, 1, 2⟩ ∧
      (of Settings.default.terms [knock] (Settings.default.hub 1) ms).Reckoned
        Settings.default.terms := by
  intro ms
  have hvalid : ∃ u, Settings.default.validate = .ok u := ⟨_, rfl⟩
  obtain ⟨u, hu⟩ := hvalid
  refine ⟨⟨u, hu⟩, ?_, (counters_reckoned hu (by decide) (by decide)).1⟩
  decide

/-- There need not be many sessions or frames for the counters to break. -/
theorem attempt_count_breaks : ¬ ∀ (s : Settings) (u : Endpoint.Url) (script : List Attempt)
    (observers : Nat) (ms : List Move), s.validate = .ok u →
      (start s.terms script (s.hub observers)).Orderly ms →
        (of s.terms script (s.hub observers) ms).link.peers.length < UInt64.size →
          ((of s.terms script (s.hub observers) ms).link.events.filterMap
            Event.taken?).length < UInt64.size →
              (of s.terms script (s.hub observers) ms).counters? ≠ none := by
  intro h
  have hvalid : ∃ u, Settings.default.validate = .ok u := ⟨_, rfl⟩
  obtain ⟨u, hu⟩ := hvalid
  obtain ⟨script, ms, horderly, -, hpeers, htaken, hbreaks⟩ := refused_runs hu 1 UInt32.size
  refine h _ u script 1 ms hu horderly ?_ ?_ (hbreaks.2 (Nat.le_refl _))
  · rw [hpeers]
    decide
  · rw [htaken]
    decide

end Life

end RaceLink
