import RaceLink.Link.Handle
import RaceLink.Proofs.Link.Reconnect

/-!
# How long attempts take

An attempt is in flight until it ends of itself, or until the client stops.  The client does not
look at the time meanwhile, so how long that may be is up to whoever makes the attempt: web sockets
keep to the limit of the settings, and others need not.

* `Attempt.ends?`, `Attempt.EndsWithin` — when an attempt ends, and whether it keeps to a limit.
* `Link.spent?` — how long the attempt in flight has taken.
* `Link.Flight`, `Life.flight` — what is known of an attempt in flight, and that it is always so.
* `Life.Unhurried`, `Life.unhurried` — what becomes of attempts, in all orderly lives.
* `Life.attempts_limited` — **which attempts keep to a limit**, and that the limit of the settings
  is otherwise not looked at.
-/

set_option autoImplicit false

namespace RaceLink

namespace Attempt

/-- When an attempt ends that began at a moment, if it ends at all. -/
def ends? (a : Attempt) (began : Nat) : Option Nat :=
  if a.ending = .never then none else some (began + a.delay)

theorem ends?_eq_some_iff {a : Attempt} {began moment : Nat} :
    a.ends? began = some moment ↔ a.ending ≠ .never ∧ began + a.delay = moment := by
  rw [ends?, Option.ite_none_left_eq_some, Option.some_inj]

/-- The attempt ends, and takes no longer than a time. -/
def EndsWithin (limit : Nat) (a : Attempt) : Prop := a.ending ≠ .never ∧ a.delay ≤ limit

/-- Whoever gives up in time makes no other attempts. -/
theorem endsWithin_within (limit : Nat) (a : Attempt) : (a.within limit).EndsWithin limit := by
  rw [within]
  split
  · exact ⟨Ending.noConfusion, Nat.le_refl limit⟩
  · rename_i h
    exact ⟨fun hnever => h (.inl hnever), Nat.not_lt.1 fun hlate => h (.inr hlate)⟩

/-- An attempt that never ends. -/
def endless : Attempt := ⟨.never, 0, none, .never⟩

end Attempt

namespace Link

/-- How long the attempt in flight has taken so far. -/
def spent? (s : Link) : Option Nat :=
  match s.phase with
  | .seeking _ _ => s.begun.getLast?.map (s.now - ·)
  | _ => none

/-- What the last attempt meets. -/
def met (s : Link) : Attempt := s.script[s.attempts - 1]?.getD .smooth

/-! ## What is known of an attempt in flight -/

/-- The attempt in flight is the one that its number stands for.  It began with the last entry of
its kind in the log, and it ends when its own time is over. -/
def Flight (s : Link) : Prop :=
  ∀ a due, s.phase = .seeking a due →
    a = s.met ∧ ∃ began, s.begun.getLast? = some began ∧ began ≤ s.now ∧ due = a.ends? began

theorem script_perform {s : Link} {d : Deed} (h : Ready s d) : (s.perform d).script = s.script := by
  have hb : (s.perform d).script = (s.bareAfter d).script :=
    (congrArg Link.script (bare_perform h) :)
  rw [hb]
  cases d with
  | resolve a =>
    rw [bareAfter]
    split <;> rfl
  | watch n probed => cases probed <;> rfl
  | _ => rfl

/-- An attempt is in flight after a deed that began it, or that turned a request down. -/
theorem seeking_perform {s : Link} {d : Deed} {a : Attempt} {due : Option Nat} (h : Ready s d)
    (hphase : (s.perform d).phase = .seeking a due) :
    d = .attempt ∨ (∃ id r, d = .decline id r) ∧ s.phase = .seeking a due := by
  rw [phase_perform h] at hphase
  cases h with
  | attempt phase live early => exact .inl rfl
  | @resolve b due' phase live reached =>
    rw [bareAfter] at hphase
    split at hphase
    · dsimp only at hphase
      split at hphase <;> cases hphase
    · cases hphase
  | @watch n watch probed p phase live peer next reached =>
    cases probed with
    | true => cases hphase
    | false =>
      simp only [bareAfter] at hphase
      split at hphase <;> cases hphase
  | serve phase live peer next early queue =>
    simp only [bareAfter, phase] at hphase
    split at hphase <;> cases hphase
  | decline offline live queue => exact .inr ⟨⟨_, _, rfl⟩, hphase⟩
  | _ => cases hphase

theorem begun_perform {s : Link} {d : Deed} (hs : Sound s) (h : Ready s d) :
    (s.perform d).begun =
      s.begun ++ ((s.story d).filter Event.isAttempt).map fun _ => s.now := by
  rw [begun, log_perform hs h, List.filter_append, List.map_append, List.filter_map, List.map_map]
  rfl

theorem isAttempt_decline (s : Link) (id : Nat) (r : Request) :
    (s.story (.decline id r)).filter Event.isAttempt = [] := by
  rw [story, List.filter_append, filter_prelude _ s r false rfl fun _ _ => rfl]
  rfl

/-- **Deeds keep what is known.** -/
theorem Flight.perform {s : Link} {d : Deed} (hf : s.Flight) (hs : Sound s) (h : Ready s d) :
    (s.perform d).Flight := by
  intro a due hphase
  have hscript := script_perform h
  have hbegun := begun_perform hs h
  have hattempts := attempts_perform h
  have hnow := now_perform h
  obtain rfl | ⟨⟨id, r, rfl⟩, hseeking⟩ := seeking_perform h hphase
  · -- it begins now, and has the next number
    have hattempts : (s.perform .attempt).attempts = s.attempts + 1 := hattempts
    have hmet : (s.perform .attempt).met = s.script[s.attempts]?.getD .smooth := by
      rw [met, hscript, hattempts, Nat.add_sub_cancel]
    obtain ⟨rfl, rfl⟩ := Phase.seeking.inj hphase
    refine ⟨hmet.symm, s.now, ?_, Nat.le_of_eq hnow.symm, rfl⟩
    rw [hbegun]
    exact List.getLast?_concat
  · obtain ⟨hmet, began, hlast, hle, hdue⟩ := hf a due hseeking
    have hattempts : (s.perform (.decline id r)).attempts = s.attempts := hattempts
    refine ⟨?_, began, ?_, by rw [hnow]; exact hle, hdue⟩
    · rw [met, hscript, hattempts]
      exact hmet
    · rw [hbegun, isAttempt_decline, List.map_nil, List.append_nil]
      exact hlast

/-- An attempt in flight has taken no longer than it takes. -/
theorem Flight.spent_le {s : Link} (hf : s.Flight) (ht : s.Timely) {k : Nat}
    (hk : s.spent? = some k) : s.met.ending = .never ∨ k ≤ s.met.delay := by
  rw [spent?] at hk
  split at hk
  · rename_i a due hphase
    obtain ⟨rfl, began, hlast, hle, hdue⟩ := hf a due hphase
    rw [hlast] at hk
    obtain rfl : s.now - began = k := Option.some_inj.1 hk
    refine or_iff_not_imp_left.2 fun hends => ?_
    have hmoment : s.met.ends? began = some (began + s.met.delay) := if_neg hends
    have htimely := ht _ ((congrArg Phase.due? hphase).trans (hdue.trans hmoment))
    exact Nat.sub_le_iff_le_add'.2 htimely
  · cases hk

/-- When the time of an attempt is over, it has taken just as long as it takes. -/
theorem Flight.spent_eq {s : Link} (hf : s.Flight) (ht : s.Timely) {a : Attempt} {due : Option Nat}
    (hphase : s.phase = .seeking a due) (hreached : s.reached due = true) :
    a.ending ≠ .never ∧ s.spent? = some a.delay := by
  obtain ⟨-, began, hlast, hle, hdue⟩ := hf a due hphase
  obtain _ | moment := due
  · cases hreached
  · obtain ⟨hends, hsum⟩ := Attempt.ends?_eq_some_iff.1 hdue.symm
    have hlate : moment ≤ s.now := of_decide_eq_true hreached
    have hearly : s.now ≤ moment := ht moment (congrArg Phase.due? hphase)
    refine ⟨hends, ?_⟩
    rw [spent?, hphase]
    dsimp only
    rw [hlast, Option.map_some, ← Nat.le_antisymm hlate hearly, ← hsum, Nat.add_sub_cancel_left]

/-- What the last attempt meets keeps to every limit to which all of the script does. -/
theorem endsWithin_met {s : Link} {limit : Nat} (h : ∀ a ∈ s.script, a.EndsWithin limit) :
    s.met.EndsWithin limit := by
  rw [met]
  cases ha : s.script[s.attempts - 1]? with
  | none => exact ⟨Ending.noConfusion, Nat.zero_le limit⟩
  | some a => exact h a (List.mem_of_getElem? ha)

end Link

namespace Life

variable {terms : Terms} {script : List Attempt} {hub : Hub}

theorem script_move (c : Life) (m : Move) : (c.move m).link.script = c.link.script := by
  obtain ⟨d, hd, he⟩ | ⟨r, he⟩ | hu := move_cases c m
  · rw [he]
    exact Link.script_perform hd
  · rw [he]
    show (c.link.submit c.asked.length r).script = c.link.script
    rw [Link.submit]
    split <;> rfl
  · obtain ⟨now, ps, cancelled, handles, -, he⟩ := hu.link
    rw [he]

/-- What attempts meet was settled at the start. -/
theorem script_eq (ms : List Move) : (of terms script hub ms).link.script = script :=
  invariant (P := fun c => c.link.script = script) rfl
    (fun c m h => (script_move c m).trans h) ms

/-- A client that rests learns nothing new of its attempt. -/
theorem Rests.flight {s t : Link} (h : Rests s t) (hscript : t.script = s.script) (hs : s.Flight) :
    t.Flight := by
  intro a due hphase
  rw [h.phase] at hphase
  obtain ⟨hmet, began, hlast, hle, hdue⟩ := hs a due hphase
  have hlog : t.log = s.log := by
    refine h.log.resolve_right fun hstop => ?_
    rw [hstop.1] at hphase
    cases hphase
  refine ⟨?_, began, ?_, Nat.le_trans hle h.since, hdue⟩
  · rw [Link.met, hscript, h.attempts]
    exact hmet
  · rw [Link.begun, hlog]
    exact hlast

/-- **What is known of an attempt in flight** is known throughout. -/
theorem flight {ms : List Move} (h : (start terms script hub).Orderly ms) :
    (of terms script hub ms).link.Flight := by
  refine (h.keeps (P := fun c => c.link.Sound ∧ c.link.Flight)
    ⟨Link.sound_start terms script hub, fun a due hphase => nomatch hphase⟩ ?_).2
  intro c m hm ⟨hs, hf⟩
  obtain ⟨d, hd, he⟩ | ⟨hr, -⟩ := deed_or_rests hm
  · rw [he]
    exact ⟨hs.perform hd, hf.perform hs hd⟩
  · exact ⟨hr.sound hs, hr.flight (script_move c m) hf⟩

/-! ## The law -/

/-- What becomes of attempts. -/
structure Unhurried (t : Terms) (c : Life) : Prop where
  /-- An attempt in flight has taken no longer than it takes, if it ends at all. -/
  flight : ∀ k, c.link.spent? = some k → c.link.met.ending = .never ∨ k ≤ c.link.met.delay
  /-- It ends when its own time is over, or else with the client.  Requests that come meanwhile are
  turned down, and it stays in flight. -/
  course : ∀ ch ∈ c.chapters, ∀ a due, ch.before.phase = .seeking a due →
    (ch.deed = .resolve a ∧ a.ending ≠ .never ∧ ch.before.spent? = some a.delay) ∨
      (∃ id r, ch.deed = .decline id r ∧ ch.after.phase = ch.before.phase ∧
        .answered id (.error (.notConnected r.command.name)) ∈ ch.events) ∨
      (ch.deed = .stop ∧ ch.before.Quitting)
  /-- One that leads to no session is told once, as a warning, and the next wait begins. -/
  refused : ∀ ch ∈ c.chapters, ∀ a, ch.deed = .resolve a → a.ending ≠ .accepted →
    ch.events = [.refused] ∧ ch.after.phase = .waiting (ch.before.now + t.delay)

/-- What becomes of an attempt in a chapter. -/
theorem course_of_seeking {ch : Chapter} {a : Attempt} {due : Option Nat}
    (h : ch.before.Ready ch.deed) (hf : ch.before.Flight) (ht : ch.before.Timely)
    (hphase : ch.before.phase = .seeking a due) :
    (ch.deed = .resolve a ∧ a.ending ≠ .never ∧ ch.before.spent? = some a.delay) ∨
      (∃ id r, ch.deed = .decline id r ∧ ch.after.phase = ch.before.phase ∧
        .answered id (.error (.notConnected r.command.name)) ∈ ch.events) ∨
      (ch.deed = .stop ∧ ch.before.Quitting) := by
  obtain ⟨s, d⟩ := ch
  have hready : s.Ready d := h
  have hafter := Link.phase_perform hready
  cases h with
  | @resolve b due' phase live reached =>
    obtain ⟨rfl, rfl⟩ := Phase.seeking.inj (phase.symm.trans hphase)
    exact .inl ⟨rfl, hf.spent_eq ht phase reached⟩
  | @decline id r rest offline live queue =>
    refine .inr (.inl ⟨id, r, rfl, hafter, ?_⟩)
    rw [Chapter.events, Link.story]
    simp
  | stop offline quitting => exact .inr (.inr ⟨rfl, quitting⟩)
  | attempt phase live early => exact Phase.noConfusion (phase.symm.trans hphase)
  | read phase live peer next => exact Phase.noConfusion (phase.symm.trans hphase)
  | lose phase live finished => exact Phase.noConfusion (phase.symm.trans hphase)
  | watch phase live peer next reached => exact Phase.noConfusion (phase.symm.trans hphase)
  | serve phase live peer next early queue => exact Phase.noConfusion (phase.symm.trans hphase)
  | close phase quitting => exact Phase.noConfusion (phase.symm.trans hphase)
  | part phase early => exact Phase.noConfusion (phase.symm.trans hphase)

/-- **What becomes of attempts**, whatever they meet and whatever happens meanwhile. -/
theorem unhurried {ms : List Move} (h : (start terms script hub).Orderly ms) :
    (of terms script hub ms).Unhurried terms := by
  have hterms : ∀ ch ∈ (of terms script hub ms).chapters, ch.before.terms = terms :=
    chapter_invariant (P := fun s => s.terms = terms) terms_eq ms
  refine ⟨fun k hk => (flight h).spent_le (timely h) hk, fun ch hch a due hphase => ?_,
    fun ch hch a hdeed hrefused => ?_⟩
  · exact course_of_seeking (chapter_ready ms ch hch).2
      (chapter_orderly (fun _ h => flight h) h ch hch) (chapter_timely h ch hch) hphase
  · have hready := (chapter_ready ms ch hch).2
    have hwait := hterms ch hch
    obtain ⟨s, d⟩ := ch
    obtain rfl : d = .resolve a := hdeed
    refine ⟨if_neg hrefused, ?_⟩
    have hphase := Link.phase_perform hready
    rw [Link.bareAfter, if_neg hrefused] at hphase
    rw [← hwait]
    exact hphase

/-- Attempts that all keep to a limit are never in flight for longer. -/
theorem spent_le_limit {ms : List Move} (h : (start terms script hub).Orderly ms) {limit : Nat}
    (hlimit : ∀ a ∈ script, a.EndsWithin limit) {k : Nat}
    (hk : (of terms script hub ms).link.spent? = some k) : k ≤ limit := by
  have hmet : (of terms script hub ms).link.met.EndsWithin limit :=
    Link.endsWithin_met (by rw [script_eq]; exact hlimit)
  rcases (flight h).spent_le (timely h) hk with hnever | hle
  · exact absurd hnever hmet.1
  · exact Nat.le_trans hle hmet.2

/-! ## The limit of the settings -/

/-- The limit of the settings is checked, and not looked at otherwise. -/
theorem start_limit {s : Settings} {limit : UInt64} (hlimit : limit ≠ 0) (h : s.connectTimeout ≠ 0)
    (script : List Attempt) (observers : Nat) :
    { s with connectTimeout := limit }.start script observers = s.start script observers := by
  have hzero : Settings.zeroLimit? { s with connectTimeout := limit } = s.zeroLimit? := by
    simp only [Settings.zeroLimit?, List.findSome?_cons, if_neg hlimit, if_neg h]
  have hvalid : Settings.validate { s with connectTimeout := limit } = s.validate := by
    rw [Settings.validate, Settings.validate, hzero]
    rfl
  rw [Settings.start, Settings.start, hvalid]
  rfl

/-- A client over web sockets makes only attempts that keep to the limit of its settings. -/
theorem start_of_connect {s : Settings} {script : List Attempt} {link : Link}
    (h : s.connect script = .ok link) :
    ∃ script', link = (start s.terms script' (s.hub 0)).link ∧
      ∀ a ∈ script', a.EndsWithin s.connectTimeout.toNat := by
  refine ⟨script.map (Attempt.within s.connectTimeout.toNat), ?_, fun a ha => ?_⟩
  · rw [Settings.connect, Settings.start] at h
    cases hvalid : s.validate with
    | error e =>
      rw [hvalid] at h
      cases h
    | ok u =>
      rw [hvalid] at h
      exact (Except.ok.inj h).symm
  · obtain ⟨b, -, rfl⟩ := List.mem_map.1 ha
    exact b.endsWithin_within _

/-- An attempt that never ends can be in flight for any time. -/
theorem spent_endless (terms : Terms) (hub : Hub) (k : Nat) :
    (start terms [.endless] hub).Orderly [.turn, .pass k] ∧
      (of terms [.endless] hub [.turn, .pass k]).link.spent? = some k :=
  ⟨⟨trivial, ⟨rfl, fun _ h => nomatch h⟩, trivial⟩, congrArg some (Nat.zero_add k)⟩

/-- **Which attempts keep to a limit.**  An attempt is in flight until it ends of itself, or with
the client.  So no attempt is in flight for longer than a limit to which all attempts keep, such as
the limit of the settings for web sockets; but without such a limit it may be in flight for any
time, since clients do not look at the limit of their settings. -/
theorem attempts_limited {s : Settings} {script : List Attempt} {observers : Nat} {ms : List Move}
    (h : (start s.terms script (s.hub observers)).Orderly ms) :
    (of s.terms script (s.hub observers) ms).Unhurried s.terms ∧
    (∀ limit, (∀ a ∈ script, a.EndsWithin limit) →
      ∀ k, (of s.terms script (s.hub observers) ms).link.spent? = some k → k ≤ limit) ∧
    (∀ link, s.connect script = .ok link → ∃ script',
      link = (start s.terms script' (s.hub 0)).link ∧
        ∀ ms', (start s.terms script' (s.hub 0)).Orderly ms' →
          ∀ k, (of s.terms script' (s.hub 0) ms').link.spent? = some k →
            k ≤ s.connectTimeout.toNat) ∧
    (∀ k, ∃ script' ms', (start s.terms script' (s.hub observers)).Orderly ms' ∧
      (of s.terms script' (s.hub observers) ms').link.spent? = some k) ∧
    ∀ limit, limit ≠ 0 → s.connectTimeout ≠ 0 →
      { s with connectTimeout := limit }.start script observers = s.start script observers := by
  refine ⟨unhurried h, fun limit hlimit k hk => spent_le_limit h hlimit hk, fun link hlink => ?_,
    fun k => ⟨_, _, spent_endless s.terms (s.hub observers) k⟩,
    fun limit hlimit hs => start_limit hlimit hs script observers⟩
  obtain ⟨script', hstart, hlimit⟩ := start_of_connect hlink
  exact ⟨script', hstart, fun ms' h' k hk => spent_le_limit h' hlimit hk⟩

/-- A client whose first attempt is slow, and is refused in the end. -/
theorem attempts_limited_slow :
    let script : List Attempt := [⟨.refused, 500, none, .never⟩]
    let ms : List Move := [.turn, .pass 400, .submit .reset, .turn]
    (start Settings.default.terms script (Settings.default.hub 1)).Orderly ms ∧
      (of Settings.default.terms script (Settings.default.hub 1) ms).link.spent? = some 400 ∧
      (of Settings.default.terms script (Settings.default.hub 1) ms).Unhurried
        Settings.default.terms := by
  intro script ms
  have h : (start Settings.default.terms script (Settings.default.hub 1)).Orderly ms := by decide
  exact ⟨h, by decide, (attempts_limited h).1⟩

/-- The limit of the settings does not bound the time that an attempt is in flight. -/
theorem attempt_outlasts_limit : ¬ ∀ (s : Settings) (u : Endpoint.Url) (script : List Attempt)
    (observers : Nat) (ms : List Move), s.validate = .ok u →
      (start s.terms script (s.hub observers)).Orderly ms →
        ∀ k, (of s.terms script (s.hub observers) ms).link.spent? = some k →
          k ≤ s.connectTimeout.toNat := by
  intro h
  have hvalid : ∃ u, Settings.default.validate = .ok u := ⟨_, rfl⟩
  obtain ⟨u, hu⟩ := hvalid
  obtain ⟨horderly, hspent⟩ := spent_endless Settings.default.terms (Settings.default.hub 1) 10001
  exact absurd (h _ u _ _ _ hu horderly _ hspent) (by decide)

end Life
end RaceLink
