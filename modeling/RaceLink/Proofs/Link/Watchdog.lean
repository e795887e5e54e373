import RaceLink.Proofs.Link.Refinement
import RaceLink.Proofs.Link.Window

/-!
# The watchdog

A session on which nothing is heard is asked for a sign of life when half the time it may be silent
is over, and given up when the other half is over too.  Everything here is about one session and
about the time since its last sign of life, as the log tells it.

* `Life.Half` — how far the window has come, with `Half.asks` and `Half.ends`, what the watchdog
  does at its moment, and `Half.waits`, what it has done when it has to wait.
* `Life.Vigil`, `Vigil.turned` — the same of a whole life, and the step.
* `Life.Lively`, `Life.never_dropped` — a session that keeps giving signs of life is never given up
  for its silence.  `Life.Noticed` follows a frame from the far side to the client.
* `Life.Guarded`, `Life.watchdog_guards` — **what the watchdog does**, in all orderly lives.
-/

set_option autoImplicit false

namespace RaceLink

namespace Life

/-! ## The window -/

/-- Something else than its silence ended the session. -/
def Cut (c : Life) (n : Nat) : Prop := ∃ ch ∈ c.chapters, ch.Cuts n

/-- A heartbeat, and when it is sent. -/
def heartbeat (moment : Nat) : Nat × String := (moment, Command.getStatus.text)

/-- How far the window that began at `a` has come while the session is served: when the watchdog
acts next, whether it has asked, and when it did. -/
inductive Half (t : Terms) (a now : Nat) : Option Nat → Bool → List (Nat × String) → Prop
  | first : Half t a now (some (a + t.half)) false []
  | second (past : a + t.half ≤ now) :
    Half t a now (some (a + 2 * t.half)) true [heartbeat (a + t.half)]

namespace Half

variable {t : Terms} {a now : Nat} {watch : Option Nat} {probed : Bool}
  {asked : List (Nat × String)}

theorem later (h : Half t a now watch probed asked) {now' : Nat} (hnow : now ≤ now') :
    Half t a now' watch probed asked := by
  cases h with
  | first => exact .first
  | second past => exact .second (Nat.le_trans past hnow)

/-- At most one heartbeat has been sent, and not at another moment. -/
theorem asked_prefix (h : Half t a now watch probed asked) :
    asked <+: [heartbeat (a + t.half)] := by
  cases h with
  | first => exact List.nil_prefix
  | second past => exact List.prefix_rfl

/-- The watchdog asks at its moment, and the second half begins. -/
theorem asks (h : Half t a now watch false asked)
    (hmoment : ∀ moment, watch = some moment → now = moment) :
    Half t a now (some (now + t.half)) true (asked ++ [heartbeat now]) := by
  cases h with
  | first =>
    obtain rfl := hmoment _ rfl
    have hsecond : a + t.half + t.half = a + 2 * t.half := by omega
    rw [hsecond]
    exact .second (Nat.le_refl _)

/-- The watchdog has asked and acts again, at the end of the window. -/
theorem ends (h : Half t a now watch true asked)
    (hmoment : ∀ moment, watch = some moment → now = moment) :
    asked = [heartbeat (a + t.half)] ∧ now = a + 2 * t.half := by
  cases h with
  | second past => exact ⟨rfl, hmoment _ rfl⟩

/-- What has been sent by the time the watchdog has to wait. -/
theorem waits (h : Half t a now watch probed asked)
    (hearly : ∀ moment, watch = some moment → now < moment) :
    asked = (if now < a + t.half then [] else [heartbeat (a + t.half)]) ∧
      now < a + 2 * t.half := by
  cases h with
  | first =>
    have hlt : now < a + t.half := hearly _ rfl
    rw [if_pos hlt]
    exact ⟨rfl, by omega⟩
  | second past =>
    rw [if_neg (Nat.not_lt.mpr past)]
    exact ⟨rfl, hearly _ rfl⟩

end Half

/-- What the watchdog of a session has done since the last sign of life. -/
structure Vigil (t : Terms) (n : Nat) (c : Life) : Prop where
  terms : c.link.terms = t
  served : ∀ watch probed, c.link.phase = .serving n watch probed →
    ∃ a, c.link.heardAt? n = some a ∧ Half t a c.link.now watch probed (c.askedAt n) ∧
      c.link.droppedAt n = []
  ended : (∀ watch probed, c.link.phase ≠ .serving n watch probed) →
    ∀ a, c.link.heardAt? n = some a →
      (c.Cut n ∧ c.askedAt n <+: [heartbeat (a + t.half)] ∧ c.link.droppedAt n = []) ∨
        (c.askedAt n = [heartbeat (a + t.half)] ∧ c.link.droppedAt n = [a + 2 * t.half] ∧
          a + 2 * t.half ≤ c.link.now)

theorem Cut.turned {c : Life} {n : Nat} (h : c.Cut n) (d : Deed) : (c.turned d).Cut n := by
  obtain ⟨ch, hch, hcut⟩ := h
  exact ⟨ch, List.mem_append_left _ hch, hcut⟩

theorem cut_last {c : Life} {n : Nat} {d : Deed} (h : (Chapter.mk c.link d).Cuts n) :
    (c.turned d).Cut n :=
  ⟨⟨c.link, d⟩, List.mem_append_right _ (List.mem_singleton_self _), h⟩

/-- The watchdog acts at its moment, since none is missed. -/
theorem moment_of_reached {s : Link} {n : Nat} {watch : Option Nat} {probed : Bool} (ht : s.Timely)
    (phase : s.phase = .serving n watch probed) (reached : s.reached watch = true) :
    ∀ moment, watch = some moment → s.now = moment := by
  rintro moment rfl
  exact Nat.le_antisymm (ht moment (by rw [phase]; rfl)) (of_decide_eq_true reached)

namespace Vigil

variable {t : Terms} {n : Nat} {c : Life}

/-- **A deed keeps the vigil.** -/
theorem turned {d : Deed} (h : Vigil t n c) (hidle : t.idle ≠ 0) (hs : c.link.Sound)
    (ht : c.link.Timely) (hd : c.link.Ready d) : Vigil t n (c.turned d) := by
  have hterms : (c.turned d).link.terms = t := (Link.terms_perform hd).trans h.terms
  have hnow : (c.turned d).link.now = c.link.now := Link.now_perform hd
  have hwatch : c.link.watchFrom = some (c.link.now + t.half) := by
    rw [Link.watchFrom, h.terms, if_neg hidle]
  cases Chapter.round ⟨c.link, d⟩ hd n with
  | quiet hears beats drops phase =>
    obtain ⟨hheard, hasked, hdropped⟩ := window_unheard hs hd hears beats drops
    rw [if_neg Bool.false_ne_true, List.append_nil] at hasked hdropped
    refine ⟨hterms, fun watch probed hafter => ?_, fun hafter a ha => ?_⟩
    · rw [hheard, hasked, hdropped, hnow]
      exact h.served watch probed ((phase watch probed).1 hafter)
    · rw [hasked, hdropped, hnow]
      rw [hheard] at ha
      have hbefore : ∀ watch probed, c.link.phase ≠ .serving n watch probed :=
        fun watch probed hb => hafter watch probed ((phase watch probed).2 hb)
      exact (h.ended hbefore a ha).imp_left (And.imp_left fun hcut => hcut.turned d)
  | heard hears beats drops phase =>
    obtain ⟨hheard, hasked, hdropped⟩ := window_heard hs hd hears drops
    have hphase : (c.turned d).link.phase = .serving n (some (c.link.now + t.half)) false :=
      phase.trans (by rw [hwatch])
    refine ⟨hterms, fun watch probed hafter => ?_, fun hafter => absurd hphase (hafter _ _)⟩
    obtain ⟨-, rfl, rfl⟩ := Phase.serving.inj (hphase.symm.trans hafter)
    refine ⟨c.link.now, hheard, ?_, hdropped⟩
    rw [hasked]
    exact .first
  | stillborn hears beats drops cuts phase =>
    obtain ⟨-, hasked, hdropped⟩ := window_heard hs hd hears drops
    refine ⟨hterms, fun watch probed hafter => absurd hafter (phase watch probed), fun _ a _ =>
      .inl ⟨cut_last cuts, ?_, hdropped⟩⟩
    rw [hasked]
    exact List.nil_prefix
  | @asked watch deed phase reached hears beats drops after =>
    obtain ⟨hheard, hasked, hdropped⟩ := window_unheard hs hd hears beats drops
    obtain ⟨a, ha, hhalf, hnone⟩ := h.served watch false phase
    rw [if_neg Bool.false_ne_true, List.append_nil, hnone] at hdropped
    have hphase : (c.turned d).link.phase = .serving n (some (c.link.now + t.half)) true :=
      after.trans (by rw [hwatch])
    refine ⟨hterms, fun watch' probed' hafter => ?_, fun hafter => absurd hphase (hafter _ _)⟩
    obtain ⟨-, rfl, rfl⟩ := Phase.serving.inj (hphase.symm.trans hafter)
    refine ⟨a, hheard.trans ha, ?_, hdropped⟩
    rw [hasked, hnow, if_pos rfl]
    exact hhalf.asks (moment_of_reached ht phase reached)
  | @dropped watch deed phase reached hears beats drops after =>
    obtain ⟨hheard, hasked, hdropped⟩ := window_unheard hs hd hears beats drops
    obtain ⟨a, ha, hhalf, hnone⟩ := h.served watch true phase
    rw [if_neg Bool.false_ne_true, List.append_nil] at hasked
    refine ⟨hterms, fun watch' probed' hafter => absurd hafter (after watch' probed'),
      fun _ a' ha' => .inr ?_⟩
    obtain rfl := Option.some_inj.1 ((hheard.trans ha).symm.trans ha')
    obtain ⟨hfirst, hend⟩ := hhalf.ends (moment_of_reached ht phase reached)
    rw [hasked, hdropped, hnone, hnow, if_pos rfl, hend]
    exact ⟨hfirst, rfl, Nat.le_refl _⟩
  | @cut watch probed phase hears beats drops cuts after =>
    obtain ⟨hheard, hasked, hdropped⟩ := window_unheard hs hd hears beats drops
    obtain ⟨a, ha, hhalf, hnone⟩ := h.served watch probed phase
    rw [if_neg Bool.false_ne_true, List.append_nil] at hasked hdropped
    refine ⟨hterms, fun watch' probed' hafter => absurd hafter (after watch' probed'),
      fun _ a' ha' => .inl ⟨cut_last cuts, ?_, hdropped.trans hnone⟩⟩
    obtain rfl := Option.some_inj.1 ((hheard.trans ha).symm.trans ha')
    exact hasked ▸ hhalf.asked_prefix

/-- Nothing changes while a client rests. -/
theorem rests {c' : Life} (h : Vigil t n c) (hr : Rests c.link c'.link)
    (hch : c'.chapters = c.chapters) : Vigil t n c' := by
  obtain ⟨hheard, hdropped, -⟩ := hr.window n
  have hasked : c'.askedAt n = c.askedAt n := by rw [askedAt, deedLog_of_chapters hch, askedAt]
  refine ⟨hr.terms.trans h.terms, fun watch probed phase => ?_, fun phase a ha => ?_⟩
  · rw [hr.phase] at phase
    obtain ⟨a, ha, hhalf, hnone⟩ := h.served watch probed phase
    rw [hheard, hasked, hdropped]
    exact ⟨a, ha, hhalf.later hr.since, hnone⟩
  · rw [hr.phase] at phase
    rw [hheard] at ha
    rw [hasked, hdropped]
    rcases h.ended phase a ha with ⟨hcut, hrest⟩ | ⟨hfirst, hsecond, hpast⟩
    · refine .inl ⟨?_, hrest⟩
      rw [Cut, hch]
      exact hcut
    · exact .inr ⟨hfirst, hsecond, Nat.le_trans hpast hr.since⟩

/-- The session is served, or it has ended, for its silence or otherwise. -/
theorem served_or_ended (h : Vigil t n c) {a : Nat} (ha : c.link.heardAt? n = some a) :
    (∃ watch probed, c.link.phase = .serving n watch probed ∧
        Half t a c.link.now watch probed (c.askedAt n) ∧ c.link.droppedAt n = []) ∨
      (c.Cut n ∧ c.askedAt n <+: [heartbeat (a + t.half)] ∧ c.link.droppedAt n = []) ∨
      (c.askedAt n = [heartbeat (a + t.half)] ∧ c.link.droppedAt n = [a + 2 * t.half] ∧
        a + 2 * t.half ≤ c.link.now) := by
  by_cases hserved : ∃ watch probed, c.link.phase = .serving n watch probed
  · obtain ⟨watch, probed, phase⟩ := hserved
    obtain ⟨a', ha', hhalf, hnone⟩ := h.served watch probed phase
    obtain rfl := Option.some_inj.1 (ha.symm.trans ha')
    exact .inl ⟨watch, probed, phase, hhalf, hnone⟩
  · exact .inr (h.ended (fun watch probed phase => hserved ⟨watch, probed, phase⟩) a ha)

/-- Once the client has to wait, the watchdog has done what it has to do by then, and no more. -/
theorem window (h : Vigil t n c) (hwait : c.link.deed? = none) (hcut : ¬ c.Cut n) {a : Nat}
    (ha : c.link.heardAt? n = some a) :
    c.askedAt n = (if c.link.now < a + t.half then [] else [heartbeat (a + t.half)]) ∧
      c.link.droppedAt n = if c.link.now < a + 2 * t.half then [] else [a + 2 * t.half] := by
  obtain ⟨watch, probed, phase, hhalf, hnone⟩ | ⟨hend, -⟩ | ⟨hasked, hdropped, hpast⟩ :=
    h.served_or_ended ha
  · have hearly : ∀ moment, watch = some moment → c.link.now < moment := fun moment hmoment =>
      Link.lt_of_waits hwait (by rw [phase]; exact hmoment)
    obtain ⟨hasked, hlt⟩ := hhalf.waits hearly
    rw [hnone, if_pos hlt]
    exact ⟨hasked, rfl⟩
  · exact absurd hend hcut
  · rw [hasked, hdropped, if_neg (by omega), if_neg (by omega)]
    exact ⟨rfl, rfl⟩

end Vigil

variable {terms : Terms} {script : List Attempt} {hub : Hub}

/-- Without a limit to silence, no session has a watchdog. -/
theorem unwatched (hidle : terms.idle = 0) (ms : List Move) :
    ∀ n watch probed, (of terms script hub ms).link.phase = .serving n watch probed →
      watch = none := by
  refine (link_invariant (P := fun s => s.terms = terms ∧
    ∀ n watch probed, s.phase = .serving n watch probed → watch = none)
    ⟨rfl, fun _ _ _ phase => Phase.noConfusion phase⟩ ?_ ?_ ms).2
  · intro s d _ hd hs
    have hwatch : s.watchFrom = none := by rw [Link.watchFrom, hs.1, if_pos hidle]
    refine ⟨(Link.terms_perform hd).trans hs.1, fun n watch probed phase => ?_⟩
    cases Chapter.round ⟨s, d⟩ hd n with
    | quiet hears beats drops same => exact hs.2 n watch probed ((same watch probed).1 phase)
    | heard hears beats drops after =>
      obtain ⟨-, rfl, -⟩ := Phase.serving.inj (after.symm.trans phase)
      exact hwatch
    | asked deed before reached hears beats drops after =>
      obtain ⟨-, rfl, -⟩ := Phase.serving.inj (after.symm.trans phase)
      exact hwatch
    | stillborn hears beats drops cuts after => exact absurd phase (after watch probed)
    | dropped deed before reached hears beats drops after => exact absurd phase (after watch probed)
    | cut before hears beats drops cuts after => exact absurd phase (after watch probed)
  · intro s t hm hs
    rw [hm.terms, hm.phase]
    exact hs

/-- The client has taken notice of a sign of life that was given at `a`, or will at this moment. -/
def Noticed (n : Nat) (c : Life) (a : Nat) : Prop :=
  a ≤ c.link.now ∧ ∀ watch probed, c.link.phase = .serving n watch probed →
    (c.link.inbox n ≠ [] ∧ a = c.link.now) ∨ ∃ b, c.link.heardAt? n = some b ∧ a ≤ b

namespace Noticed

variable {n : Nat} {c : Life} {a : Nat}

theorem turned {d : Deed} (h : Noticed n c a) (hs : c.link.Sound) (hd : c.link.Ready d) :
    Noticed n (c.turned d) a := by
  have hnow : (c.turned d).link.now = c.link.now := Link.now_perform hd
  have hheard := heardAt?_turned hs hd n
  have hsame : ∀ watch probed, (Chapter.mk c.link d).hears n = false →
      c.link.phase = .serving n watch probed →
      ((c.turned d).link.inbox n ≠ [] ∧ a = (c.turned d).link.now) ∨
        ∃ b, (c.turned d).link.heardAt? n = some b ∧ a ≤ b := by
    intro watch probed hears phase
    have htaken : d.taken n = [] := by
      by_contra hsome
      rw [Chapter.hears_of_taken hsome] at hears
      cases hears
    have hinbox := Link.inbox_perform hd n
    rw [htaken] at hinbox
    rw [hears, if_neg Bool.false_ne_true] at hheard
    rw [hheard, hnow, show (c.turned d).link.inbox n = c.link.inbox n from hinbox.symm]
    exact h.2 watch probed phase
  refine ⟨hnow ▸ h.1, fun watch probed phase => ?_⟩
  cases Chapter.round ⟨c.link, d⟩ hd n with
  | quiet hears beats drops same => exact hsame _ _ hears ((same watch probed).1 phase)
  | heard hears beats drops after =>
    rw [hears, if_pos rfl] at hheard
    exact .inr ⟨_, hheard, h.1⟩
  | asked deed before reached hears beats drops after => exact hsame _ _ hears before
  | stillborn hears beats drops cuts after => exact absurd phase (after watch probed)
  | dropped deed before reached hears beats drops after => exact absurd phase (after watch probed)
  | cut before hears beats drops cuts after => exact absurd phase (after watch probed)

/-- The opening of a session is noticed at once. -/
theorem opened {d : Deed} (hs : c.link.Sound) (hd : c.link.Ready d)
    (h : (Chapter.mk c.link d).opens n = true) : Noticed n (c.turned d) c.link.now := by
  have hheard := heardAt?_turned hs hd n
  rw [Chapter.hears_of_opens h, if_pos rfl] at hheard
  exact ⟨Nat.le_of_eq (Link.now_perform hd).symm, fun _ _ _ => .inr ⟨_, hheard, Nat.le_refl _⟩⟩

/-- Time passes only once everything has been noticed. -/
theorem rests {c' : Life} (h : Noticed n c a) (hr : Rests c.link c'.link)
    (hinbox : c.link.inbox n ≠ [] → c'.link.inbox n ≠ []) : Noticed n c' a := by
  have hheard := (hr.window n).1
  refine ⟨Nat.le_trans h.1 hr.since, fun watch probed phase => ?_⟩
  rw [hr.phase] at phase
  rw [hheard]
  refine (h.2 watch probed phase).imp_left fun ⟨hsome, ha⟩ => ⟨hinbox hsome, ?_⟩
  rcases hr.clock with hnow | ⟨hwait, -⟩
  · rw [hnow, ha]
  · exact absurd (inbox_of_waiting hwait phase) hsome

end Noticed

end Life
end RaceLink
