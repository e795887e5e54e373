import RaceLink.Proofs.Link.Clock

/-!
# Runs are lives

`Link.run` lets the world act on a client and `Link.await` lets callers wait for it; both take many
turns and let time pass as they go.  All of this is made of moves, so what holds in every life
holds of everything that can be run.  Time passes in runs just as it does in orderly lives.

* `Life.Later` — a life that goes on from another one.
* `Life.reaches_settle`, `Life.reaches_passWithin`, `Life.reaches_await` — a client that settles,
  lets time pass or is waited for just goes on with its life.
* `Life.run_is_life` — **every run is a life**, if requests are numbered as they are handed in; it
  is an orderly one if handles are used only as long as there are any.
-/

set_option autoImplicit false

namespace RaceLink
namespace Life

theorem terms_move (c : Life) (m : Move) : (c.move m).link.terms = c.link.terms := by
  obtain ⟨d, hd, he⟩ | ⟨hm, -⟩ := deed_or_meanwhile c m
  · rw [he]
    exact Link.terms_perform hd
  · exact hm.terms

/-- A life goes on to another one, by moves that hand no request in and leave the handles alone. -/
structure Later (c c' : Life) (ms : List Move) : Prop where
  moves : ms.foldl move c = c'
  asked : c'.asked = c.asked
  terms : c'.link.terms = c.link.terms
  handles : c'.link.handles = c.link.handles
  orderly : 0 < c.link.terms.delay → c.Orderly ms

theorem Later.refl (c : Life) : Later c c [] := ⟨rfl, rfl, rfl, rfl, fun _ => trivial⟩

theorem Later.trans {a b c : Life} {ms ns : List Move} (hab : Later a b ms) (hbc : Later b c ns) :
    Later a c (ms ++ ns) := by
  obtain ⟨rfl, hasked, hterms, hhandles, horderly⟩ := hab
  obtain ⟨rfl, hasked', hterms', hhandles', horderly'⟩ := hbc
  refine ⟨List.foldl_append, hasked'.trans hasked, hterms'.trans hterms, hhandles'.trans hhandles,
    fun hdelay => (orderly_append a ms ns).2 ⟨horderly hdelay, horderly' ?_⟩⟩
  rw [hterms]
  exact hdelay

/-- The client of a life goes on to another one. -/
def Reaches (c : Life) (s : Link) : Prop := ∃ c' ms, Later c c' ms ∧ c'.link = s

theorem Reaches.trans {c : Life} {s t : Link} (hs : c.Reaches s)
    (ht : ∀ c' : Life, c'.link = s → c'.link.terms = c.link.terms → c'.Reaches t) :
    c.Reaches t := by
  obtain ⟨c', ms, hlater, hlink⟩ := hs
  obtain ⟨c'', ns, hlater', hlink'⟩ := ht c' hlink hlater.terms
  exact ⟨c'', ms ++ ns, hlater.trans hlater', hlink'⟩

theorem later_turn (c : Life) : Later c (c.move .turn) [.turn] := by
  refine ⟨rfl, ?_, terms_move c .turn, ?_, fun _ => ⟨trivial, trivial⟩⟩
  · rw [move]
    split <;> rfl
  · rw [move]
    split
    · rfl
    · rename_i d hd
      exact Link.handles_perform (Link.ready_of_deed? hd)

theorem later_turns (c : Life) (k : Nat) :
    Later c ((List.replicate k Move.turn).foldl move c) (List.replicate k .turn) := by
  induction k generalizing c with
  | zero => exact Later.refl c
  | succ k ih => exact (later_turn c).trans (ih _)

theorem reaches_settle (c : Life) : c.Reaches c.link.settle :=
  ⟨_, _, later_turns c c.link.workload, turns_link c _⟩

/-- Time passes, as far as it can. -/
theorem reaches_moment (c : Life) {t : Nat} (h : c.link.now ≤ t)
    (hallows : 0 < c.link.terms.delay → c.link.Allows (.pass (t - c.link.now))) :
    c.Reaches { c.link with now := t } := by
  refine ⟨c.move (.pass (t - c.link.now)), [.pass (t - c.link.now)],
    ⟨rfl, rfl, rfl, rfl, fun hdelay => ⟨hallows hdelay, trivial⟩⟩, ?_⟩
  show ({ c.link with now := c.link.now + (t - c.link.now) } : Link) = _
  rw [Nat.add_sub_cancel' h]

/-- A client that has settled lets time pass up to its next moment. -/
theorem allows_settled {s : Link} {c : Life} (hc : c.link = s.settle) {t : Nat}
    (hterms : c.link.terms = s.terms) (h : c.link.now ≤ t)
    (hdue : ∀ moment, c.link.phase.due? = some moment → c.link.now < moment → t ≤ moment) :
    0 < c.link.terms.delay → c.link.Allows (.pass (t - c.link.now)) := by
  intro hdelay
  have hwait : c.link.deed? = none := by
    rw [hc]
    rw [hterms] at hdelay
    exact Link.settle_waits hdelay
  refine ⟨hwait, fun moment hmoment => ?_⟩
  have hle := hdue moment hmoment (Link.lt_of_waits hwait hmoment)
  omega

theorem reaches_passWithin (steps target : Nat) (c : Life) :
    c.Reaches (Link.passWithin steps target c.link) := by
  induction steps generalizing c with
  | zero => exact ⟨c, [], Later.refl c, rfl⟩
  | succ steps ih =>
    refine (reaches_settle c).trans fun c' hc' hterms => ?_
    rw [Link.passWithin, ← hc']
    have hend : (∀ t, c'.link.phase.due? = some t → c'.link.now < t → max c'.link.now target ≤ t) →
        c'.Reaches ({ c'.link with now := max c'.link.now target } : Link).settle := by
      intro hdue
      have hle : c'.link.now ≤ max c'.link.now target := Nat.le_max_left _ _
      refine (reaches_moment c' hle (allows_settled hc' hterms hle hdue)).trans fun c'' hc'' _ => ?_
      rw [← hc'']
      exact reaches_settle c''
    split
    · rename_i t ht
      split
      · rename_i hnext
        have hle : c'.link.now ≤ t := Nat.le_of_lt hnext.1
        refine (reaches_moment c' hle
          (allows_settled hc' hterms hle fun moment hmoment _ => ?_)).trans fun c'' hc'' _ => ?_
        · exact Nat.le_of_eq (Option.some_inj.1 (ht.symm.trans hmoment))
        · rw [← hc'']
          exact ih c''
      · rename_i hnext
        refine hend fun moment hmoment hlt => ?_
        obtain rfl := Option.some_inj.1 (ht.symm.trans hmoment)
        omega
    · rename_i hnone
      refine hend fun moment hmoment _ => ?_
      rw [hnone] at hmoment
      cases hmoment

/-- The next moment that counts comes no later than the one at which the client acts. -/
theorem nextMoment_bounds {s : Link} {ws : List Link.Pending} {t : Nat}
    (h : s.nextMoment ws = some t) :
    s.now ≤ t ∧ ∀ moment, s.phase.due? = some moment → s.now < moment → t ≤ moment := by
  rw [Link.nextMoment] at h
  obtain ⟨hmem, hleast⟩ := List.min?_eq_some_iff.1 h
  have hlater := (List.mem_filter.1 hmem).2
  refine ⟨Nat.le_of_lt (of_decide_eq_true hlater), fun moment hmoment hlt => hleast moment ?_⟩
  refine List.mem_filter.2 ⟨List.mem_append_left _ ?_, decide_eq_true hlt⟩
  rw [hmoment]
  exact List.mem_singleton_self _

theorem reaches_awaitWithin (steps : Nat) (c : Life) (ws : List Link.Pending) :
    c.Reaches (Link.awaitWithin steps c.link ws).1 := by
  induction steps generalizing c ws with
  | zero => exact ⟨c, [], Later.refl c, rfl⟩
  | succ steps ih =>
    refine (reaches_settle c).trans fun c' hc' hterms => ?_
    rw [Link.awaitWithin, ← hc']
    dsimp only
    split
    · exact ⟨c', [], Later.refl c', rfl⟩
    · split
      · exact ⟨c', [], Later.refl c', rfl⟩
      · rename_i t ht
        obtain ⟨hle, hdue⟩ := nextMoment_bounds ht
        refine (reaches_moment c' hle (allows_settled hc' hterms hle hdue)).trans
          fun c'' hc'' _ => ?_
        rw [← hc'']
        exact ih c'' _

/-- Waiting for a client is part of its life. -/
theorem reaches_await (c : Life) (ws : List Waiter) : c.Reaches (c.link.await ws).1 :=
  reaches_awaitWithin (c.link.horizon ws - c.link.now + 2) c
    (c.link.serveWaiters (ws.map (·, none)))

/-- The requests of some acts are numbered in their order, from a number on. -/
def Numbered : Nat → List Act → Prop
  | _, [] => True
  | k, .submit id _ :: rest => id = k ∧ Numbered (k + 1) rest
  | k, _ :: rest => Numbered k rest

/-- Some acts use handles only as long as there are any; at first there are so many. -/
def Handled : Nat → List Act → Prop
  | _, [] => True
  | k, .submit _ _ :: rest => k ≠ 0 ∧ Handled k rest
  | k, .cancel :: rest => k ≠ 0 ∧ Handled k rest
  | k, .clone :: rest => k ≠ 0 ∧ Handled (k + 1) rest
  | k, .release :: rest => k ≠ 0 ∧ Handled (k - 1) rest
  | k, _ :: rest => Handled k rest

/-- **Every run is a life**, and an orderly one if handles are used only as long as there are
any. -/
theorem run_is_life (acts : List Act) (c : Life) (h : Numbered c.asked.length acts) :
    ∃ ms : List Move, (ms.foldl move c).link = c.link.run acts ∧
      (0 < c.link.terms.delay → Handled c.link.handles acts → c.Orderly ms) := by
  induction acts generalizing c with
  | nil => exact ⟨[], rfl, fun _ _ => trivial⟩
  | cons a acts ih =>
    -- most acts hand no request in and leave the handles alone, so that the numbers stay the same
    have hquiet : c.Reaches (c.link.act a) → Numbered c.asked.length acts →
        (Handled c.link.handles (a :: acts) → Handled c.link.handles acts) →
        ∃ ms : List Move, (ms.foldl move c).link = c.link.run (a :: acts) ∧
          (0 < c.link.terms.delay → Handled c.link.handles (a :: acts) → c.Orderly ms) := by
      rintro ⟨c', ms, hlater, hlink⟩ hrest hhandled
      rw [← hlater.asked] at hrest
      obtain ⟨ns, hns, horderly⟩ := ih _ hrest
      refine ⟨ms ++ ns, ?_, fun hdelay hheld => ?_⟩
      · rw [List.foldl_append, hlater.moves, hns, hlink]
        rfl
      · rw [orderly_append, hlater.moves]
        rw [hlater.terms, hlater.handles] at horderly
        exact ⟨hlater.orderly hdelay, horderly hdelay (hhandled hheld)⟩
    -- the others are one move each
    have hmove : ∀ m : Move, (c.move m).link = c.link.act a →
        Numbered (c.move m).asked.length acts →
        (Handled c.link.handles (a :: acts) → c.link.Allows m ∧
          Handled (c.move m).link.handles acts) →
        ∃ ms : List Move, (ms.foldl move c).link = c.link.run (a :: acts) ∧
          (0 < c.link.terms.delay → Handled c.link.handles (a :: acts) → c.Orderly ms) := by
      intro m hlink hrest hhandled
      obtain ⟨ns, hns, horderly⟩ := ih _ hrest
      refine ⟨m :: ns, ?_, fun hdelay hheld => ?_⟩
      · rw [List.foldl_cons, hns, hlink]
        rfl
      · rw [terms_move] at horderly
        exact ⟨(hhandled hheld).1, horderly hdelay (hhandled hheld).2⟩
    cases a with
    | submit id r =>
      obtain ⟨rfl, hrest⟩ := h
      have hlen : (c.move (.submit r)).asked.length = c.asked.length + 1 := List.length_append
      refine hmove (.submit r) rfl (hlen ▸ hrest) fun hheld => ⟨hheld.1, ?_⟩
      have hhandles : (c.move (.submit r)).link.handles = c.link.handles := by
        show (c.link.submit c.asked.length r).handles = c.link.handles
        rw [Link.submit]
        split <;> rfl
      rw [hhandles]
      exact hheld.2
    | far n what =>
      refine hmove (.far n what) rfl h fun hheld => ⟨trivial, ?_⟩
      obtain ⟨ps, -, he⟩ := Link.onPeer_frame c.link n (·.does what)
      have hhandles : (c.move (.far n what)).link.handles = c.link.handles := by
        show (c.link.onPeer n (·.does what)).handles = c.link.handles
        rw [he]
      rw [hhandles]
      exact hheld
    | vanish n =>
      refine hmove (.vanish n) rfl h fun hheld => ⟨trivial, ?_⟩
      obtain ⟨ps, -, he⟩ := Link.onPeer_frame c.link n Peer.vanish
      have hhandles : (c.move (.vanish n)).link.handles = c.link.handles := by
        show (c.link.onPeer n Peer.vanish).handles = c.link.handles
        rw [he]
      rw [hhandles]
      exact hheld
    | cancel => exact hmove .cancel rfl h fun hheld => hheld
    | clone => exact hmove .clone rfl h fun hheld => hheld
    | release => exact hmove .release rfl h fun hheld => hheld
    | idle => exact hquiet (reaches_settle c) h fun hheld => hheld
    | sleep ms => exact hquiet (reaches_passWithin _ _ c) h fun hheld => hheld

end Life
end RaceLink
