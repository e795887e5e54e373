import RaceLink.Proofs.Link.Sights

/-!
# What is written for streams

The cells of a client hold all that it ever told: each of them began with a value and was written
once for each notice that tells of another.  So what can be read of a client at an instant, between
two of its deeds or amid one, is determined by the notices that are out by then.

* `Latest.setAll` — a cell after several values were written.
* `Link.cellsAfter`, `Life.cells_written` — **the cells hold what was told**.
* `Instant`, `Happening` — a client between two moves or amid one, and what can happen to it; what
  can be seen of it only grows (`Instant.views_grow`) and is final once it has stopped
  (`Instant.views_stopped`).
-/

set_option autoImplicit false

namespace RaceLink

namespace Latest

variable {α : Type}

/-- The cell after several values are written, one after the other. -/
def setAll (c : Latest α) (as : List α) : Latest α := as.foldl set c

@[simp] theorem setAll_nil (c : Latest α) : c.setAll [] = c := rfl

theorem setAll_concat (c : Latest α) (as : List α) (a : α) :
    c.setAll (as ++ [a]) = (c.setAll as).set a := by
  rw [setAll, List.foldl_append]
  rfl

theorem setAll_eq (c : Latest α) (as : List α) :
    c.setAll as = ⟨as.getLast?.getD c.value, c.writes + as.length⟩ := by
  induction as generalizing c with
  | nil => rfl
  | cons a as ih =>
    show (c.set a).setAll as = _
    rw [ih, List.getLast?_cons, List.length_cons, Nat.add_comm as.length, ← Nat.add_assoc]
    rfl

end Latest

/-! ## Histories -/

namespace Sight

/-- The model that was made visible. -/
def model? (v : Sight) : Option Model :=
  match v.notice with
  | .model _ => some v.model
  | .link _ _ => none

/-- The report that was made visible. -/
def status? (v : Sight) : Option Status :=
  if v.notice = .model .status then v.model.status else none

end Sight

namespace Link

/-- The cells of a client after all that could be seen. -/
def cellsAfter (views : List Sight) : Latest LinkState × Latest Model × Latest (Option Status) :=
  ((Latest.make .connecting).setAll (views.filterMap fun v => v.notice.link?),
    (Latest.make .empty).setAll (views.filterMap Sight.model?),
    (Latest.make none).setAll ((views.filterMap Sight.status?).map some))

variable {s t : Link}

theorem cellsAfter_link (views : List Sight) {v : Sight} {state : LinkState}
    {session : Option SessionId} (hv : v.notice = .link state session) :
    cellsAfter (views ++ [v]) =
      ((cellsAfter views).1.set state, (cellsAfter views).2.1, (cellsAfter views).2.2) := by
  have hlink : [v].filterMap (fun v => v.notice.link?) = [state] := by
    simp [hv, Notice.link?]
  have hmodel : [v].filterMap Sight.model? = [] := by simp [Sight.model?, hv]
  have hstatus : [v].filterMap Sight.status? = [] := by simp [Sight.status?, hv]
  simp only [cellsAfter, List.filterMap_append, hlink, hmodel, hstatus, List.append_nil,
    Latest.setAll_concat]

theorem cellsAfter_model (views : List Sight) {v : Sight} {c : Change} (hc : c ≠ .status)
    (hv : v.notice = .model c) :
    cellsAfter (views ++ [v]) =
      ((cellsAfter views).1, (cellsAfter views).2.1.set v.model, (cellsAfter views).2.2) := by
  have hlink : [v].filterMap (fun v => v.notice.link?) = [] := by simp [hv, Notice.link?]
  have hmodel : [v].filterMap Sight.model? = [v.model] := by simp [Sight.model?, hv]
  have hstatus : [v].filterMap Sight.status? = [] := by simp [Sight.status?, hv, hc]
  simp only [cellsAfter, List.filterMap_append, hlink, hmodel, hstatus, List.append_nil,
    Latest.setAll_concat]

theorem cellsAfter_status (views : List Sight) {v : Sight} {r : Status}
    (hv : v.notice = .model .status) (hr : v.model.status = some r) :
    cellsAfter (views ++ [v]) =
      ((cellsAfter views).1, (cellsAfter views).2.1.set v.model,
        (cellsAfter views).2.2.set (some r)) := by
  have hlink : [v].filterMap (fun v => v.notice.link?) = [] := by simp [hv, Notice.link?]
  have hmodel : [v].filterMap Sight.model? = [v.model] := by simp [Sight.model?, hv]
  have hstatus : [v].filterMap Sight.status? = [r] := by simp [Sight.status?, hv, hr]
  simp only [cellsAfter, List.filterMap_append, hlink, hmodel, hstatus, List.append_nil,
    List.map_append, List.map_singleton, Latest.setAll_concat]

theorem cells_enter (h : s.cells = cellsAfter s.views) (state : LinkState)
    (session : Option Nat) : (s.enter state session).cells =
      cellsAfter (s.enter state session).views := by
  rw [enter]
  split
  · exact h
  · rw [views_announce, cellsAfter_link _ rfl]
    exact h ▸ rfl

theorem cells_update (h : s.cells = cellsAfter s.views) {r : Model × Option Change}
    (hr : s.model.Reports r) : (s.update r).cells = cellsAfter (s.update r).views := by
  obtain ⟨m, change⟩ := r
  cases change with
  | none => exact h
  | some c =>
    show (publish { s with model := m } c).cells =
      cellsAfter (publish { s with model := m } c).views
    rw [publish]
    by_cases hc : c = .status
    case pos =>
      obtain ⟨r, hstatus⟩ := Option.isSome_iff_exists.1 (hr.told (congrArg some hc))
      rw [if_pos hc, views_announce, cellsAfter_status (r := r) _ (congrArg _ hc) hstatus]
      exact h ▸ congrArg (fun x => (_, _, Latest.set _ x)) hstatus
    case neg =>
      rw [if_neg hc, views_announce, cellsAfter_model _ hc rfl]
      exact h ▸ rfl

/-- Steps write what they tell. -/
theorem Steps.cells (hs : Steps s t) (h : s.cells = cellsAfter s.views) :
    t.cells = cellsAfter t.views := by
  induction hs with
  | quiet quiet => rw [quiet.cells, h, views, views, quiet.sights]
  | enter s state session => exact cells_enter h state session
  | update reports => exact cells_update h reports
  | trans _ _ first second => exact second (first h)

end Link

namespace Life

variable (terms : Terms) (script : List Attempt) (hub : Hub) (ms : List Move)

/-- **The cells hold what was told**, at every moment in the life of a client. -/
theorem cells_written :
    (of terms script hub ms).link.cells = Link.cellsAfter (of terms script hub ms).link.views :=
  invariant (P := fun c => c.link.cells = Link.cellsAfter c.link.views) rfl
    (fun c m hc => (steps_move c m).cells hc) ms

/-- Once a client has stopped, nothing more is to be seen of it. -/
theorem views_move_of_stopped {c : Life} (h : c.link.phase = .stopped) (m : Move) :
    (c.move m).link.phase = .stopped ∧ (c.move m).link.views = c.link.views := by
  obtain ⟨d, hd, -⟩ | ⟨r, he⟩ | hu := move_cases c m
  · exact absurd h (Link.not_stopped_of_ready hd)
  · rw [he, submitted, Link.submit, if_pos h]
    exact ⟨h, rfl⟩
  · obtain ⟨now, ps, cancelled, handles, -, he⟩ := hu.link
    rw [he]
    exact ⟨h, rfl⟩

end Life

/-! ## Instants -/

/-- A client between two moves, or amid one: then some of the notices of that move are out. -/
structure Instant where
  life : Life
  /-- The move that is under way, and how many notices are out by now, counted from the start. -/
  underway : Option (Move × Nat)

/-- What can happen to a client: a move begins, some more of its notices go out, and it ends. -/
inductive Happening where
  | begins (m : Move)
  /-- Some more notices of the move go out. -/
  | tells (notices : Nat)
  | ends
  deriving DecidableEq, Repr

/-- The client, if only some of its notices were out. -/
def Link.showing (s : Link) (views : List Sight) : Link :=
  { s with
    stateCell := (cellsAfter views).1
    modelCell := (cellsAfter views).2.1
    statusCell := (cellsAfter views).2.2 }

namespace Instant

/-- What could be seen at the notices that are out. -/
def views (i : Instant) : List Sight :=
  match i.underway with
  | none => i.life.link.views
  | some (m, out) => (i.life.move m).link.views.take out

/-- The client as it can be seen. -/
def link (i : Instant) : Link :=
  match i.underway with
  | none => i.life.link
  | some _ => i.life.link.showing i.views

/-- The instant after something happened.  Moves do not overlap. -/
def happen (i : Instant) : Happening → Instant
  | .begins m =>
    match i.underway with
    | none => ⟨i.life, some (m, i.life.link.views.length)⟩
    | some _ => i
  | .tells n => ⟨i.life, i.underway.map fun u => (u.1, u.2 + n)⟩
  | .ends =>
    match i.underway with
    | none => i
    | some (m, _) => ⟨i.life.move m, none⟩

/-- The instant that is reached from the start of a client. -/
def of (terms : Terms) (script : List Attempt) (hub : Hub) (hs : List Happening) : Instant :=
  hs.foldl happen ⟨Life.start terms script hub, none⟩

/-- The client is one that began with `hub`, and what was out before a move remains so. -/
structure Reached (hub : Hub) (i : Instant) : Prop where
  sound : i.life.link.Sound
  transparent : i.life.link.Transparent hub
  cells : i.life.link.cells = Link.cellsAfter i.life.link.views
  out : ∀ u, i.underway = some u → i.life.link.views.length ≤ u.2

variable {hub : Hub} {i : Instant}

theorem Reached.happen (h : i.Reached hub) (e : Happening) : (i.happen e).Reached hub := by
  obtain ⟨life, underway⟩ := i
  cases e with
  | begins m =>
    cases underway with
    | none =>
      exact ⟨h.sound, h.transparent, h.cells, fun u hu => Option.some.inj hu ▸ Nat.le_refl _⟩
    | some u => exact h
  | tells n =>
    refine ⟨h.sound, h.transparent, h.cells, fun u hu => ?_⟩
    obtain ⟨u', hu', rfl⟩ := Option.map_eq_some_iff.1 hu
    exact Nat.le_add_right_of_le (h.out u' hu')
  | ends =>
    cases underway with
    | none => exact h
    | some u =>
      have hsound : (life.move u.1).link.Sound := by
        obtain ⟨d, hd, he⟩ | ⟨hm, -⟩ := Life.deed_or_meanwhile life u.1
        · rw [he]
          exact h.sound.perform hd
        · exact hm.sound h.sound
      exact ⟨hsound, h.transparent.steps (Life.steps_move life u.1),
        (Life.steps_move life u.1).cells h.cells, fun _ hu => nomatch hu⟩

theorem reached (terms : Terms) (script : List Attempt) (hub : Hub) (hs : List Happening) :
    (of terms script hub hs).Reached hub := by
  suffices h : ∀ (hs : List Happening) (i : Instant), i.Reached hub →
      (hs.foldl Instant.happen i).Reached hub from
    h hs _ ⟨Link.sound_start terms script hub, Link.transparent_start terms script hub, rfl,
      fun _ hu => nomatch hu⟩
  intro hs
  induction hs with
  | nil => exact fun _ h => h
  | cons e hs ih => exact fun i h => ih _ (h.happen e)

/-- What can be read of a client is what was told. -/
theorem Reached.cells_link (h : i.Reached hub) : i.link.cells = Link.cellsAfter i.views := by
  obtain ⟨life, _ | u⟩ := i
  · exact h.cells
  · rfl

/-- What could be seen stays written down. -/
theorem Reached.views_grow (h : i.Reached hub) (e : Happening) :
    i.views <+: (i.happen e).views := by
  obtain ⟨life, underway⟩ := i
  cases e with
  | begins m =>
    cases underway with
    | none => exact List.prefix_take_iff.2 ⟨(Life.steps_move life m).views_grow, Nat.le_refl _⟩
    | some u => exact List.prefix_rfl
  | tells n =>
    cases underway with
    | none => exact List.prefix_rfl
    | some u => exact List.take_prefix_take_left (Nat.le_add_right _ _)
  | ends =>
    cases underway with
    | none => exact List.prefix_rfl
    | some u => exact List.take_prefix _ _

theorem isStopped_link : i.link.isStopped = i.life.link.isStopped := by
  obtain ⟨life, _ | u⟩ := i <;> rfl

/-- Nothing more is to be seen of a client that has stopped. -/
theorem Reached.views_eq (h : i.Reached hub) (hstop : i.life.link.phase = .stopped) :
    i.views = i.life.link.views := by
  obtain ⟨life, _ | u⟩ := i
  · rfl
  · show (life.move u.1).link.views.take u.2 = life.link.views
    rw [(Life.views_move_of_stopped hstop u.1).2]
    exact List.take_of_length_le (h.out u rfl)

/-- A client that has stopped remains so, and nothing more is to be seen of it. -/
theorem Reached.views_stopped (h : i.Reached hub) (hstop : i.life.link.phase = .stopped)
    (e : Happening) : (i.happen e).life.link.phase = .stopped ∧ (i.happen e).views = i.views := by
  suffices hlife : (i.happen e).life.link.phase = .stopped ∧
      (i.happen e).life.link.views = i.life.link.views by
    rw [(h.happen e).views_eq hlife.1, h.views_eq hstop]
    exact hlife
  obtain ⟨life, underway⟩ := i
  cases e with
  | begins m => cases underway <;> exact ⟨hstop, rfl⟩
  | tells n => exact ⟨hstop, rfl⟩
  | ends =>
    cases underway with
    | none => exact ⟨hstop, rfl⟩
    | some u => exact Life.views_move_of_stopped hstop u.1

end Instant
end RaceLink
