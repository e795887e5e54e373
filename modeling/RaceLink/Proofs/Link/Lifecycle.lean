import RaceLink.Proofs.Link.View

/-!
# The life of the connection

What observers are told about the connection, over a whole life: open as session one, connecting,
open as session two, connecting, and so on, and closed at the very end.

* `stage`, `Event.stage?` — the announcements in the order in which they have to come, and the one
  that an event makes.
* `Announced` — how far the announcements have come, given what a reader of the log knows.
  `Announced.next` is the step, `announced` the law for all fitting logs.
* `Life.Lifecycle`, `Life.follows_lifecycle` — **the lifecycle of every client**.
-/

set_option autoImplicit false

namespace RaceLink

/-- An announcement about the connection: its state and the session. -/
abbrev Stage : Type := LinkState × Option SessionId

/-- The announcements in their order, as long as the client is not stopped. -/
def stage (i : Nat) : Stage :=
  if i % 2 = 0 then (.isOpen, some ⟨UInt64.ofNat (i / 2 + 1)⟩) else (.connecting, none)

/-- The first announcements. -/
def stages (k : Nat) : List Stage := (List.range k).map stage

/-- The announcement that an event makes about the connection. -/
def Event.stage? : Event → Option Stage
  | .notified (.link state id) _ => some (state, id)
  | _ => none

/-- The session that an event opens. -/
def Event.opened? : Event → Option Nat
  | .opened n => some n
  | _ => none

theorem stages_succ (k : Nat) : stages (k + 1) = stages k ++ [stage k] := by
  rw [stages, List.range_succ, List.map_append]
  rfl

/-- Two announcements in a row differ in their state. -/
theorem stage_succ_ne (i : Nat) : (stage i).1 ≠ (stage (i + 1)).1 := by
  rw [stage, stage]
  rcases Nat.mod_two_eq_zero_or_one i with h | h
  · rw [if_pos h, if_neg (by omega)]
    exact LinkState.noConfusion
  · rw [if_neg (by omega), if_pos (by omega)]
    exact LinkState.noConfusion

theorem stage_ne_closed (i : Nat) : (stage i).1 ≠ .closed := by
  rw [stage]
  split <;> exact LinkState.noConfusion

/-! ## How far the announcements have come -/

/-- How far the announcements have come, given what a reader knows. -/
def Announced (v : View) (told : List Stage) : Prop :=
  match v.shown with
  | .connecting =>
    match v.held with
    | none => told = stages (2 * v.opened)
    | some n => 0 < n ∧ n = v.opened ∧ told = stages (2 * (n - 1))
  | .isOpen => 0 < v.opened ∧ told = stages (2 * v.opened - 1)
  | .closed =>
    ∃ k, told = stages k ++ [(.closed, none)] ∧
      (k = 2 * v.opened ∨ (0 < v.opened ∧ k = 2 * v.opened - 1))

theorem Announced.of_eq {v w : View} {told : List Stage} (h : Announced v told)
    (held : w.held = v.held) (opened : w.opened = v.opened) (shown : w.shown = v.shown) :
    Announced w told := by
  rw [Announced, held, opened, shown]
  exact h

theorem Announced.opening {v : View} {told : List Stage} (h : Announced v told)
    (hheld : v.held = none) (hshown : v.shown = .connecting) :
    Announced (v.next (.opened (v.opened + 1))) told := by
  rw [Announced, hshown, hheld] at h
  show Announced ⟨some (v.opened + 1), v.opened + 1, v.shown, false⟩ told
  rw [Announced, hshown]
  exact ⟨Nat.succ_pos _, rfl, h⟩

theorem Announced.open {v : View} {told : List Stage} (h : Announced v told)
    (hheld : v.held = some v.opened) (hshown : v.shown = .connecting) :
    Announced { v with shown := .isOpen, clearing := false }
      (told ++ [(.isOpen, some ⟨UInt64.ofNat v.opened⟩)]) := by
  rw [Announced, hshown, hheld] at h
  obtain ⟨hpos, -, htold⟩ := h
  refine ⟨hpos, ?_⟩
  have hk : 2 * v.opened - 1 = 2 * (v.opened - 1) + 1 := by omega
  have hs : stage (2 * (v.opened - 1)) = (.isOpen, some ⟨UInt64.ofNat v.opened⟩) := by
    rw [stage, if_pos (by omega), show 2 * (v.opened - 1) / 2 + 1 = v.opened by omega]
  show told ++ _ = stages (2 * v.opened - 1)
  rw [hk, stages_succ, hs, htold]

theorem Announced.lost {v : View} {told : List Stage} (h : Announced v told)
    (hshown : v.shown = .isOpen) :
    Announced { v with held := none, clearing := false } told := by
  rw [Announced, hshown] at h
  have hlost : ({ v with held := none, clearing := false } : View).shown = .isOpen := hshown
  rw [Announced, hlost]
  exact h

theorem Announced.connecting {v : View} {told : List Stage} (h : Announced v told)
    (hheld : v.held = none) (hshown : v.shown = .isOpen) :
    Announced { v with shown := .connecting, clearing := false }
      (told ++ [(.connecting, none)]) := by
  rw [Announced, hshown] at h
  obtain ⟨hpos, htold⟩ := h
  have hk : 2 * v.opened = 2 * v.opened - 1 + 1 := by omega
  have hs : stage (2 * v.opened - 1) = (.connecting, none) := by
    rw [stage, if_neg (by omega)]
  simp only [Announced, hheld]
  rw [hk, stages_succ, hs, htold]

theorem Announced.closed {v : View} {told : List Stage} (h : Announced v told)
    (hheld : v.held.isSome ↔ v.shown = .isOpen) (hshown : v.shown ≠ .closed) :
    Announced { v with held := none, shown := .closed, clearing := false }
      (told ++ [(.closed, none)]) := by
  rw [Announced] at h
  cases hs : v.shown with
  | connecting =>
    have hnone : v.held = none := by
      cases hv : v.held with
      | none => rfl
      | some n =>
        rw [hv, hs] at hheld
        cases hheld.1 rfl
    rw [hs, hnone] at h
    exact ⟨_, by rw [h], .inl rfl⟩
  | isOpen =>
    rw [hs] at h
    exact ⟨_, by rw [h.2], .inr ⟨h.1, rfl⟩⟩
  | closed => exact absurd hs hshown

/-- An event that fits takes the announcements no further than they may go. -/
theorem Announced.next {v : View} {told : List Stage} {e : Event} (h : Announced v told)
    (hf : v.Fits e) : Announced (v.next e) (told ++ e.stage?.toList) := by
  have hquiet : told ++ Option.toList none = told := List.append_nil told
  cases e with
  | opened n =>
    obtain ⟨hheld, hshown, rfl⟩ := hf
    show Announced _ (told ++ Option.toList none)
    rw [hquiet]
    exact h.opening hheld hshown
  | lost n =>
    show Announced _ (told ++ Option.toList none)
    rw [hquiet]
    exact h.lost hf.2
  | notified notice m =>
    cases notice with
    | link state id =>
      cases state with
      | connecting =>
        obtain ⟨hheld, hshown, rfl⟩ := hf
        exact h.connecting hheld hshown
      | isOpen =>
        obtain ⟨hheld, hshown, rfl⟩ := hf
        exact h.open hheld hshown
      | closed =>
        obtain ⟨hheld, hshown, rfl⟩ := hf
        exact h.closed hheld hshown
    | model c =>
      show Announced _ (told ++ Option.toList none)
      rw [hquiet]
      exact h.of_eq rfl rfl rfl
  | _ =>
    show Announced _ (told ++ Option.toList none)
    rw [hquiet]
    exact h.of_eq rfl rfl rfl

/-- How far the announcements of a fitting log have come. -/
theorem announced {es : List Event} (hf : View.start.Fitting es) :
    Announced (View.start.after es) (es.filterMap Event.stage?) := by
  have hstart : Announced View.start [] := rfl
  exact View.picked (P := Announced) (fun _ _ _ h he => h.next he) hstart hf

/-! ## What else a fitting log tells -/

/-- Events that say nothing but how a request ended. -/
def Event.IsAnswer (e : Event) : Prop := ∃ id outcome, e = .answered id outcome

/-- After the last announcement there are only answers. -/
theorem answers_of_closed {es : List Event} {v : View} (hheld : v.held = none)
    (hshown : v.shown = .closed) (hf : v.Fitting es) : ∀ e ∈ es, e.IsAnswer := by
  induction es generalizing v with
  | nil => exact fun e he => absurd he List.not_mem_nil
  | cons e es ih =>
    have he : e.IsAnswer := by
      have hfits := hf.1
      cases e with
      | answered id outcome => exact ⟨id, outcome, rfl⟩
      | notified notice m =>
        cases notice with
        | link state id => cases state <;> simp [View.Fits, hheld, hshown] at hfits
        | model c => simp [View.Fits, hshown] at hfits
      | _ => simp [View.Fits, hheld, hshown] at hfits
    have hrest : ∀ e ∈ es, e.IsAnswer := by
      obtain ⟨id, outcome, rfl⟩ := he
      exact ih (v := v.next (.answered id outcome)) hheld hshown hf.2
    intro e' hmem
    rcases List.mem_cons.1 hmem with rfl | htail
    · exact he
    · exact hrest e' htail

/-- A reader who expects the consequences of a reset has just read about one. -/
theorem cleared_of_clearing {pre : List Event} (h : (View.start.after pre).clearing = true) :
    ∃ early, pre = early ++ [.cleared] := by
  rcases List.eq_nil_or_concat pre with rfl | ⟨early, e, rfl⟩
  · cases h
  · rw [List.concat_eq_append] at h ⊢
    rw [View.after_append] at h
    refine ⟨early, ?_⟩
    cases e with
    | cleared => rfl
    | notified notice m =>
      cases notice with
      | link state id => cases state <;> cases h
      | model c => cases h
    | _ => cases h

/-- Sessions are counted from one. -/
theorem opened_of_fitting {es : List Event} (hf : View.start.Fitting es) :
    es.filterMap Event.opened? = List.range' 1 (View.start.after es).opened := by
  refine View.picked (P := fun v ns => ns = List.range' 1 v.opened) ?_
    (rfl : [] = List.range' 1 View.start.opened) hf
  intro v ns e h he
  cases e with
  | opened n =>
    obtain ⟨-, -, rfl⟩ := he
    show ns ++ [v.opened + 1] = List.range' 1 (v.opened + 1)
    rw [h, List.range'_1_concat, Nat.add_comm 1]
  | notified notice m =>
    cases notice with
    | link state id => cases state <;> exact (List.append_nil ns).trans h
    | model c => exact (List.append_nil ns).trans h
  | _ => exact (List.append_nil ns).trans h

/-- No two announcements in a row tell of the same state. -/
theorem stages_change {told : List Stage} {k : Nat} {p : Prop} [Decidable p]
    (h : told = stages k ++ (if p then [(.closed, none)] else [])) {i : Nat} {a b : Stage}
    (ha : told[i]? = some a) (hb : told[i + 1]? = some b) : a.1 ≠ b.1 := by
  have hlen : (stages k).length = k := by simp [stages]
  have hget : ∀ j, j < k → (stages k)[j]? = some (stage j) := fun j hj => by simp [stages, hj]
  have hi : i < k := by
    have hlt := (List.getElem?_eq_some_iff.1 hb).1
    rw [h, List.length_append, hlen] at hlt
    split at hlt <;> simp at hlt <;> omega
  rw [h, List.getElem?_append_left (by omega), hget i hi] at ha
  obtain rfl := Option.some_inj.1 ha
  rcases Nat.lt_or_ge (i + 1) k with hlt | hge
  · rw [h, List.getElem?_append_left (by omega), hget (i + 1) hlt] at hb
    obtain rfl := Option.some_inj.1 hb
    exact stage_succ_ne i
  · have hmem : b ∈ (if p then [((.closed, none) : Stage)] else []) := by
      rw [h, List.getElem?_append_right (by omega)] at hb
      exact List.mem_of_getElem? hb
    split at hmem
    · rw [List.mem_singleton.1 hmem]
      exact stage_ne_closed i
    · cases hmem

/-- A deed that tells of a failed attempt tells of nothing else. -/
theorem refused_alone {s : Link} {d : Deed} (h : .refused ∈ s.story d) :
    s.story d = [.refused] := by
  have hposts : ∀ n cs, .refused ∉ Link.posts n cs := fun n cs => by simp [Link.posts]
  have htold : ∀ r, .refused ∉ Link.told r := fun r => by simp [Link.told]
  have hloss : ∀ n m, .refused ∉ Link.loss n m := fun n m => by simp [Link.loss]
  have hfate : ∀ (p : Prop) [Decidable p] n m, .refused ∉ Link.fate p n m := fun p _ n m => by
    rw [Link.fate]
    split
    · exact List.not_mem_nil
    · exact hloss n m
  have hprelude : ∀ r, .refused ∉ s.prelude r := fun r => by
    cases r <;> simp [Link.prelude, htold]
  cases d with
  | attempt => simp [Link.story] at h
  | resolve a =>
    rw [Link.story] at h ⊢
    split at h
    · simp [Link.opening, hposts, hfate] at h
    · rename_i hacc
      rw [if_neg hacc]
  | read n text =>
    rw [Link.story, Link.heard] at h
    split at h <;> simp [htold] at h
  | lose n => exact absurd h (hloss n _)
  | watch n probed => cases probed <;> simp [Link.story, hposts, hfate, hloss] at h
  | serve n id r => simp [Link.story, hposts, hfate, hprelude] at h
  | decline id r => simp [Link.story, hprelude] at h
  | close n => cases h
  | stop => simp [Link.story] at h

/-! ## The law -/

variable {terms : Terms} {script : List Attempt} {hub : Hub}

namespace Life

/-- What is known of the connection from a part of the log. -/
def known (es : List Event) : View := View.start.after es

/-- The lifecycle of a connection. -/
structure Lifecycle (c : Life) : Prop where
  /-- What handles read is the state that was announced last. -/
  read : c.link.stateCell.value = (known c.link.events).shown
  /-- It is `open` exactly if a session is held. -/
  isOpen : c.link.stateCell.value = .isOpen ↔ c.link.phase.session?.isSome
  /-- The session that is held is the one that the log says is held, and its number is that of the
  sessions opened so far. -/
  session : ∀ n, c.link.phase.session? = some n →
    (known c.link.events).held = some n ∧ n = (c.link.events.filterMap Event.opened?).length
  /-- Sessions are counted from one. -/
  counted : c.link.events.filterMap Event.opened? = List.range' 1 c.link.peers.length
  /-- No session is opened while another one is held. -/
  single : ∀ pre n post, c.link.events = pre ++ .opened n :: post → (known pre).held = none
  /-- The announcements come in their order; after all of them at most one tells that the client
  has stopped.  As long as it has not, their number is twice that of the sessions, or one less
  while a session is held. -/
  stages : ∃ k, c.link.events.filterMap Event.stage? =
      stages k ++ (if c.link.phase = .stopped then [(.closed, none)] else []) ∧
    (c.link.phase ≠ .stopped →
      k = 2 * c.link.peers.length - (if c.link.phase.session?.isSome then 1 else 0))
  /-- No two announcements in a row tell of the same state. -/
  changes : ∀ i a b, (c.link.events.filterMap Event.stage?)[i]? = some a →
    (c.link.events.filterMap Event.stage?)[i + 1]? = some b → a.1 ≠ b.1
  /-- Once it was announced that the client has stopped, nothing but answers follow. -/
  last : ∀ pre id m post, c.link.events = pre ++ .notified (.link .closed id) m :: post →
    ∀ e ∈ post, e.IsAnswer
  /-- An attempt that fails tells nothing to observers. -/
  failed : ∀ ch ∈ c.chapters, .refused ∈ ch.events → ch.events = [.refused]
  /-- A change of the model that is announced while the state is not `open` is that the laps are
  gone, and a local reset comes right before it. -/
  offline : ∀ pre change m post, c.link.events = pre ++ .notified (.model change) m :: post →
    (known pre).shown ≠ .isOpen →
      change = .laps ∧ m.laps = [] ∧ ∃ early, pre = early ++ [.cleared]

theorem known_log (ms : List Move) :
    known (of terms script hub ms).link.events = (of terms script hub ms).link.view :=
  (log_fits terms script hub ms).2

theorem fits_log {ms : List Move} {pre post : List Event} {e : Event}
    (h : (of terms script hub ms).link.events = pre ++ e :: post) : (known pre).Fits e :=
  View.fits_of_fitting (log_fits terms script hub ms).1 h

/-- How far the announcements have come is told by the phase. -/
theorem stages_log (ms : List Move) {c : Life} (hc : c = of terms script hub ms) :
    ∃ k, c.link.events.filterMap Event.stage? =
        RaceLink.stages k ++ (if c.link.phase = .stopped then [(.closed, none)] else []) ∧
      (c.link.phase ≠ .stopped →
        k = 2 * c.link.peers.length - (if c.link.phase.session?.isSome then 1 else 0)) := by
  have h := announced (log_fits terms script hub ms).1
  have hview : known (of terms script hub ms).link.events = _ := known_log ms
  rw [known] at hview
  rw [hview, ← hc] at h
  have hopen : ∀ {k : Nat}, c.link.events.filterMap Event.stage? = RaceLink.stages k →
      c.link.events.filterMap Event.stage? = RaceLink.stages k ++ [] :=
    fun h => h.trans (List.append_nil _).symm
  cases hp : c.link.phase with
  | stopped =>
    rw [Announced, Link.view, hp] at h
    obtain ⟨k, hk, -⟩ := h
    exact ⟨k, hk, fun hne => absurd rfl hne⟩
  | waiting t =>
    rw [Announced, Link.view, hp] at h
    exact ⟨2 * c.link.peers.length, hopen h, fun _ => rfl⟩
  | seeking a due =>
    rw [Announced, Link.view, hp] at h
    exact ⟨2 * c.link.peers.length, hopen h, fun _ => rfl⟩
  | serving n watch probed =>
    rw [Announced, Link.view, hp] at h
    exact ⟨2 * c.link.peers.length - 1, hopen h.2, fun _ => rfl⟩
  | closing n t =>
    rw [Announced, Link.view, hp] at h
    exact ⟨2 * c.link.peers.length - 1, hopen h.2, fun _ => rfl⟩

/-- **Every client follows the lifecycle**, at every moment of its life. -/
theorem follows_lifecycle (ms : List Move) : (of terms script hub ms).Lifecycle := by
  obtain ⟨hfit, -⟩ := log_fits terms script hub ms
  have hknown : known (of terms script hub ms).link.events = _ := known_log ms
  have hsound : (of terms script hub ms).link.Sound := sound ms
  have hshown := hsound.cell.trans hsound.state
  have hopened := opened_of_fitting hfit
  have hcount : (View.start.after (of terms script hub ms).link.events).opened =
      (of terms script hub ms).link.peers.length := congrArg View.opened hknown
  rw [hcount] at hopened
  obtain ⟨k, hstages, hk⟩ := stages_log ms (rfl : of terms script hub ms = _)
  exact {
    read := by
      rw [hknown]
      exact hshown
    isOpen := by
      rw [hshown]
      exact Phase.shown_eq_isOpen_iff _
    session := fun n hn => by
      refine ⟨?_, ?_⟩
      · rw [hknown]
        exact hn
      · rw [hopened, List.length_range']
        exact (hsound.session n hn).2
    counted := hopened
    single := fun pre n post he => (fits_log he).1
    stages := ⟨k, hstages, hk⟩
    changes := fun i a b ha hb => stages_change hstages ha hb
    last := fun pre id m post he => by
      have hpost := hfit
      rw [he, View.fitting_append, View.fitting_cons] at hpost
      exact answers_of_closed rfl rfl hpost.2.2
    failed := fun ch _ hmem => refused_alone hmem
    offline := fun pre change m post he hne => by
      obtain hopen | ⟨-, hlaps, hnil, hclear⟩ := fits_log he
      · exact absurd hopen hne
      · exact ⟨hlaps, hnil, cleared_of_clearing hclear⟩ }

/-- A session that is opened and lost makes two announcements. -/
example (hub : Hub) :
    (of ⟨3000, 0, true⟩ [] hub [.turn, .turn, .vanish 1, .turn]).link.events.filterMap
      Event.stage? = RaceLink.stages 2 := rfl

end Life
end RaceLink
