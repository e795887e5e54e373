import RaceLink.Proofs.Link.Replies
import RaceLink.Proofs.Link.Sights

/-!
# Resets

A reset is asked for like anything else that is to be sent, but its first part needs no far side:
the laps are cleared when the request is taken, with a session or without one.  Only then is the
command sent, or dropped, and only then is the request answered.

* `Model.lapless` — a model without its laps; `Model.laps_after` — what becomes of laps depends on
  laps alone, and all of them come from frames (`Model.mem_laps_after`).
* `Link.Clears` — what clearing the laps does to a client, to its handles and to those who are told
  (`Link.clears_prepare`).
* `Chapter.cleared`, `Link.concluded` — the two parts of a chapter in which a reset is taken.
* `Chapter.Resets` — what happens in such a chapter (`Life.resets_of_taken`).
* `Life.Immediate`, `Life.resets_immediate` — **resets are immediate**, in all lives: whoever was
  answered reads no lap that was told before.
-/

set_option autoImplicit false

namespace RaceLink

/-! ## Laps -/

/-- The laps that a frame brings. -/
def Frame.brings : Frame → List Lap
  | .lap told _ => [told]
  | .laps told => told
  | _ => []

namespace Model

/-- The model without its laps. -/
def lapless (m : Model) : Model := { m with laps := [] }

theorem lapless_of_nil {m : Model} (h : m.laps = []) : m.lapless = m := by
  rw [lapless, ← h]

theorem reset_eq (m : Model) :
    m.reset = (m.lapless, if m.laps = [] then none else some .laps) := by
  rw [reset]
  split
  · rename_i hnil
    rw [lapless_of_nil hnil]
  · rfl

/-- What becomes of the laps does not depend on the rest of a model. -/
theorem laps_take {m m' : Model} (h : m.laps = m'.laps) (i : Input) :
    (m.take i).1.laps = (m'.take i).1.laps := by
  cases i with
  | reset => rw [take, take, reset_eq, reset_eq]; rfl
  | frame f =>
    cases f with
    | lap lap number =>
      show (m.applyLap lap number).1.laps = (m'.applyLap lap number).1.laps
      rw [applyLap, applyLap, h]
      split
      · split
        · exact h
        · rfl
      · rfl
    | laps laps =>
      show (m.apply (.laps laps)).1.laps = (m'.apply (.laps laps)).1.laps
      rw [apply, apply, h]
      split
      · exact h
      · rfl
    | status _ | flag _ | unknown _ => exact h

theorem laps_after {m m' : Model} (h : m.laps = m'.laps) (inputs : List Input) :
    (m.after inputs).laps = (m'.after inputs).laps := by
  induction inputs generalizing m m' with
  | nil => exact h
  | cons i rest ih => exact ih (laps_take h i)

theorem mem_laps_apply {m : Model} {f : Frame} {lap : Lap} (h : lap ∈ (m.apply f).1.laps) :
    lap ∈ m.laps ∨ lap ∈ f.brings := by
  cases f with
  | lap told number =>
    rw [apply, applyLap] at h
    split at h
    · split at h
      · exact .inl h
      · exact (List.mem_or_eq_of_mem_set h).imp id List.mem_singleton.2
    · exact List.mem_append.1 h
  | laps laps =>
    rw [apply] at h
    split at h
    · exact .inl h
    · exact .inr h
  | status _ | flag _ | unknown _ => exact .inl h

/-- A lap was there before or was brought by a frame. -/
theorem mem_laps_after {m : Model} {inputs : List Input} {lap : Lap}
    (h : lap ∈ (m.after inputs).laps) :
    lap ∈ m.laps ∨ ∃ f, .frame f ∈ inputs ∧ lap ∈ f.brings := by
  induction inputs generalizing m with
  | nil => exact .inl h
  | cons i rest ih =>
    rcases ih h with hmid | ⟨f, hf, hlap⟩
    · cases i with
      | reset =>
        have hnone : (m.take .reset).1.laps = [] := congrArg (fun r => r.1.laps) m.reset_eq
        rw [hnone] at hmid
        exact absurd hmid List.not_mem_nil
      | frame f =>
        exact (mem_laps_apply hmid).imp id fun hlap => ⟨f, List.mem_cons_self, hlap⟩
    · exact .inr ⟨f, List.mem_cons_of_mem _ hf, hlap⟩

end Model

namespace Link

/-! ## Clearing the laps -/

/-- What a client has become by clearing its laps, and in nothing else. -/
structure Clears (s t : Link) : Prop where
  model : t.model = s.model.lapless
  /-- Handles read it at once. -/
  handles : t.snapshot = ⟨s.state, s.model.lapless, s.model.status⟩
  /-- The connection is what it was, and the cells that tell of it and of the status were not
  written. -/
  connection : t.state = s.state ∧ t.stateCell = s.stateCell ∧ t.statusCell = s.statusCell
  bare : t.bare = s.bare
  /-- If there were laps this is told once, with the empty list, and otherwise not at all. -/
  events : t.events = s.events ++ .cleared ::
    if s.model.laps = [] then [] else [.notified (.model .laps) s.model.lapless]
  hub : t.hub =
    if s.model.laps = [] then s.hub else (s.hub.publish (.model .laps) s.model.lapless).1
  /-- Whoever is told of it reads it already. -/
  views : t.views = s.views ++
    if s.model.laps = [] then [] else [⟨.model .laps, s.state, s.model.lapless, t.snapshot⟩]

/-- A client whose laps are cleared, before anybody is told. -/
def emptied (s : Link) : Link :=
  { s.record .cleared with
    model := s.model.lapless
    modelCell := s.modelCell.set s.model.lapless }

theorem prepare_reset (s : Link) : s.prepare .reset =
    if s.model.laps = [] then s.record .cleared else s.emptied.announce (.model .laps) := by
  have hprepare : s.prepare .reset = (s.record .cleared).update s.model.reset := rfl
  rw [hprepare, Model.reset_eq]
  split
  · rename_i hnil
    rw [Model.lapless_of_nil hnil]
    rfl
  · rfl

variable {hub : Hub} {s : Link}

/-- **Clearing the laps**, whatever the client is doing. -/
theorem clears_prepare (h : s.Transparent hub) : s.Clears (s.prepare .reset) := by
  have hmodel : (s.prepare .reset).model = s.model.lapless := by
    rw [model_prepare, prepared, Model.reset_eq]
  have hhandles := (h.steps (steps_prepare s .reset)).handles
  rw [state_prepare, hmodel] at hhandles
  rw [prepare_reset] at hmodel hhandles ⊢
  by_cases hnil : s.model.laps = []
  · rw [if_pos hnil] at hmodel hhandles ⊢
    refine ⟨hmodel, hhandles, ⟨rfl, rfl, rfl⟩, rfl, ?_, (if_pos hnil).symm, ?_⟩
    · rw [if_pos hnil]
      exact events_record s _
    · rw [if_pos hnil]
      exact (List.append_nil _).symm
  · rw [if_neg hnil] at hmodel hhandles ⊢
    refine ⟨hmodel, hhandles, ⟨rfl, rfl, rfl⟩, rfl, ?_, (if_neg hnil).symm, ?_⟩
    · have hcleared : s.emptied.events = s.events ++ [.cleared] := events_record s _
      rw [if_neg hnil, events_announce, hcleared, List.append_assoc]
      rfl
    · rw [if_neg hnil]
      exact views_announce s.emptied _

/-! ## Taking a reset -/

/-- How a reset goes on once the laps are cleared.  The command is sent on the session that is
held, or dropped if there is none, and the request is answered. -/
def concluded (t : Link) (id : Nat) : Option Nat → Link
  | none =>
    (t.record (.dropped id Command.resetRace.name)).answer id
      (.error (.notConnected Command.resetRace.name))
  | some n =>
    match t.deliver n [.resetRace] with
    | (t, none) => t.answer id (.ok ())
    | (t, some reason) => (t.answer id (.error (.transport reason none))).lose n

/-- What comes after the laps are cleared leaves the model alone, and the cell that handles read it
from. -/
theorem concluded_model (t : Link) (id : Nat) (held : Option Nat) :
    (t.concluded id held).model = t.model ∧ (t.concluded id held).modelCell = t.modelCell := by
  have hlose (u : Link) (n : Nat) : (u.lose n).model = u.model ∧
      (u.lose n).modelCell = u.modelCell := by
    refine ⟨model_lose u n, ?_⟩
    rw [lose, enter]
    split <;> rfl
  cases held with
  | none => exact ⟨rfl, rfl⟩
  | some n =>
    have hquiet := quiet_deliver t n [.resetRace]
    have hcell : (t.deliver n [.resetRace]).1.modelCell = t.modelCell :=
      congrArg (fun c => c.2.1) hquiet.cells
    rw [concluded]
    split
    · rename_i u hu
      rw [hu] at hquiet hcell
      exact ⟨hquiet.model, hcell⟩
    · rename_i u reason hu
      rw [hu] at hquiet hcell
      obtain ⟨hmodel, hkept⟩ := hlose (u.answer id (.error (.transport reason none))) n
      exact ⟨hmodel.trans hquiet.model, hkept.trans hcell⟩

end Link

namespace Chapter

/-- The client that is to take a request, once the request is no longer among those that wait. -/
def taking (ch : Chapter) : Link := { ch.before with queue := ch.before.queue.drop 1 }

/-- The client in a chapter in which a reset is taken, once the laps are cleared. -/
def cleared (ch : Chapter) : Link := ch.taking.prepare .reset

/-- What happens in a chapter in which a reset is taken. -/
structure Resets (ch : Chapter) (id : Nat) : Prop where
  /-- First the laps are cleared, whatever the client is doing. -/
  clears : ch.taking.Clears ch.cleared
  /-- Then the command is sent or dropped, the request is answered, and a session that failed is
  given up. -/
  concluded : ch.after = ch.cleared.concluded id ch.before.phase.session?
  /-- Nothing that happens then brings laps back. -/
  kept : ch.after.model = ch.cleared.model ∧ ch.after.modelCell = ch.cleared.modelCell
  /-- The request is answered only then, and all that is sent is sent only then. -/
  later : ∃ rest outcome, ch.after.events = ch.cleared.events ++ rest ∧
    rest.filterMap Event.answer? = [(id, outcome)] ∧ rest.filterMap Event.frame? = ch.frames ∧
    rest.filter Event.isInner = []
  sent : ch.frames = [] ∨ ∃ n, ch.before.phase.session? = some n ∧
    ch.frames = [(n, Command.resetRace.text)]

variable {ch : Chapter} {id : Nat}

/-- A reset is taken with a session or without one. -/
theorem deed_of_reset (hd : ch.before.Ready ch.deed) (h : ch.taken? = some (id, .reset)) :
    (∃ n, ch.before.phase.session? = some n ∧ ch.deed = .serve n id .reset) ∨
      (ch.before.phase.session? = none ∧ ch.deed = .decline id .reset) := by
  obtain ⟨s, d⟩ := ch
  cases hd with
  | @serve n _ watch probed p r rest phase live peer next early queue =>
    obtain ⟨rfl, rfl⟩ := Prod.mk.inj (Option.some_inj.1 h)
    exact .inl ⟨n, congrArg Phase.session? phase, rfl⟩
  | decline offline live queue =>
    obtain ⟨rfl, rfl⟩ := Prod.mk.inj (Option.some_inj.1 h)
    exact .inr ⟨Phase.session?_of_connecting offline, rfl⟩
  | _ => cases h

/-- The story of such a chapter begins with what is told of the laps. -/
theorem events_of_reset (hd : ch.before.Ready ch.deed) (h : ch.taken? = some (id, .reset)) :
    ∃ rest, ch.events = ch.before.prelude .reset ++ rest := by
  rw [events]
  obtain ⟨n, -, hdeed⟩ | ⟨-, hdeed⟩ := deed_of_reset hd h
  · rw [hdeed, Link.story, List.append_assoc, List.append_assoc]
    exact ⟨_, rfl⟩
  · rw [hdeed, Link.story]
    exact ⟨_, rfl⟩

theorem answers_of_reset (hd : ch.before.Ready ch.deed) (h : ch.taken? = some (id, .reset)) :
    ∃ outcome, ch.answers = [(id, outcome)] := by
  rw [answers]
  obtain ⟨n, -, hdeed⟩ | ⟨-, hdeed⟩ := deed_of_reset hd h
  · rw [hdeed]
    exact ⟨_, rfl⟩
  · rw [hdeed]
    exact ⟨_, rfl⟩

theorem frames_of_reset (hd : ch.before.Ready ch.deed) (h : ch.taken? = some (id, .reset)) :
    ch.frames = [] ∨ ∃ n, ch.before.phase.session? = some n ∧
      ch.frames = [(n, Command.resetRace.text)] := by
  obtain ⟨s, d⟩ := ch
  obtain ⟨n, hheld, rfl⟩ | ⟨-, rfl⟩ := deed_of_reset hd h
  · rw [frames_serve]
    -- one command was to be sent, so all of it was accepted or nothing
    rcases List.prefix_cons_iff.1 (Link.accepted_prefix s n Request.reset.commands) with
      hnone | ⟨rest, hall, hrest⟩
    · rw [hnone]
      exact .inl rfl
    · rw [hall, List.prefix_nil.1 hrest]
      exact .inr ⟨n, hheld, rfl⟩
  · exact .inl (frames_decline s id .reset)

/-- Clearing the laps is not told in the events of requests and of what was sent. -/
theorem prelude_silent {α : Type} {f : Event → Option α} (hcleared : f .cleared = none)
    (htold : ∀ c m, f (.notified (.model c) m) = none) (s : Link) :
    (s.prelude .reset).filterMap f = [] := by
  refine List.filterMap_eq_nil_iff.2 fun e he => ?_
  rcases List.mem_cons.1 he with rfl | hmem
  · exact hcleared
  · obtain ⟨c, -, rfl⟩ := List.mem_map.1 hmem
    exact htold c _

/-- What such a chapter tells once the laps are cleared. -/
theorem later_of_reset (hs : ch.before.Sound) (hd : ch.before.Ready ch.deed)
    (h : ch.taken? = some (id, .reset)) :
    ∃ rest outcome, ch.after.events = ch.cleared.events ++ rest ∧
      rest.filterMap Event.answer? = [(id, outcome)] ∧ rest.filterMap Event.frame? = ch.frames ∧
      rest.filter Event.isInner = [] := by
  obtain ⟨rest, hrest⟩ := events_of_reset hd h
  obtain ⟨outcome, houtcome⟩ := answers_of_reset hd h
  refine ⟨rest, outcome, ?_, ?_, ?_, ?_⟩
  · rw [cleared, Link.events_prepare, List.append_assoc]
    exact (Link.events_perform hs hd).trans (congrArg (ch.before.events ++ ·) hrest)
  · rw [← houtcome, ← answers_events, hrest, List.filterMap_append,
      prelude_silent rfl fun _ _ => rfl]
    rfl
  · rw [frames, hrest, List.filterMap_append, prelude_silent rfl fun _ _ => rfl]
    rfl
  · -- all that a chapter tells of the model is told first
    have hinner : (ch.before.prelude .reset).filter Event.isInner ++ rest.filter Event.isInner =
        ch.before.innerStory ch.deed := by
      rw [← List.filter_append, ← hrest]
      exact Link.inner_story ch.before ch.deed
    have hfirst : ch.before.innerStory ch.deed = ch.before.prelude .reset := by
      obtain ⟨n, -, hdeed⟩ | ⟨-, hdeed⟩ := deed_of_reset hd h <;> rw [hdeed, Link.innerStory]
    rw [hfirst, Link.filter_prelude _ _ _ true rfl fun _ _ => rfl] at hinner
    exact List.append_right_eq_self.1 hinner

/-- **Taking a reset**, in any phase in which a request can be taken. -/
theorem resets_of_taken {hub : Hub} (hs : ch.before.Sound) (ht : ch.before.Transparent hub)
    (hd : ch.before.Ready ch.deed) (h : ch.taken? = some (id, .reset)) : ch.Resets id := by
  have hparts : ch.after = ch.cleared.concluded id ch.before.phase.session? := by
    obtain ⟨s, d⟩ := ch
    obtain ⟨n, hheld, rfl⟩ | ⟨hheld, rfl⟩ := deed_of_reset hd h
    all_goals
      rw [hheld]
      rfl
  exact {
    clears := Link.clears_prepare (ht.quiet ⟨rfl, rfl, rfl, rfl, rfl, rfl⟩)
    concluded := hparts
    kept := by
      rw [hparts]
      exact ch.cleared.concluded_model id _
    later := later_of_reset hs hd h
    sent := frames_of_reset hd h }

theorem inputs_of_reset (hd : ch.before.Ready ch.deed) (h : ch.taken? = some (id, .reset)) :
    ch.deed.inputs = [.reset] := by
  obtain ⟨n, -, hdeed⟩ | ⟨-, hdeed⟩ := deed_of_reset hd h <;> rw [hdeed, Deed.inputs]

end Chapter

namespace Life

/-- What is promised of resets. -/
structure Immediate (c : Life) : Prop where
  /-- The laps are cleared in the chapter in which a reset is taken, before anything else. -/
  taken : ∀ ch ∈ c.chapters, ∀ id, ch.taken? = some (id, .reset) → ch.Resets id
  /-- Once a reset is answered, unless the client has stopped without taking it, it was taken, and
  handles read the laps that were told since, and no others. -/
  returned : ∀ id outcome, c.asked[id]? = some .reset → outcome ∈ c.answersTo id →
    outcome ≠ .error .shutdown →
    ∃ earlier ch since, c.chapters = earlier ++ ch :: since ∧ ch.taken? = some (id, .reset) ∧
      c.link.snapshot.model.laps =
        (Model.empty.after (since.flatMap fun ch => ch.deed.inputs)).laps ∧
      ∀ lap ∈ c.link.snapshot.model.laps,
        ∃ later ∈ since, ∃ f, .frame f ∈ later.deed.inputs ∧ lap ∈ f.brings

variable {terms : Terms} {script : List Attempt} {hub : Hub}

/-- A request that was answered was taken, unless it was refused by a client that has stopped. -/
theorem Kept.taken_of_answer {c : Life} (h : c.Kept) {id : Nat} {r : Request}
    (hasked : c.asked[id]? = some r) {outcome : Except Fault Unit}
    (ho : outcome ∈ c.answersTo id) (hshutdown : outcome ≠ .error .shutdown) :
    ∃ ch ∈ c.chapters, ch.taken? = some (id, r) := by
  obtain ⟨ch, hch, hanswer⟩ | ⟨-, hlate⟩ := h.mem_answersTo.1 ho
  case inr => exact absurd hlate hshutdown
  have hsame {r' : Request} (htaken : ch.taken? = some (id, r')) : r' = r :=
    Option.some.inj ((h.asked_of_settled hch (settled_of_taken htaken)).symm.trans hasked)
  refine ⟨ch, hch, ?_⟩
  obtain ⟨n, r', hd, -⟩ | ⟨r', hd, -⟩ | ⟨-, -, hstop⟩ := mem_answers.1 hanswer
  · have htaken : ch.taken? = some (id, r') := by rw [Chapter.taken?, hd]
    rwa [hsame htaken] at htaken
  · have htaken : ch.taken? = some (id, r') := by rw [Chapter.taken?, hd]
    rwa [hsame htaken] at htaken
  · exact absurd hstop hshutdown

/-- After a reset the laps are those that were told since. -/
theorem laps_since (ms : List Move) {earlier since : List Chapter} {ch : Chapter} {id : Nat}
    (hchapters : (of terms script hub ms).chapters = earlier ++ ch :: since)
    (h : ch.taken? = some (id, .reset)) :
    (of terms script hub ms).link.model.laps =
      (Model.empty.after (since.flatMap fun ch => ch.deed.inputs)).laps := by
  have hmem : ch ∈ (of terms script hub ms).chapters := by
    rw [hchapters]
    exact List.mem_append_right _ List.mem_cons_self
  have hinputs := Chapter.inputs_of_reset (chapter_ready ms ch hmem).2 h
  have hmodel : (of terms script hub ms).link.model = _ := (refines_fold ms).model
  rw [hmodel, inputs, hchapters, List.flatMap_append, List.flatMap_cons, hinputs,
    Model.after_append, Model.after_append]
  refine Model.laps_after ?_ _
  exact congrArg (fun r => r.1.laps) (Model.reset_eq _)

/-- **Resets are immediate**, with a session or without one and whatever becomes of the command. -/
theorem resets_immediate (terms : Terms) (script : List Attempt) (hub : Hub) (ms : List Move) :
    (of terms script hub ms).Immediate where
  taken := fun ch hch id h => by
    obtain ⟨hs, hd⟩ := chapter_ready ms ch hch
    have htransparent := chapter_invariant (transparent terms script hub) ms ch hch
    exact Chapter.resets_of_taken hs htransparent hd h
  returned := fun id outcome hasked ho hshutdown => by
    obtain ⟨ch, hch, htaken⟩ := (kept ms).taken_of_answer hasked ho hshutdown
    obtain ⟨earlier, since, hchapters⟩ := List.append_of_mem hch
    have hread : (of terms script hub ms).link.snapshot.model.laps = _ :=
      (congrArg (fun r => r.model.laps) (transparent terms script hub ms).handles).trans
        (laps_since ms hchapters htaken)
    refine ⟨earlier, ch, since, hchapters, htaken, hread, fun lap hlap => ?_⟩
    rw [hread] at hlap
    obtain hbefore | ⟨f, hf, hbrings⟩ := Model.mem_laps_after hlap
    · exact absurd hbefore List.not_mem_nil
    · obtain ⟨later, hlater, hinput⟩ := List.mem_flatMap.1 hf
      exact ⟨later, hlater, f, hinput, hbrings⟩

end Life
end RaceLink
