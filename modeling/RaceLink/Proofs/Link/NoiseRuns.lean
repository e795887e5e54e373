import RaceLink.Proofs.Link.Noise

/-!
# Runs with and without noise

A deed that reads no noise does the same to a client that is spared all noise, and reading noise
makes no difference to that one.  So both come to rest in the same way, at whatever moment, and
whoever waits for them gets the same.

* `Link.Onward` — what a run adds to the log: for every text that is no frame one complaint.
* `Link.clean_settle` — **a client settles just as one that is spared all noise**, by induction on
  the turns that are left.
* `Link.clean_passWithin`, `Link.clean_await` — the same as time passes, and for those who wait.
-/

set_option autoImplicit false

namespace RaceLink

/-! ## What is added to the log -/

/-- The session on which a text was taken that is no frame. -/
def Event.garbled? : Event → Option Nat
  | took n t => if Frame.garbled t then some n else none
  | _ => none

/-- The session on which a complaint was made about a text that is no frame. -/
def Event.complaint? : Event → Option Nat
  | malformed n => some n
  | _ => none

namespace Link

/-- Texts that are no frames are complained of, each of them once, and no others. -/
def Fair (es : List Entry) : Prop :=
  es.filterMap (fun e => e.event.complaint?) = es.filterMap (fun e => e.event.garbled?)

theorem Fair.append {es fs : List Entry} (he : Fair es) (hf : Fair fs) : Fair (es ++ fs) := by
  rw [Fair, List.filterMap_append, List.filterMap_append, he, hf]

theorem fair_stamped {es : List Event} (now : Nat)
    (h : es.filterMap Event.complaint? = es.filterMap Event.garbled?) :
    Fair (es.map (Entry.mk now)) := by
  rw [Fair, List.filterMap_map, List.filterMap_map]
  exact h

/-- What is told of the model is no complaint, and no text is taken meanwhile. -/
theorem filterMap_told {f : Event → Option Nat} (h : ∀ c m, f (.notified (.model c) m) = none)
    (r : Model × Option Change) : (told r).filterMap f = [] := by
  obtain ⟨m, _ | c⟩ := r
  · rfl
  · simp [told, h]

theorem filterMap_prelude {f : Event → Option Nat} (hc : f .cleared = none)
    (h : ∀ c m, f (.notified (.model c) m) = none) (s : Link) (r : Request) :
    (s.prelude r).filterMap f = [] := by
  cases r with
  | reset => rw [prelude, List.filterMap_cons_none hc, filterMap_told h]
  | send c => rfl
  | refresh => rfl

theorem complaint_story (s : Link) (d : Deed) :
    (s.story d).filterMap Event.complaint? = (s.story d).filterMap Event.garbled? := by
  rw [filterMap_inner (by rintro (_ | _) h <;> first | rfl | cases h),
    filterMap_inner (by rintro (_ | _) h <;> first | rfl | cases h)]
  cases d with
  | read n t =>
    rw [innerStory, heard, List.filterMap_cons, List.filterMap_cons, Event.garbled?, Frame.garbled]
    cases Frame.decode t with
    | error e => rfl
    | ok f =>
      show (told _).filterMap Event.complaint? = (told _).filterMap Event.garbled?
      rw [filterMap_told fun _ _ => rfl, filterMap_told fun _ _ => rfl]
  | serve n id r =>
    rw [innerStory, filterMap_prelude rfl fun _ _ => rfl, filterMap_prelude rfl fun _ _ => rfl]
  | decline id r =>
    rw [innerStory, filterMap_prelude rfl fun _ _ => rfl, filterMap_prelude rfl fun _ _ => rfl]
  | _ => rfl

/-- A calm client has gone on and is still calm, and what happened meanwhile was written down,
fairly, behind what was there. -/
structure Onward (s t : Link) : Prop where
  calm : t.Calm
  log : ∃ es, t.log.toList = s.log.toList ++ es ∧ Fair es

theorem Onward.refl {s : Link} (h : s.Calm) : s.Onward s := ⟨h, [], (List.append_nil _).symm, rfl⟩

theorem Onward.trans {s t u : Link} (hst : s.Onward t) (htu : t.Onward u) : s.Onward u := by
  obtain ⟨-, es, hes, hfair⟩ := hst
  obtain ⟨hcalm, fs, hfs, hfair'⟩ := htu
  exact ⟨hcalm, es ++ fs, by rw [hfs, hes, List.append_assoc], hfair.append hfair'⟩

theorem onward_perform {s : Link} {d : Deed} (hs : s.Calm) (h : Ready s d) :
    s.Onward (s.perform d) :=
  ⟨hs.perform h, _, log_perform hs.sound h, fair_stamped s.now (complaint_story s d)⟩

/-- What a client does not notice leaves it calm. -/
theorem onward_same {s t : Link} (hs : s.Calm) (hterms : t.terms = s.terms)
    (hphase : t.phase = s.phase) (hstate : t.state = s.state) (hcell : t.stateCell = s.stateCell)
    (hlength : t.peers.length = s.peers.length) (hlog : t.log = s.log) : s.Onward t := by
  refine ⟨⟨⟨?_, ?_, ?_⟩, ?_, ?_, ?_⟩, [], ?_, rfl⟩
  · rw [hstate, hphase, hs.sound.state]
  · rw [hcell, hstate, hs.sound.cell]
  · rw [hphase, hlength]
    exact hs.sound.session
  · rw [hterms, hs.idle]
  · rw [hterms]
    exact hs.delay
  · rw [hphase]
    exact hs.phase
  · rw [hlog, List.append_nil]

theorem onward_at {s : Link} (hs : s.Calm) (t : Nat) : s.Onward { s with now := t } :=
  onward_same hs rfl rfl rfl rfl rfl rfl

/-- A client that is spared all noise is no less calm. -/
theorem Calm.clean {s : Link} (hs : s.Calm) : s.clean.Calm :=
  ⟨⟨hs.sound.state, hs.sound.cell, by rw [length_clean]; exact hs.sound.session⟩, hs.idle,
    hs.delay, hs.phase⟩

/-! ## Turns -/

theorem onward_turns (k : Nat) {s : Link} (hs : s.Calm) : s.Onward (turns k s) := by
  induction k generalizing s with
  | zero => exact Onward.refl hs
  | succ k ih =>
    cases hd : s.deed? with
    | none =>
      rw [turns_of_waits hd]
      exact Onward.refl hs
    | some d =>
      rw [turns_of_ready hd]
      have hstep := onward_perform hs (ready_of_deed? hd)
      exact hstep.trans (ih hstep.calm)

theorem onward_settle {s : Link} (hs : s.Calm) : s.Onward s.settle := onward_turns _ hs

/-- A client that has to wait also has to wait without noise. -/
theorem clean_waits {s : Link} (h : s.deed? = none) : s.clean.deed? = none := by
  rw [deed?_clean (fun d hd => by rw [h] at hd; cases hd), h]

/-- **A client settles just as one that is spared all noise.** -/
theorem clean_settle {s : Link} (hs : s.Calm) : s.settle.clean = s.clean.settle := by
  -- by the number of turns that are left
  induction hn : s.left using Nat.strongRecOn generalizing s with
  | ind n ih =>
    cases hd : s.deed? with
    | none => rw [settle, turns_of_waits hd, settle, turns_of_waits (clean_waits hd)]
    | some d =>
      have hready := ready_of_deed? hd
      have hrest : (s.perform d).settle.clean = (s.perform d).clean.settle :=
        ih _ (by rw [← hn]; exact left_perform hs.delay hready) (hs.perform hready) rfl
      rw [settle_of_ready hs.delay hd, hrest]
      cases hnoise : d.isNoise with
      | false =>
        have hclean : s.clean.deed? = some d := by
          rw [deed?_clean (fun e he => by rw [hd] at he; cases he; exact hnoise), hd]
        have hdelay : 0 < s.clean.terms.delay := hs.delay
        rw [clean_perform hready hnoise, settle_of_ready hdelay hclean]
      | true =>
        cases d with
        | read k t => rw [clean_read hs hready hnoise]
        | _ => cases hnoise

/-! ## Time -/

theorem clean_passWithin (k target : Nat) {s : Link} (hs : s.Calm) :
    (passWithin k target s).clean = passWithin k target s.clean ∧
      s.Onward (passWithin k target s) := by
  induction k generalizing s with
  | zero => exact ⟨rfl, Onward.refl hs⟩
  | succ k ih =>
    have hsettled := onward_settle hs
    have hdue : s.clean.settle.phase.due? = s.settle.phase.due? := by rw [← clean_settle hs]; rfl
    have hnow : s.clean.settle.now = s.settle.now := by rw [← clean_settle hs]; rfl
    -- at any moment the client goes on as one that is spared all noise
    have hat : ∀ t, ({ s.settle with now := t } : Link).clean = { s.clean.settle with now := t } :=
      fun t => by rw [← clean_settle hs]; rfl
    have hend : ({ s.settle with now := max s.settle.now target } : Link).settle.clean =
        ({ s.clean.settle with now := max s.settle.now target } : Link).settle ∧
        s.Onward ({ s.settle with now := max s.settle.now target } : Link).settle := by
      have hmoment := onward_at hsettled.calm (max s.settle.now target)
      refine ⟨?_, (hsettled.trans hmoment).trans (onward_settle hmoment.calm)⟩
      rw [clean_settle hmoment.calm, hat]
    rw [passWithin, passWithin]
    simp only [hdue, hnow]
    cases s.settle.phase.due? with
    | none => exact hend
    | some t =>
      dsimp only
      split
      · have hmoment := onward_at hsettled.calm t
        obtain ⟨hclean, honward⟩ := ih hmoment.calm
        exact ⟨by rw [hclean, hat], (hsettled.trans hmoment).trans honward⟩
      · exact hend

theorem now_turns (k : Nat) (s : Link) : (turns k s).now = s.now := by
  induction k generalizing s with
  | zero => rfl
  | succ k ih =>
    cases hd : s.deed? with
    | none => rw [turns_of_waits hd]
    | some d => rw [turns_of_ready hd, ih, now_perform (ready_of_deed? hd)]

/-- A client that has let time pass has to wait. -/
theorem passWithin_waits {k target : Nat} {s : Link} (hs : s.Calm) (hk : k ≠ 0)
    (hlate : target < s.now + k) : (passWithin k target s).deed? = none := by
  induction k generalizing s with
  | zero => exact absurd rfl hk
  | succ k ih =>
    have hsettled := onward_settle hs
    have hnow : s.settle.now = s.now := now_turns _ s
    have hend : ({ s.settle with now := max s.settle.now target } : Link).settle.deed? = none :=
      settle_waits (onward_at hsettled.calm _).calm.delay
    rw [passWithin]
    split
    · rename_i t ht
      split
      · rename_i hnext
        refine ih (onward_at hsettled.calm t).calm (by omega) ?_
        show target < t + k
        omega
      · exact hend
    · exact hend

/-! ## Waiting -/

/-- Entries about noise are passed over by whoever is not looking for them. -/
theorem filterMap_loud {α : Type} {f : Entry → Option α} (h : ∀ e, e.loud = false → f e = none)
    (es : List Entry) : (es.filter Entry.loud).filterMap f = es.filterMap f := by
  rw [List.filterMap_filter]
  congr 1
  funext e
  cases he : e.loud with
  | true => rfl
  | false => rw [h e he]; rfl

/-- Whoever looks neither for texts nor for complaints does not miss anything without noise. -/
theorem filterMap_other {α : Type} {f : Entry → Option α} (htook : ∀ t n s, f ⟨t, .took n s⟩ = none)
    (hmalformed : ∀ t n, f ⟨t, .malformed n⟩ = none) (es : List Entry) :
    (es.filter Entry.loud).filterMap f = es.filterMap f := by
  refine filterMap_loud ?_ es
  rintro ⟨time, event⟩ h
  cases event with
  | took n s => exact htook time n s
  | malformed n => exact hmalformed time n
  | _ => cases h

theorem answerTo?_clean (s : Link) (id : Nat) : s.clean.answerTo? id = s.answerTo? id := by
  rw [answerTo?, answerTo?, ← Array.back?_filterMap, ← Array.back?_filterMap,
    ← Array.getLast?_toList, ← Array.getLast?_toList, Array.toList_filterMap,
    Array.toList_filterMap, clean, Array.toList_filter,
    filterMap_other (fun _ _ _ => rfl) fun _ _ => rfl]

theorem outcome?_clean (s : Link) (w : Waiter) : s.clean.outcome? w = s.outcome? w := by
  cases w with
  | answer id => rw [outcome?, outcome?, answerTo?_clean]
  | closed => rfl
  | state wanted deadline => rfl

theorem serveWaiters_clean (s : Link) (ws : List Pending) :
    s.clean.serveWaiters ws = s.serveWaiters ws := by
  simp [serveWaiters, outcome?_clean]

theorem clean_awaitWithin (k : Nat) {s : Link} (hs : s.Calm) (ws : List Pending) :
    awaitWithin k s.clean ws = ((awaitWithin k s ws).1.clean, (awaitWithin k s ws).2) ∧
      s.Onward (awaitWithin k s ws).1 := by
  induction k generalizing s ws with
  | zero => exact ⟨rfl, Onward.refl hs⟩
  | succ k ih =>
    have hsettled := onward_settle hs
    have hserve : s.clean.settle.serveWaiters ws = s.settle.serveWaiters ws := by
      rw [← clean_settle hs, serveWaiters_clean]
    have hnext : ∀ ws, s.clean.settle.nextMoment ws = s.settle.nextMoment ws := fun ws => by
      rw [← clean_settle hs]
      rfl
    rw [awaitWithin, awaitWithin]
    dsimp only
    rw [hserve, hnext]
    split
    · exact ⟨by rw [← clean_settle hs], hsettled⟩
    · split
      · exact ⟨by rw [← clean_settle hs], hsettled⟩
      · rename_i t ht
        have hmoment := onward_at hsettled.calm t
        have hat : ({ s.clean.settle with now := t } : Link) =
            ({ s.settle with now := t } : Link).clean := by
          rw [← clean_settle hs]
          rfl
        obtain ⟨hclean, honward⟩ := ih hmoment.calm
          (({ s.settle with now := t } : Link).serveWaiters (s.settle.serveWaiters ws))
        rw [hat, serveWaiters_clean]
        exact ⟨hclean, (hsettled.trans hmoment).trans honward⟩

/-- Whoever waits for a client gets the same from one that is spared all noise. -/
theorem clean_await {s : Link} (hs : s.Calm) (ws : List Waiter) :
    s.clean.await ws = ((s.await ws).1.clean, (s.await ws).2) ∧ s.Onward (s.await ws).1 := by
  obtain ⟨hclean, honward⟩ := clean_awaitWithin (s.horizon ws - s.now + 2) hs
    (s.serveWaiters (ws.map (·, none)))
  have hawait : s.clean.await ws = ((awaitWithin (s.horizon ws - s.now + 2) s.clean
      (s.serveWaiters (ws.map (·, none)))).1, (awaitWithin (s.horizon ws - s.now + 2) s.clean
      (s.serveWaiters (ws.map (·, none)))).2.map (·.2)) := by
    rw [await, serveWaiters_clean]
    rfl
  exact ⟨by rw [hawait, hclean]; rfl, honward⟩

/-- Where nobody waits, nothing has to be waited for. -/
theorem await_nil {s : Link} (h : s.deed? = none) : s.await [] = (s, []) := by
  have hsettle : s.settle = s := turns_of_waits h _
  rw [await, awaitWithin, hsettle]
  rfl

/-! ## The world -/

theorem onPeer_self {s : Link} {n : Nat} {f : Peer → Peer} (h : ∀ p, f p = p) :
    s.onPeer n f = s := by
  rw [onPeer]
  cases hp : s.peer? n with
  | none => rfl
  | some p =>
    dsimp only
    rw [h]
    exact setPeer_self hp

theorem onward_onPeer {s : Link} (hs : s.Calm) (n : Nat) (f : Peer → Peer) :
    s.Onward (s.onPeer n f) := by
  obtain ⟨ps, hlength, he⟩ := onPeer_frame s n f
  rw [he]
  exact onward_same hs rfl rfl rfl rfl hlength rfl

theorem clean_submit (s : Link) (id : Nat) (r : Request) :
    (s.submit id r).clean = s.clean.submit id r := by
  rw [submit, submit]
  show clean (if s.phase = .stopped then _ else _) = if s.phase = .stopped then _ else _
  split
  · exact clean_answer s id _
  · rfl

theorem onward_submit {s : Link} (hs : s.Calm) (id : Nat) (r : Request) :
    s.Onward (s.submit id r) := by
  rw [submit]
  split
  · exact ⟨⟨⟨hs.sound.state, hs.sound.cell, hs.sound.session⟩, hs.idle, hs.delay, hs.phase⟩,
      [⟨s.now, .answered id (.error .shutdown)⟩], Array.toList_push, rfl⟩
  · exact onward_same hs rfl rfl rfl rfl rfl rfl

end Link
end RaceLink
