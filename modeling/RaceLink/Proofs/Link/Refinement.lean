import Mathlib.Data.List.Basic
import RaceLink.Proofs.Delivery.Audience
import RaceLink.Proofs.Link.View
import RaceLink.Proofs.Race.Fold

/-!
# The model of a client is a fold

A client takes frames from one session after the other, drops those it cannot read, and forgets
the laps when it is asked to.  Whatever happens in between, its model is the fold of all that it
took, and observers are told of every step of this fold.

* `Event.input?`, `Event.change?` — what an event puts into the model, and the change it tells of.
* `Follows` — the model and the changes told so far are those of the fold; deeds keep it
  (`Follows.perform`).
* `Life.arrivals` — what a far side sent is what was taken from it, and then what waits there.
* `Life.Refines`, `Life.refines_fold` — **a client is a fold**, for all that it takes and all that
  observers see.
-/

set_option autoImplicit false

namespace RaceLink

/-- What an event puts into the model. -/
def Event.input? : Event → Option Input
  | .took _ text => (Frame.decode text).toOption.map .frame
  | .cleared => some .reset
  | _ => none

/-- The change of the model that an event tells of, with the model that is shown. -/
def Event.change? : Event → Option (Change × Model)
  | .notified (.model c) m => some (c, m)
  | _ => none

/-- The text that was taken from a session, if an event is about that. -/
def Event.tookOn? (n : Nat) : Event → Option String
  | .took k text => if k = n then some text else none
  | _ => none

namespace Deed

/-- What a deed puts into the model: a frame that could be read, or a reset that was asked for. -/
def inputs : Deed → List Input
  | .read _ text => ((Frame.decode text).toOption.map .frame).toList
  | .serve _ _ .reset => [.reset]
  | .decline _ .reset => [.reset]
  | _ => []

end Deed

namespace Link

theorem modelAfter_eq (s : Link) (d : Deed) : s.modelAfter d = s.model.after d.inputs := by
  cases d with
  | read n text =>
    rw [modelAfter, Deed.inputs]
    cases Frame.decode text with
    | error e => rfl
    | ok f => rfl
  | serve n id r => cases r <;> rfl
  | decline id r => cases r <;> rfl
  | _ => rfl

theorem changes_told (m : Model) (i : Input) :
    (told (m.take i)).filterMap Event.change? = m.changes [i] := by
  rw [told, Model.changes, Model.changes]
  cases (m.take i).2 with
  | none => rfl
  | some c => rfl

theorem inputs_told (r : Model × Option Change) : (told r).filterMap Event.input? = [] := by
  obtain ⟨m, _ | c⟩ := r <;> rfl

/-- What a deed puts into the model can be read off its story. -/
theorem inputs_story (s : Link) (d : Deed) : (s.story d).filterMap Event.input? = d.inputs := by
  have hpart : ∀ e : Event, e.isInner = false → e.input? = none := by
    intro e he
    cases e <;> first | rfl | cases he
  rw [filterMap_inner hpart]
  cases d with
  | read n text =>
    have hin : (Event.took n text).input? = (Frame.decode text).toOption.map Input.frame := rfl
    rw [innerStory, Deed.inputs, List.filterMap_cons, hin, heard]
    cases Frame.decode text with
    | error e => rfl
    | ok f => exact congrArg (Input.frame f :: ·) (inputs_told (s.model.apply f))
  | serve n id r =>
    cases r with
    | reset => exact congrArg (Input.reset :: ·) (inputs_told s.model.reset)
    | _ => rfl
  | decline id r =>
    cases r with
    | reset => exact congrArg (Input.reset :: ·) (inputs_told s.model.reset)
    | _ => rfl
  | _ => rfl

/-- The changes that a story tells of are those of the fold. -/
theorem changes_story (s : Link) (d : Deed) :
    (s.story d).filterMap Event.change? = s.model.changes d.inputs := by
  have hpart : ∀ e : Event, e.isInner = false → e.change? = none := by
    intro e he
    cases e with
    | notified notice m =>
      cases notice with
      | link state id => rfl
      | model c => cases he
    | _ => rfl
  rw [filterMap_inner hpart]
  cases d with
  | read n text =>
    show (s.heard n text).filterMap Event.change? = _
    rw [Deed.inputs, heard]
    cases Frame.decode text with
    | error e => rfl
    | ok f => exact changes_told s.model (.frame f)
  | serve n id r =>
    cases r with
    | reset => exact changes_told s.model .reset
    | _ => rfl
  | decline id r =>
    cases r with
    | reset => exact changes_told s.model .reset
    | _ => rfl
  | _ => rfl

/-- The model, and the changes that were told, are those of the fold. -/
structure Follows (s : Link) : Prop where
  model : s.model = Model.empty.after (s.events.filterMap Event.input?)
  changes : s.events.filterMap Event.change? =
    Model.empty.changes (s.events.filterMap Event.input?)

theorem Follows.perform {s : Link} {d : Deed} (h : Follows s) (hs : Sound s) (hd : Ready s d) :
    Follows (s.perform d) := by
  have hinputs : (s.perform d).events.filterMap Event.input? =
      s.events.filterMap Event.input? ++ d.inputs := by
    rw [events_perform hs hd, List.filterMap_append, inputs_story]
  refine ⟨?_, ?_⟩
  · rw [hinputs, Model.after_append, ← h.model, model_perform hd, modelAfter_eq]
  · rw [hinputs, Model.changes_append, ← h.changes, ← h.model, events_perform hs hd,
      List.filterMap_append, changes_story]

theorem Follows.meanwhile {s t : Link} (h : Follows s) (hm : Life.Meanwhile s t) : Follows t := by
  have hsame : t.events.filterMap Event.input? = s.events.filterMap Event.input? ∧
      t.events.filterMap Event.change? = s.events.filterMap Event.change? := by
    obtain he | ⟨-, id, he⟩ := hm.events
    · rw [he]
      exact ⟨rfl, rfl⟩
    · rw [he, List.filterMap_append, List.filterMap_append]
      exact ⟨List.append_nil _, List.append_nil _⟩
  refine ⟨?_, ?_⟩
  · rw [hsame.1, hm.model]
    exact h.model
  · rw [hsame.1, hsame.2]
    exact h.changes

/-! ## What observers are told -/

/-- The calls that observers get because of an event. -/
def calls (s : Link) : Event → List Call
  | .notified n m => (s.hub.publish n m).2
  | _ => []

/-- The changes of the model that an observer was told of, each with the model it was shown. -/
def seenBy (s : Link) (i : Nat) : List (Change × Model) :=
  (s.events.flatMap s.calls).filterMap fun call =>
    match call.notice with
    | .link _ _ => none
    | .model c => if call.observer = i then some (c, call.model) else none

/-- Every observer is told of every change. -/
theorem seenBy_eq {s : Link} {i : Nat} (h : i < s.hub.observers) :
    s.seenBy i = s.events.filterMap Event.change? := by
  rw [seenBy, List.filterMap_flatMap, List.filterMap_eq_flatMap_toList]
  congr 1
  funext e
  cases e with
  | notified notice m =>
    show ((List.range s.hub.observers).map fun j => (⟨j, notice, m⟩ : Call)).filterMap _ = _
    rw [List.filterMap_map]
    cases notice with
    | link state id =>
      show (List.range s.hub.observers).filterMap (fun _ => none) = []
      exact List.filterMap_eq_nil_iff.2 fun _ _ => rfl
    | model c => exact filterMap_range_eq (c, m) h
  | _ => rfl

theorem observers_perform {s : Link} {d : Deed} (h : Ready s d) :
    (s.perform d).hub.observers = s.hub.observers := by
  have hb : (s.perform d).hub.observers = (s.bareAfter d).hub.observers :=
    (congrArg (fun t : Link => t.hub.observers) (bare_perform h) :)
  rw [hb]
  cases d with
  | resolve a =>
    rw [bareAfter]
    split <;> rfl
  | watch n probed => cases probed <;> rfl
  | _ => rfl

/-! ## What far sides send -/

/-- What a deed takes from a session can be read off its story. -/
theorem tookOn_story (s : Link) (n : Nat) (d : Deed) :
    (s.story d).filterMap (Event.tookOn? n) = d.taken n := by
  have hpart : ∀ e : Event, e.isInner = false → e.tookOn? n = none := by
    intro e he
    cases e <;> first | rfl | cases he
  have htold : ∀ r, (told r).filterMap (Event.tookOn? n) = [] := by
    intro r
    obtain ⟨m, _ | c⟩ := r <;> rfl
  rw [filterMap_inner hpart]
  cases d with
  | read k text =>
    have hrest : (s.heard k text).filterMap (Event.tookOn? n) = [] := by
      rw [heard]
      cases Frame.decode text with
      | error e => rfl
      | ok f => exact htold _
    rw [innerStory, List.filterMap_cons, hrest, Event.tookOn?, Deed.taken]
    by_cases hk : k = n
    · rw [if_pos hk, if_pos hk]
    · rw [if_neg hk, if_neg hk]
  | serve k id r =>
    cases r with
    | reset => exact htold _
    | _ => rfl
  | decline id r =>
    cases r with
    | reset => exact htold _
    | _ => rfl
  | _ => rfl

/-- What a far side does waits behind what it did before. -/
theorem inbox_does (s : Link) (k : Nat) (what : List Inbound) (n : Nat) :
    (s.onPeer k (·.does what)).inbox n =
      s.inbox n ++
        (Life.sending s k what).filterMap fun e => if e.1 = n then some e.2 else none := by
  rw [Life.sending]
  cases hp : s.peer? k with
  | none =>
    have hsame : s.onPeer k (·.does what) = s := by rw [onPeer, hp]
    rw [hsame]
    exact (List.append_nil _).symm
  | some p =>
    have hk := (peer?_eq_some hp).1
    have hpeers : (s.onPeer k (·.does what)).peers = s.peers.modify (k - 1) (·.does what) := by
      rw [onPeer_eq s hk]
    rw [inbox, peer?_modify hk hpeers]
    by_cases hn : n = k
    · subst hn
      rw [if_pos rfl, inbox, hp]
      show (p.does what).inbox = p.inbox ++ _
      rw [Peer.does]
      by_cases hg : p.gone = true
      · simp [hg]
      · simp [hg, List.filterMap_map]
    · rw [if_neg hn]
      show s.inbox n = _
      have hnone : (if p.gone then [] else what.map (k, ·)).filterMap
          (fun e : Nat × Inbound => if e.1 = n then some e.2 else none) = [] := by
        split
        · rfl
        · simp [List.filterMap_map, Ne.symm hn]
      rw [hnone, List.append_nil]

theorem inbox_vanish (s : Link) (k n : Nat) : (s.onPeer k Peer.vanish).inbox n = s.inbox n := by
  rcases Nat.eq_zero_or_pos k with rfl | hk
  · rfl
  · have hpeers : (s.onPeer k Peer.vanish).peers = s.peers.modify (k - 1) Peer.vanish := by
      rw [onPeer_eq s hk]
    rw [inbox, peer?_modify hk hpeers]
    split
    · rw [Option.map_map]
      rfl
    · rfl

end Link

namespace Life

variable {terms : Terms} {script : List Attempt} {hub : Hub}

/-- What the far side of a session sent. -/
def arrivedOn (c : Life) (n : Nat) : List Inbound :=
  c.arrived.filterMap fun e => if e.1 = n then some e.2 else none

/-- The texts that were taken from a session. -/
def tookOn (c : Life) (n : Nat) : List String := c.link.events.filterMap (Event.tookOn? n)

/-- The texts before a far side closes or fails. -/
def textsFirst : List Inbound → List String
  | .text t :: rest => t :: textsFirst rest
  | _ => []

theorem textsFirst_texts_append (ts : List String) (rest : List Inbound) :
    textsFirst (ts.map .text ++ rest) = ts ++ textsFirst rest := by
  induction ts with
  | nil => rfl
  | cons t ts ih => exact congrArg (t :: ·) ih

theorem events_submit (s : Link) (id : Nat) (r : Request) (n : Nat) :
    (s.submit id r).events.filterMap (Event.tookOn? n) = s.events.filterMap (Event.tookOn? n) := by
  rw [Link.submit]
  split
  · rw [Link.events_answer, List.filterMap_append]
    exact List.append_nil _
  · rfl

theorem events_onPeer (s : Link) (n : Nat) (f : Peer → Peer) :
    (s.onPeer n f).events = s.events := by
  obtain ⟨ps, -, he⟩ := Link.onPeer_frame s n f
  rw [he]
  rfl

/-- **What a far side sent** is what was taken from it, and then what still waits there. -/
theorem arrivals (ms : List Move) : ∀ n, (of terms script hub ms).arrivedOn n =
    ((of terms script hub ms).tookOn n).map .text ++ (of terms script hub ms).link.inbox n := by
  refine (invariant (P := fun c => c.link.Sound ∧ ∀ n,
    c.arrivedOn n = (c.tookOn n).map .text ++ c.link.inbox n)
    ⟨Link.sound_start terms script hub, fun n => by cases n <;> rfl⟩ ?_ ms).2
  intro c m hc
  obtain ⟨hs, h⟩ := hc
  have hs' : (c.move m).link.Sound := by
    obtain ⟨d, hd, he⟩ | ⟨hm, -⟩ := deed_or_meanwhile c m
    · rw [he]
      exact hs.perform hd
    · exact hm.sound hs
  refine ⟨hs', fun n => ?_⟩
  cases m with
  | turn =>
    rw [move]
    split
    · exact h n
    · rename_i d hd
      have hd := Link.ready_of_deed? hd
      show c.arrivedOn n = ((c.link.perform d).events.filterMap _).map .text ++ _
      rw [Link.events_perform hs hd, List.filterMap_append, Link.tookOn_story, h n,
        Link.inbox_perform hd n, List.map_append, List.append_assoc]
      rfl
  | far k what =>
    show (c.arrived ++ sending c.link k what).filterMap _ =
      ((c.link.onPeer k (·.does what)).events.filterMap _).map .text
        ++ (c.link.onPeer k (·.does what)).inbox n
    rw [events_onPeer, Link.inbox_does, List.filterMap_append, ← List.append_assoc]
    exact congrArg (· ++ _) (h n)
  | vanish k =>
    show c.arrivedOn n = ((c.link.onPeer k Peer.vanish).events.filterMap _).map .text
      ++ (c.link.onPeer k Peer.vanish).inbox n
    rw [events_onPeer, Link.inbox_vanish]
    exact h n
  | submit r =>
    show c.arrivedOn n = ((c.link.submit c.asked.length r).events.filterMap _).map .text
      ++ (c.link.submit c.asked.length r).inbox n
    rw [events_submit, h n]
    congr 1
    rw [Link.inbox, Link.inbox, Link.submit]
    split <;> rfl
  | _ => exact h n

/-- The frames and resets that a client took, in their order. -/
def inputs (c : Life) : List Input := c.chapters.flatMap fun ch => ch.deed.inputs

theorem inputs_log (ms : List Move) :
    (of terms script hub ms).link.events.filterMap Event.input? = (of terms script hub ms).inputs :=
  (kept ms).picked_chapters (fun _ => rfl) fun ch => Link.inputs_story ch.before ch.deed

/-- A client is the fold of all that it takes. -/
structure Refines (hub : Hub) (c : Life) : Prop where
  /-- The model is the fold of the frames and resets that were taken. -/
  model : c.link.model = Model.empty.after c.inputs
  /-- The texts taken from a session are the first of those that the far side sent on it before it
  closed or failed, each of them once and in their order. -/
  prefix_of_sent : ∀ n, c.tookOn n <+: textsFirst (c.arrivedOn n)
  /-- A text is only taken from the session that is held at that moment. -/
  held : ∀ pre n text post, c.link.events = pre ++ .took n text :: post →
    (View.start.after pre).held = some n
  /-- Once a client has to wait with a session open, it has taken all that was sent on it. -/
  caught_up : c.link.deed? = none → ∀ n watch probed, c.link.phase = .serving n watch probed →
    (c.tookOn n).map .text = c.arrivedOn n
  /-- Every observer is told of the changes that the fold makes, in their order and each with the
  model of that very step. -/
  observers : ∀ i < hub.observers, c.link.seenBy i = Model.empty.changes c.inputs

theorem follows (ms : List Move) : (of terms script hub ms).link.Follows :=
  link_invariant (P := Link.Follows) ⟨rfl, rfl⟩ (fun _ _ hs hd h => h.perform hs hd)
    (fun _ _ hm h => h.meanwhile hm) ms

theorem observers_eq (ms : List Move) :
    (of terms script hub ms).link.hub.observers = hub.observers :=
  link_invariant (P := fun s => s.hub.observers = hub.observers) rfl
    (fun _ _ _ hd h => (Link.observers_perform hd).trans h)
    (fun _ _ hm h => hm.observers.trans h) ms

/-- A client that has to wait with a session open finds nothing there. -/
theorem inbox_of_waiting {s : Link} (h : s.deed? = none) {n : Nat} {watch : Option Nat}
    {probed : Bool} (phase : s.phase = .serving n watch probed) : s.inbox n = [] := by
  cases Link.waits_of_deed? h with
  | @serving k _ _ p held live peer next early queue handles =>
    obtain ⟨rfl, -, -⟩ := Phase.serving.inj (held.symm.trans phase)
    rw [Link.inbox_eq peer]
    rw [Peer.next] at next
    split at next
    · cases next
    · cases next
    · cases next
    · assumption
  | stopped held => cases held.symm.trans phase
  | closing held early => cases held.symm.trans phase
  | offline offline live queue handles =>
    rw [phase] at offline
    cases offline

/-- **A client is a fold**, at every moment of its life. -/
theorem refines_fold (ms : List Move) : (of terms script hub ms).Refines hub := by
  have hfollows : (of terms script hub ms).link.Follows := follows ms
  have hinputs : (of terms script hub ms).link.events.filterMap _ = _ := inputs_log ms
  have hobservers : (of terms script hub ms).link.hub.observers = hub.observers := observers_eq ms
  exact {
    model := by
      rw [← hinputs]
      exact hfollows.model
    prefix_of_sent := fun n => by
      rw [arrivals ms n, textsFirst_texts_append]
      exact List.prefix_append _ _
    held := fun pre n text post he =>
      (View.fits_of_fitting (log_fits terms script hub ms).1 he).1
    caught_up := fun hwait n watch probed phase => by
      rw [arrivals ms n, inbox_of_waiting hwait phase, List.append_nil]
    observers := fun i hi => by
      rw [← hobservers] at hi
      rw [Link.seenBy_eq hi, ← hinputs]
      exact hfollows.changes }

end Life
end RaceLink
