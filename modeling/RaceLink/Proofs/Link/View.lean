import RaceLink.Proofs.Link.Life

/-!
# What the log tells a reader

Someone who reads nothing but the log can follow the connection: which session is held, how many
were opened, and what was announced last.  An event that does not fit what has been read so far
would give a broken client away; this file shows that there is none.

* `View` — what a reader knows; `View.next` takes in one more event.
* `View.Fits` — the events that may come next: a text is only taken from the session that is held
  and only sent on it, a session is only opened while none is held, only a change of the connection
  is announced, and so on.
* `Life.log_fits` — **every log fits**, event by event, and what its reader knows in the end is true
  of the client.
-/

set_option autoImplicit false

namespace RaceLink

/-- What someone knows of the connection who has read a log. -/
structure View where
  /-- The session that is held. -/
  held : Option Nat
  /-- How many sessions were opened. -/
  opened : Nat
  /-- The state that was announced last. -/
  shown : LinkState
  /-- Whether the last event was a reset of the laps. -/
  clearing : Bool
  deriving DecidableEq, Repr

namespace View

/-- What is known before anything has happened. -/
def start : View := ⟨none, 0, .connecting, false⟩

/-- What is known after one more event. -/
def next (v : View) : Event → View
  | .opened n => { v with held := some n, opened := v.opened + 1, clearing := false }
  | .lost _ => { v with held := none, clearing := false }
  | .notified (.link .closed _) _ => { v with held := none, shown := .closed, clearing := false }
  | .notified (.link state _) _ => { v with shown := state, clearing := false }
  | .cleared => { v with clearing := true }
  | _ => { v with clearing := false }

/-- What is known after some events. -/
def after (v : View) (es : List Event) : View := es.foldl next v

/-- Whether an event may come next. -/
def Fits (v : View) : Event → Prop
  | .attempted => v.held = none ∧ v.shown = .connecting
  | .refused => v.held = none ∧ v.shown = .connecting
  | .opened n => v.held = none ∧ v.shown = .connecting ∧ n = v.opened + 1
  | .sent n _ => v.held = some n ∧ v.shown = .isOpen
  | .took n _ => v.held = some n ∧ v.shown = .isOpen
  | .malformed n => v.held = some n ∧ v.shown = .isOpen
  | .silent n => v.held = some n ∧ v.shown = .isOpen
  | .lost n => v.held = some n ∧ v.shown = .isOpen
  | .cleared => v.shown ≠ .closed
  | .dropped _ _ => v.held = none ∧ v.shown = .connecting
  | .notified (.link .isOpen id) _ =>
    v.held = some v.opened ∧ v.shown = .connecting ∧ id = some ⟨UInt64.ofNat v.opened⟩
  | .notified (.link .connecting id) _ => v.held = none ∧ v.shown = .isOpen ∧ id = none
  | .notified (.link .closed id) _ => (v.held.isSome ↔ v.shown = .isOpen) ∧ v.shown ≠ .closed
      ∧ id = none
  | .notified (.model c) m =>
    v.shown = .isOpen ∨ (v.shown = .connecting ∧ c = .laps ∧ m.laps = [] ∧ v.clearing = true)
  | .answered _ _ => True

/-- Events of which each may come after those before it. -/
def Fitting : View → List Event → Prop
  | _, [] => True
  | v, e :: es => v.Fits e ∧ (v.next e).Fitting es

@[simp] theorem after_nil (v : View) : v.after [] = v := rfl

@[simp] theorem after_cons (v : View) (e : Event) (es : List Event) :
    v.after (e :: es) = (v.next e).after es :=
  rfl

@[simp] theorem after_append (v : View) (as bs : List Event) :
    v.after (as ++ bs) = (v.after as).after bs :=
  List.foldl_append

@[simp] theorem fitting_nil (v : View) : v.Fitting [] := trivial

@[simp] theorem fitting_cons (v : View) (e : Event) (es : List Event) :
    v.Fitting (e :: es) ↔ v.Fits e ∧ (v.next e).Fitting es :=
  Iff.rfl

@[simp] theorem fitting_append (v : View) (as bs : List Event) :
    v.Fitting (as ++ bs) ↔ v.Fitting as ∧ (v.after as).Fitting bs := by
  induction as generalizing v with
  | nil => simp
  | cons a as ih => simp [ih, and_assoc]

/-- Each event of a fitting log may come after those before it. -/
theorem fits_of_fitting {v : View} {es pre post : List Event} {e : Event} (h : v.Fitting es)
    (he : es = pre ++ e :: post) : (v.after pre).Fits e := by
  rw [he, fitting_append] at h
  exact h.2.1

/-- What the picked events of a fitting log satisfy, if each event that fits keeps it up. -/
theorem picked {β : Type} {f : Event → Option β} {P : View → List β → Prop}
    (hstep : ∀ v picks e, P v picks → v.Fits e → P (v.next e) (picks ++ (f e).toList))
    {es : List Event} {v : View} {picks : List β} (h : P v picks) (hf : v.Fitting es) :
    P (v.after es) (picks ++ es.filterMap f) := by
  induction es generalizing v picks with
  | nil => simpa using h
  | cons e es ih =>
    have hnext := ih (hstep v picks e h hf.1) hf.2
    rw [List.append_assoc] at hnext
    rw [after_cons, List.filterMap_cons]
    cases he : f e <;> simpa [he] using hnext

/-- What each event that fits keeps up holds after a fitting log. -/
theorem keeps {P : View → Prop} (hstep : ∀ v e, P v → v.Fits e → P (v.next e)) {es : List Event}
    {v : View} (h : P v) (hf : v.Fitting es) : P (v.after es) := by
  induction es generalizing v with
  | nil => exact h
  | cons e es ih => exact ih (hstep v e h hf.1) hf.2

/-- The session that is held is one of those that were opened. -/
theorem held_le_opened {es : List Event} (hf : start.Fitting es) {n : Nat}
    (h : (start.after es).held = some n) : n ≤ (start.after es).opened := by
  refine keeps (P := fun v => ∀ n, v.held = some n → n ≤ v.opened) ?_
    (fun _ hn => by cases hn) hf n h
  intro v e hv he k hk
  cases e with
  | opened m =>
    obtain ⟨-, -, rfl⟩ := he
    exact Nat.le_of_eq (Option.some_inj.1 hk).symm
  | lost m => cases hk
  | notified notice m =>
    cases notice with
    | link state id =>
      cases state with
      | closed => cases hk
      | _ => exact hv k hk
    | model c => exact hv k hk
  | _ => exact hv k hk

end View

/-- What is true of the connection of a client. -/
def Link.view (s : Link) : View :=
  { held := s.phase.session?, opened := s.peers.length, shown := s.phase.shown, clearing := false }

namespace Link

/-! ## The parts of a story -/

/-- Some events fit a view and lead to another one. -/
def Leads (v : View) (es : List Event) (w : View) : Prop := v.Fitting es ∧ v.after es = w

theorem Leads.nil (v : View) : Leads v [] v := ⟨trivial, rfl⟩

theorem Leads.append {u v w : View} {as bs : List Event} (ha : Leads u as v) (hb : Leads v bs w) :
    Leads u (as ++ bs) w := by
  obtain ⟨hfa, rfl⟩ := ha
  obtain ⟨hfb, rfl⟩ := hb
  exact ⟨(View.fitting_append u as bs).2 ⟨hfa, hfb⟩, View.after_append u as bs⟩

theorem Leads.cons {v w : View} {e : Event} {es : List Event} (he : v.Fits e)
    (hes : Leads (v.next e) es w) : Leads v (e :: es) w :=
  ⟨⟨he, hes.1⟩, hes.2⟩

/-- What a reader knows while a session is open. -/
def openView (n opened : Nat) (clearing : Bool) : View := ⟨some n, opened, .isOpen, clearing⟩

/-- What a reader knows while no session is open. -/
def offView (opened : Nat) (clearing : Bool) : View := ⟨none, opened, .connecting, clearing⟩

theorem view_serving {s : Link} {n : Nat} {watch : Option Nat} {probed : Bool}
    (phase : s.phase = .serving n watch probed) : s.view = openView n s.peers.length false := by
  rw [view, phase]
  rfl

theorem view_offline {s : Link} (offline : s.phase.shown = .connecting) :
    s.view = offView s.peers.length false := by
  rw [view, offline]
  cases hp : s.phase with
  | waiting t => rfl
  | seeking a due => rfl
  | _ =>
    rw [hp] at offline
    cases offline

theorem leads_posts (n opened : Nat) (cs : List Command) :
    Leads (openView n opened false) (posts n cs) (openView n opened false) := by
  induction cs with
  | nil => exact Leads.nil _
  | cons c cs ih => exact Leads.cons ⟨rfl, rfl⟩ ih

theorem leads_told (n opened : Nat) (b : Bool) (r : Model × Option Change) :
    Leads (openView n opened b) (told r) (openView n opened (b && r.2.isNone)) := by
  obtain ⟨m, _ | c⟩ := r
  · rw [Option.isNone_none, Bool.and_true]
    exact Leads.nil _
  · rw [Option.isNone_some, Bool.and_false]
    exact Leads.cons (.inl rfl) (Leads.nil _)

theorem leads_prelude (s : Link) (n opened : Nat) (r : Request) :
    ∃ b, Leads (openView n opened false) (s.prelude r) (openView n opened b) := by
  cases r with
  | reset => exact ⟨_, Leads.cons LinkState.noConfusion (leads_told n opened true _)⟩
  | send c => exact ⟨false, Leads.nil _⟩
  | refresh => exact ⟨false, Leads.nil _⟩

theorem leads_answered (n opened : Nat) (b : Bool) (cs : List Command) (id : Nat)
    (outcome : Except Fault Unit) :
    Leads (openView n opened b) (posts n cs ++ [.answered id outcome])
      (openView n opened false) := by
  induction cs generalizing b with
  | nil => exact Leads.cons trivial (Leads.nil _)
  | cons c cs ih => exact Leads.cons ⟨rfl, rfl⟩ (ih false)

theorem leads_declined (s : Link) (opened : Nat) (r : Request) (name : String) (id : Nat)
    (outcome : Except Fault Unit) :
    Leads (offView opened false) (s.prelude r ++ [.dropped id name, .answered id outcome])
      (offView opened false) := by
  have hend : ∀ b, Leads (offView opened b) [.dropped id name, .answered id outcome]
      (offView opened false) :=
    fun b => Leads.cons ⟨rfl, rfl⟩ (Leads.cons trivial (Leads.nil _))
  cases r with
  | reset =>
    refine Leads.cons LinkState.noConfusion ?_
    -- here a change of the model may be announced, since the reset comes right before it
    show Leads (offView opened true) (told s.model.reset ++ _) _
    rw [Model.reset]
    split
    · exact hend true
    · exact Leads.cons (.inr ⟨rfl, rfl, rfl, rfl⟩) (hend false)
  | send c => exact hend false
  | refresh => exact hend false

theorem leads_loss (n opened : Nat) (m : Model) :
    Leads (openView n opened false) (loss n m) (offView opened false) :=
  Leads.cons ⟨rfl, rfl⟩ (Leads.cons ⟨rfl, rfl, rfl⟩ (Leads.nil _))

theorem leads_fate (done : Prop) [Decidable done] (n opened : Nat) (m : Model) :
    Leads (openView n opened false) (fate done n m)
      (if done then openView n opened false else offView opened false) := by
  rw [fate]
  split
  · exact Leads.nil _
  · exact leads_loss n opened m

theorem leads_opening (s : Link) (a : Attempt) :
    Leads (offView s.peers.length false) (s.opening a)
      (if (Peer.accept a).accepted s.questions = s.questions then
        openView (s.peers.length + 1) (s.peers.length + 1) false
      else offView (s.peers.length + 1) false) := by
  refine Leads.append (Leads.append ?_ (leads_posts _ (s.peers.length + 1) _)) (leads_fate ..)
  exact Leads.cons ⟨rfl, rfl, rfl⟩ (Leads.cons ⟨rfl, rfl, rfl⟩ (Leads.nil _))

theorem leads_heard (s : Link) (n opened : Nat) (text : String) :
    Leads (openView n opened false) (s.heard n text) (openView n opened false) := by
  rw [heard]
  split
  · exact Leads.cons ⟨rfl, rfl⟩ (Leads.nil _)
  · exact leads_told n opened false _

theorem leads_refusals (q : List (Nat × Request)) (opened : Nat) :
    Leads ⟨none, opened, .closed, false⟩ (q.map fun e => .answered e.1 (.error .shutdown))
      ⟨none, opened, .closed, false⟩ := by
  induction q with
  | nil => exact Leads.nil _
  | cons e q ih => exact Leads.cons trivial ih

/-! ## Stories and lives -/

theorem view_perform {s : Link} {d : Deed} (h : Ready s d) :
    (s.perform d).view = (s.bareAfter d).view :=
  (congrArg view (bare_perform h) :)

theorem leads_stop {s : Link} (h : s.phase ≠ .stopped) :
    Leads s.view (s.story .stop) ⟨none, s.peers.length, .closed, false⟩ := by
  refine Leads.cons ⟨?_, ?_, rfl⟩ (leads_refusals _ _)
  · exact (Phase.shown_eq_isOpen_iff s.phase).symm
  · intro hc
    have hshown : s.phase.shown = .closed := hc
    cases hp : s.phase with
    | stopped => exact h hp
    | _ =>
      rw [hp] at hshown
      cases hshown

/-- The story of a deed fits what was true before it and leads to what is true after it. -/
theorem leads_story {s : Link} {d : Deed} (h : Ready s d) :
    Leads s.view (s.story d) (s.perform d).view := by
  rw [view_perform h]
  cases h with
  | @attempt t phase live due =>
    rw [view_offline (by rw [phase]; rfl)]
    exact Leads.cons ⟨rfl, rfl⟩ (Leads.nil _)
  | @resolve a due phase live reached =>
    rw [view_offline (by rw [phase]; rfl)]
    by_cases hacc : a.ending = .accepted
    · have hv : (s.bareAfter (.resolve a)).view =
          if (Peer.accept a).accepted s.questions = s.questions then
            openView (s.peers.length + 1) (s.peers.length + 1) false
          else offView (s.peers.length + 1) false := by
        simp only [bareAfter, if_pos hacc, view]
        split <;> simp [openView, offView, Phase.session?, Phase.shown, pause]
      rw [hv, story, if_pos hacc]
      exact leads_opening s a
    · rw [bareAfter, story, if_neg hacc, if_neg hacc]
      exact Leads.cons ⟨rfl, rfl⟩ (Leads.nil _)
  | @read n watch probed p text phase live peer next =>
    rw [view_serving phase]
    have hv : (s.bareAfter (.read n text)).view = openView n s.peers.length false := by
      simp [bareAfter, bare, view, openView, Phase.session?, Phase.shown]
    rw [hv]
    exact Leads.cons ⟨rfl, rfl⟩ (leads_heard s n _ text)
  | lose phase live finished =>
    rw [view_serving phase]
    exact leads_loss _ _ _
  | @watch n watch probed p phase live peer next reached =>
    rw [view_serving phase]
    cases probed with
    | true => exact Leads.cons ⟨rfl, rfl⟩ (leads_loss n _ _)
    | false =>
      have hl := Leads.append (leads_posts n s.peers.length (s.accepted n [.getStatus]))
        (leads_fate (s.accepted n [.getStatus] = [.getStatus]) n s.peers.length s.model)
      have hv : (s.bareAfter (.watch n false)).view =
          if s.accepted n [.getStatus] = [.getStatus] then openView n s.peers.length false
          else offView s.peers.length false := by
        simp only [bareAfter, view]
        split <;> simp [openView, offView, Phase.session?, Phase.shown, pause]
      rw [hv]
      exact hl
  | @serve n id watch probed p r rest phase live peer next early queue =>
    rw [view_serving phase]
    obtain ⟨b, hp⟩ := leads_prelude s n s.peers.length r
    have ha := leads_answered n s.peers.length b (s.accepted n r.commands) id
      (s.verdict n r.commands)
    have hl := Leads.append (Leads.append hp ha)
      (leads_fate (s.accepted n r.commands = r.commands) n s.peers.length (s.prepared r))
    have hv : (s.bareAfter (.serve n id r)).view =
        if s.accepted n r.commands = r.commands then openView n s.peers.length false
        else offView s.peers.length false := by
      simp only [bareAfter, view]
      split <;> simp [openView, offView, Phase.session?, Phase.shown, pause, phase]
    rw [hv, story, List.append_assoc (s.prelude r)]
    exact hl
  | @decline id r rest offline live queue =>
    have hv : (s.bareAfter (.decline id r)).view = s.view := rfl
    rw [hv, view_offline offline]
    exact leads_declined s _ _ _ _ _
  | close phase quitting =>
    rw [view_serving phase]
    exact Leads.nil _
  | part phase due => exact leads_stop fun hp => by rw [phase] at hp; cases hp
  | stop offline quitting => exact leads_stop fun hp => by rw [hp] at offline; cases offline

end Link

/-- **Every log fits**, event by event, and tells the truth about the client in the end. -/
theorem Life.log_fits (terms : Terms) (script : List Attempt) (hub : Hub) (ms : List Move) :
    Link.Leads View.start (of terms script hub ms).link.events
      (of terms script hub ms).link.view := by
  refine link_invariant (P := fun s => Link.Leads View.start s.events s.view) (Link.Leads.nil _)
    ?_ ?_ ms
  · intro s d hs hd h
    rw [Link.events_perform hs hd]
    exact h.append (Link.leads_story hd)
  · intro s t hm h
    have hv : t.view = s.view := by rw [Link.view, Link.view, hm.phase, hm.sessions]
    rw [hv]
    obtain he | ⟨hstop, id, he⟩ := hm.events
    · rw [he]
      exact h
    · rw [he]
      refine h.append (Link.Leads.cons trivial ?_)
      exact Link.Leads.nil _

end RaceLink
