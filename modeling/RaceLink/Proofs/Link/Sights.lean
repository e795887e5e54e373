import RaceLink.Link.Stream
import RaceLink.Proofs.Delivery.Audience
import RaceLink.Proofs.Link.Refinement
import RaceLink.Proofs.Race.Reports

/-!
# What handles read

A client keeps what it believes to itself and writes it into three cells, each of them only when it
has to.  Handles read the cells at any time, also while an observer is being told of something.
They never read anything but what the client believes.

* `Model.Reports` — a change of the model that is reported just as it is.
* `Link.Steps` — all that a client does is made of steps in which nothing is seen, of states that
  are entered and of changes that are taken over (`steps_perform`, `Life.steps_move`).
* `Link.Transparent` — what handles read is what the client believes, now and at each notice so
  far; steps keep it (`Transparent.steps`).
* `Life.Shown`, `Life.snapshots_agree` — **handles read what is**, and whoever was told of a notice
  reads values that are no older.
-/

set_option autoImplicit false

namespace RaceLink

/-- The state of the connection that a notice tells of. -/
def Notice.link? : Notice → Option LinkState
  | .link state _ => some state
  | .model _ => none

/-- The state of the connection that was told last; a client begins by connecting. -/
def lastLink (notices : List Notice) : LinkState :=
  (notices.filterMap Notice.link?).getLast?.getD .connecting

theorem lastLink_concat (notices : List Notice) (n : Notice) :
    lastLink (notices ++ [n]) = n.link?.getD (lastLink notices) := by
  rw [lastLink, List.filterMap_append]
  cases n with
  | link state session =>
    have hnew : [Notice.link state session].filterMap Notice.link? = [state] := rfl
    rw [hnew, List.getLast?_concat]
    rfl
  | model c =>
    have hnone : [Notice.model c].filterMap Notice.link? = [] := rfl
    rw [hnone, List.append_nil]
    rfl

/-! ## Changes of the model -/

namespace Model

/-- Whatever changed is reported, another report than the last one is only there if the change
says so, and then there is one. -/
structure Reports (m : Model) (r : Model × Option Change) : Prop where
  silent : r.2 = none → r.1 = m
  status : r.2 ≠ some .status → r.1.status = m.status
  told : r.2 = some .status → r.1.status.isSome

/-- A report that accounts for a change is one of these. -/
theorem Accounts.reports {m : Model} {r : Model × Option Change} (h : m.Accounts r) :
    m.Reports r :=
  ⟨h.silent, h.status, h.told⟩

end Model

namespace Link

/-- All notices so far, each with the model that observers were shown. -/
def notified (s : Link) : List (Notice × Model) := s.events.filterMap Event.told?

/-- What could be seen at each notice so far, the first one first. -/
def views (s : Link) : List Sight := s.sights.toList

/-! ## Steps -/

/-- What is written for handles and streams. -/
def cells (s : Link) : Latest LinkState × Latest Model × Latest (Option Status) :=
  (s.stateCell, s.modelCell, s.statusCell)

/-- Nothing was told and nothing can be seen of what changed, if anything did. -/
structure Quiet (s t : Link) : Prop where
  state : t.state = s.state
  model : t.model = s.model
  hub : t.hub = s.hub
  cells : t.cells = s.cells
  sights : t.sights = s.sights
  notified : t.notified = s.notified

theorem Quiet.refl (s : Link) : Quiet s s := ⟨rfl, rfl, rfl, rfl, rfl, rfl⟩

theorem Quiet.trans {s t u : Link} (h : Quiet s t) (h' : Quiet t u) : Quiet s u :=
  ⟨h'.state.trans h.state, h'.model.trans h.model, h'.hub.trans h.hub,
    h'.cells.trans h.cells, h'.sights.trans h.sights, h'.notified.trans h.notified⟩

theorem Quiet.snapshot {s t : Link} (h : Quiet s t) : t.snapshot = s.snapshot :=
  congrArg (fun c => Snapshot.mk c.1.value c.2.1.value c.2.2.value) h.cells

theorem quiet_record (s : Link) {e : Event} (he : e.told? = none) : Quiet s (s.record e) where
  state := rfl
  model := rfl
  hub := rfl
  cells := rfl
  sights := rfl
  notified := by
    rw [notified, events_record, List.filterMap_append, List.filterMap_cons_none he]
    exact List.append_nil _

/-- What is seen of a client is changed by entering a state and by taking over a changed model, and
by nothing else. -/
inductive Steps : Link → Link → Prop
  | quiet {s t : Link} (quiet : Quiet s t) : Steps s t
  | enter (s : Link) (state : LinkState) (session : Option Nat) : Steps s (s.enter state session)
  | update {s : Link} {r : Model × Option Change} (reports : s.model.Reports r) :
      Steps s (s.update r)
  | trans {s t u : Link} (first : Steps s t) (second : Steps t u) : Steps s u

theorem quiet_deliverOne (s : Link) (n : Nat) (c : Command) : Quiet s (s.deliverOne n c).1 := by
  rw [deliverOne]
  split
  · exact .refl s
  · rename_i p hp
    split
    · exact .refl s
    · rename_i q hq
      have hpeer : Quiet s (s.setPeer n q) := ⟨rfl, rfl, rfl, rfl, rfl, rfl⟩
      exact hpeer.trans (quiet_record _ rfl)

theorem quiet_deliver (s : Link) (n : Nat) (cs : List Command) : Quiet s (s.deliver n cs).1 := by
  induction cs generalizing s with
  | nil => exact .refl s
  | cons c cs ih =>
    have hone := quiet_deliverOne s n c
    rw [deliver]
    split
    · rename_i t ht
      rw [ht] at hone
      exact hone.trans (ih t)
    · rename_i t reason ht
      rw [ht] at hone
      exact hone

theorem quiet_refuseAll (s : Link) (q : List (Nat × Request)) : Quiet s (s.refuseAll q) := by
  induction q generalizing s with
  | nil => exact .refl s
  | cons e q ih => exact (quiet_record s rfl).trans (ih _)

theorem steps_lose (s : Link) (n : Nat) : Steps s (s.lose n) := by
  have hphase : Quiet s { s with phase := .waiting (s.now + s.terms.delay) } :=
    ⟨rfl, rfl, rfl, rfl, rfl, rfl⟩
  exact .trans (.quiet (hphase.trans (quiet_record _ rfl))) (.enter _ .connecting none)

theorem steps_stop (s : Link) : Steps s s.stop := by
  have hphase : Quiet s { s with phase := .stopped } := ⟨rfl, rfl, rfl, rfl, rfl, rfl⟩
  have hrefused := quiet_refuseAll ({ s with phase := .stopped }.enter .closed none)
    ({ s with phase := .stopped }.enter .closed none).queue
  have hqueue : ∀ t : Link, Quiet t { t with queue := [] } :=
    fun _ => ⟨rfl, rfl, rfl, rfl, rfl, rfl⟩
  exact .trans (.quiet hphase) (.trans (.enter _ .closed none) (.quiet (hrefused.trans (hqueue _))))

theorem steps_prepare (s : Link) (r : Request) : Steps s (s.prepare r) := by
  cases r with
  | reset => exact .trans (.quiet (quiet_record s rfl)) (.update (Model.accounts_reset _).reports)
  | send c => exact .quiet (.refl s)
  | refresh => exact .quiet (.refl s)

theorem steps_openSession (s : Link) (a : Attempt) : Steps s (s.openSession a) := by
  have hpeers : Quiet s { s with peers := s.peers ++ [Peer.accept a] } :=
    ⟨rfl, rfl, rfl, rfl, rfl, rfl⟩
  have hphase : ∀ (t : Link) (p : Phase), Quiet t { t with phase := p } :=
    fun _ _ => ⟨rfl, rfl, rfl, rfl, rfl, rfl⟩
  have hopened : Steps s (s.opened a) :=
    .trans (.quiet ((hpeers.trans (quiet_record _ rfl)).trans (hphase _ _))) (.enter _ _ _)
  have hposted := quiet_deliver (s.opened a) (s.peers.length + 1) Command.resync
  rw [openSession_opened]
  generalize s.opened a = t at hopened hposted
  split
  · split
    · rename_i t ht
      rw [ht] at hposted
      exact hopened.trans (.quiet hposted)
    · rename_i t reason ht
      rw [ht] at hposted
      exact hopened.trans (.trans (.quiet hposted) (steps_lose t _))
  · exact hopened

theorem steps_endAttempt (s : Link) (a : Attempt) : Steps s (s.endAttempt a) := by
  have hphase : Quiet s { s with phase := .waiting (s.now + s.terms.delay) } :=
    ⟨rfl, rfl, rfl, rfl, rfl, rfl⟩
  rw [endAttempt]
  split
  · exact steps_openSession s a
  · exact .quiet (hphase.trans (quiet_record _ rfl))

theorem steps_takeFrame (s : Link) (n : Nat) (text : String) : Steps s (s.takeFrame n text) := by
  obtain ⟨ps, -, hpeers⟩ := onPeer_frame s n Peer.advance
  have hread : Quiet s ({ s.onPeer n Peer.advance with
      phase := .serving n s.watchFrom false }.record (.took n text)) := by
    rw [hpeers]
    have hphase : Quiet s { s with peers := ps, phase := .serving n s.watchFrom false } :=
      ⟨rfl, rfl, rfl, rfl, rfl, rfl⟩
    exact hphase.trans (quiet_record _ rfl)
  rw [takeFrame]
  split
  · exact .quiet (hread.trans (quiet_record _ rfl))
  · exact .trans (.quiet hread) (.update (Model.accounts_apply _ _).reports)

theorem steps_watchdog (s : Link) (n : Nat) (probed : Bool) : Steps s (s.watchdog n probed) := by
  have hposted := quiet_deliver s n [.getStatus]
  rw [watchdog]
  split
  · exact .trans (.quiet (quiet_record s rfl)) (steps_lose _ n)
  · split
    · rename_i t reason ht
      rw [ht] at hposted
      exact .trans (.quiet hposted) (steps_lose t n)
    · rename_i t ht
      rw [ht] at hposted
      exact .quiet (hposted.trans ⟨rfl, rfl, rfl, rfl, rfl, rfl⟩)

theorem steps_serve (s : Link) (n id : Nat) (r : Request) : Steps s (s.serve n id r) := by
  have hposted := quiet_deliver (s.prepare r) n r.commands
  have hprepared := steps_prepare s r
  rw [serve]
  split
  · rename_i t ht
    rw [ht] at hposted
    exact hprepared.trans (.quiet (hposted.trans (quiet_record t rfl)))
  · rename_i t reason ht
    rw [ht] at hposted
    exact hprepared.trans (.trans (.quiet (hposted.trans (quiet_record t rfl))) (steps_lose _ n))

theorem steps_decline (s : Link) (id : Nat) (r : Request) : Steps s (s.decline id r) :=
  (steps_prepare s r).trans (.quiet ((quiet_record _ rfl).trans (quiet_record _ rfl)))

/-- Deeds are made of steps. -/
theorem steps_perform (s : Link) (d : Deed) : Steps s (s.perform d) := by
  have hqueue : Quiet s { s with queue := s.queue.drop 1 } := ⟨rfl, rfl, rfl, rfl, rfl, rfl⟩
  cases d with
  | attempt =>
    have hphase : ∀ p, Quiet s { s with attempts := s.attempts + 1, phase := p } :=
      fun _ => ⟨rfl, rfl, rfl, rfl, rfl, rfl⟩
    exact .quiet ((hphase _).trans (quiet_record _ rfl))
  | resolve a => exact steps_endAttempt s a
  | read n text => exact steps_takeFrame s n text
  | lose n => exact steps_lose s n
  | watch n probed => exact steps_watchdog s n probed
  | serve n id r => exact .trans (.quiet hqueue) (steps_serve _ n id r)
  | decline id r => exact .trans (.quiet hqueue) (steps_decline _ id r)
  | close n => exact .quiet ⟨rfl, rfl, rfl, rfl, rfl, rfl⟩
  | stop => exact steps_stop s

/-! ## Transparent clients -/

/-- Handles read what a client believes, now and at each notice so far, and streams get those
notices.  The client began with `hub`. -/
structure Transparent (hub : Hub) (s : Link) : Prop where
  handles : s.snapshot = ⟨s.state, s.model, s.model.status⟩
  told : s.views.map (fun v => (v.notice, v.model)) = s.notified
  state : s.state = lastLink (s.views.map Sight.notice)
  during : ∀ i v, s.views[i]? = some v → v.read = ⟨v.state, v.model, v.model.status⟩ ∧
    v.state = lastLink ((s.views.take (i + 1)).map Sight.notice)
  /-- What handles read is what they read at the last notice. -/
  newest : s.snapshot = (s.views.getLast?.map Sight.read).getD ⟨.connecting, .empty, none⟩
  ring : s.hub.ring.Holds hub.ring.forgotten (hub.ring.kept ++ s.views.map Sight.notice)
  observers : s.hub.observers = hub.observers

variable {hub : Hub} {s t : Link}

theorem transparent_start (terms : Terms) (script : List Attempt) (hub : Hub) :
    (start terms script hub).Transparent hub := by
  have hviews : (start terms script hub).views = [] := rfl
  constructor
  · rfl
  · rw [hviews]
    rfl
  · rw [hviews]
    rfl
  · rw [hviews]
    exact fun i v hv => nomatch hv
  · rw [hviews]
    rfl
  · rw [hviews, List.map_nil, List.append_nil]
    exact Ring.holds_self hub.ring
  · rfl

theorem Transparent.quiet (h : s.Transparent hub) (hq : Quiet s t) : t.Transparent hub := by
  have hviews : t.views = s.views := congrArg Array.toList hq.sights
  constructor
  · rw [hq.snapshot, hq.state, hq.model]
    exact h.handles
  · rw [hviews, hq.notified]
    exact h.told
  · rw [hq.state, hviews]
    exact h.state
  · rw [hviews]
    exact h.during
  · rw [hq.snapshot, hviews]
    exact h.newest
  · rw [hq.hub, hviews]
    exact h.ring
  · rw [hq.hub]
    exact h.observers

@[simp] theorem views_announce (s : Link) (n : Notice) :
    (s.announce n).views = s.views ++ [⟨n, s.state, s.model, s.snapshot⟩] :=
  Array.toList_push

theorem notified_announce (s : Link) (n : Notice) :
    (s.announce n).notified = s.notified ++ [(n, s.model)] := by
  rw [notified, events_announce, List.filterMap_append]
  rfl

/-- The cells are written before anybody is told. -/
theorem Transparent.announce (h : s.Transparent hub) (hsights : t.sights = s.sights)
    (hhub : t.hub = s.hub) (hnotified : t.notified = s.notified)
    (hhandles : t.snapshot = ⟨t.state, t.model, t.model.status⟩) (n : Notice)
    (hstate : t.state = n.link?.getD s.state) : (t.announce n).Transparent hub := by
  have hviews : t.views = s.views := congrArg Array.toList hsights
  have hlast : t.state = lastLink (s.views.map Sight.notice ++ [n]) := by
    rw [hstate, lastLink_concat, ← h.state]
  constructor
  · exact hhandles
  · rw [views_announce, notified_announce, List.map_append, hviews, hnotified, h.told]
    rfl
  · rw [views_announce, List.map_append, hviews]
    exact hlast
  · rw [views_announce, hviews]
    intro i v hv
    rcases Nat.lt_trichotomy i s.views.length with hlt | rfl | hgt
    · rw [List.getElem?_append_left hlt] at hv
      rw [List.take_append_of_le_length hlt]
      exact h.during i v hv
    · rw [List.getElem?_concat_length, Option.some_inj] at hv
      subst hv
      refine ⟨hhandles, ?_⟩
      rw [List.take_of_length_le (by rw [List.length_append]; exact Nat.le_refl _), List.map_append]
      exact hlast
    · rw [List.getElem?_eq_none (by rw [List.length_append]; exact hgt)] at hv
      cases hv
  · rw [views_announce, List.getLast?_concat]
    rfl
  · have hring : (t.announce n).hub.ring = s.hub.ring.push n := by rw [← hhub]; rfl
    rw [hring, views_announce, hviews, List.map_append, ← List.append_assoc]
    exact h.ring.push n
  · exact (congrArg Hub.observers hhub).trans h.observers

theorem Transparent.enter (h : s.Transparent hub) (state : LinkState) (session : Option Nat) :
    (s.enter state session).Transparent hub := by
  rw [Link.enter]
  split
  · exact h
  · obtain ⟨-, hmodel, hstatus⟩ := Snapshot.mk.inj h.handles
    have hread : Snapshot.mk state s.modelCell.value s.statusCell.value =
        ⟨state, s.model, s.model.status⟩ := by rw [hmodel, hstatus]
    apply h.announce
    · rfl
    · rfl
    · rfl
    · exact hread
    · rfl

/-- A report is written down where the model holds another one than before. -/
theorem Transparent.update (h : s.Transparent hub) {r : Model × Option Change}
    (hr : s.model.Reports r) : (s.update r).Transparent hub := by
  obtain ⟨m, change⟩ := r
  obtain ⟨hstate, hmodel, hstatus⟩ := Snapshot.mk.inj h.handles
  cases change with
  | none =>
    have hsame : s.update (m, none) = s := by
      rw [Link.update, hr.silent rfl]
    rw [hsame]
    exact h
  | some c =>
    show (publish { s with model := m } c).Transparent hub
    rw [publish]
    split
    · have hread : Snapshot.mk s.stateCell.value m m.status = ⟨s.state, m, m.status⟩ := by
        rw [hstate]
      apply h.announce
      · rfl
      · rfl
      · rfl
      · exact hread
      · rfl
    · rename_i hc
      have hkept : m.status = s.model.status := hr.status fun h => hc (Option.some_inj.1 h)
      have hread : Snapshot.mk s.stateCell.value m s.statusCell.value =
          ⟨s.state, m, m.status⟩ := by rw [hstate, hstatus, hkept]
      apply h.announce
      · rfl
      · rfl
      · rfl
      · exact hread
      · rfl

theorem Transparent.steps (h : s.Transparent hub) (hs : Steps s t) : t.Transparent hub := by
  induction hs with
  | quiet quiet => exact h.quiet quiet
  | enter s state session => exact h.enter state session
  | update reports => exact h.update reports
  | trans _ _ first second => exact second (first h)

/-- What could be seen stays written down. -/
theorem Steps.views_grow (hs : Steps s t) : s.views <+: t.views := by
  induction hs with
  | quiet quiet => exact ⟨[], by rw [List.append_nil, views, views, quiet.sights]⟩
  | enter s state session =>
    rw [Link.enter]
    split
    · exact List.prefix_rfl
    · rw [views_announce]
      exact List.prefix_append _ _
  | @update s r reports =>
    obtain ⟨m, _ | c⟩ := r
    · exact List.prefix_rfl
    · show s.views <+: (publish { s with model := m } c).views
      rw [publish]
      split
      · rw [views_announce]
        exact List.prefix_append _ _
      · rw [views_announce]
        exact List.prefix_append _ _
  | trans _ _ first second => exact first.trans second

/-! ## Observers and streams -/

/-- Each observer is called once for every notice. -/
theorem Transparent.calls_for (h : s.Transparent hub) {i : Nat} (hi : i < hub.observers) :
    (s.events.flatMap s.calls).filterMap (Call.for? i) =
      s.views.map fun v => (v.notice, v.model) := by
  rw [h.told, notified, List.filterMap_flatMap, List.filterMap_eq_flatMap_toList]
  congr 1
  funext e
  cases e with
  | notified n m => exact Hub.calls_for (h.observers.symm ▸ hi) n m
  | _ => rfl

/-- What a stream gets that was subscribed to after the start are the last notices so far. -/
theorem Transparent.drain_notices (h : s.Transparent hub) {next : Nat}
    (hnext : hub.ring.total ≤ next) :
    ∃ k, (s.drain (.notices next)).1.items = (s.views.drop k).map fun v => .notice v.notice := by
  have hkept := h.ring.kept
  have hle := h.ring.le
  have htotal : hub.ring.total = hub.ring.forgotten + hub.ring.kept.length := rfl
  refine ⟨max next s.hub.ring.forgotten - hub.ring.total, ?_⟩
  show (s.hub.ring.kept.drop (next - s.hub.ring.forgotten)).map Item.notice = _
  have hstart : s.hub.ring.forgotten - hub.ring.forgotten + (next - s.hub.ring.forgotten) =
      hub.ring.kept.length + (max next s.hub.ring.forgotten - hub.ring.total) := by omega
  rw [hkept, List.drop_drop, hstart, List.drop_length_add_append, ← List.map_drop, List.map_map]
  rfl

end Link

namespace Life

/-- What happens to a client is made of steps as well. -/
theorem steps_move (c : Life) (m : Move) : c.link.Steps (c.move m).link := by
  obtain ⟨d, -, he⟩ | ⟨r, he⟩ | hu := move_cases c m
  · rw [he]
    exact Link.steps_perform c.link d
  · rw [he]
    show c.link.Steps (c.link.submit c.asked.length r)
    rw [Link.submit]
    split
    · exact .quiet (Link.quiet_record _ rfl)
    · exact .quiet ⟨rfl, rfl, rfl, rfl, rfl, rfl⟩
  · obtain ⟨now, ps, cancelled, handles, -, he⟩ := hu.link
    rw [he]
    exact .quiet ⟨rfl, rfl, rfl, rfl, rfl, rfl⟩

variable (terms : Terms) (script : List Attempt) (hub : Hub) (ms : List Move)

theorem transparent : (of terms script hub ms).link.Transparent hub :=
  invariant (P := fun c => c.link.Transparent hub) (Link.transparent_start terms script hub)
    (fun c m hc => hc.steps (steps_move c m)) ms

theorem views_grow (more : List Move) :
    (of terms script hub ms).link.views <+: (of terms script hub (ms ++ more)).link.views := by
  suffices h : ∀ (more : List Move) (c : Life), c.link.views <+: (more.foldl move c).link.views by
    rw [of, of, List.foldl_append]
    exact h more _
  intro more
  induction more with
  | nil => exact fun _ => List.prefix_rfl
  | cons m more ih => exact fun c => (steps_move c m).views_grow.trans (ih _)

/-- What handles read, and what can be seen at each notice, at a moment in the life of a client that
began with `hub`. -/
structure Shown (hub : Hub) (s : Link) : Prop where
  /-- Handles read what the client believes. -/
  handles : s.snapshot = ⟨s.state, s.model, s.model.status⟩
  /-- The client believes of the connection what it told last. -/
  state : s.state = lastLink (s.views.map Sight.notice)
  /-- Every observer was called once for each notice, with the model of the client. -/
  calls : ∀ i < hub.observers, (s.events.flatMap s.calls).filterMap (Call.for? i) =
    s.views.map fun v => (v.notice, v.model)
  /-- The same was true while observers were called: handles read what the client believed, and the
  model that observers were shown; of the connection it believed what it was just telling, or had
  told last. -/
  during : ∀ i v, s.views[i]? = some v → v.read = ⟨v.state, v.model, v.model.status⟩ ∧
    v.state = lastLink ((s.views.take (i + 1)).map Sight.notice)
  /-- Streams that were subscribed to after the start get the last of the notices so far. -/
  streams : ∀ next, hub.ring.total ≤ next →
    ∃ k, (s.drain (.notices next)).1.items = (s.views.drop k).map fun v => .notice v.notice

/-- **Handles read what is**: at every moment in the life of a client, and whenever an observer is
called, the cells hold what the client believes.  Who was told of a notice, by a call or by a
stream, reads from then on what could be seen at that notice or at a later one. -/
theorem snapshots_agree :
    Shown hub (of terms script hub ms).link ∧
    ∀ (more : List Move) (i : Nat) (v : Sight), (of terms script hub ms).link.views[i]? = some v →
      ∃ j w, i ≤ j ∧ (of terms script hub (ms ++ more)).link.views[i]? = some v ∧
        (of terms script hub (ms ++ more)).link.views[j]? = some w ∧
        (of terms script hub (ms ++ more)).link.snapshot = w.read := by
  have h := transparent terms script hub ms
  refine ⟨⟨h.handles, h.state, fun i hi => h.calls_for hi, h.during,
    fun next hnext => h.drain_notices hnext⟩, fun more i v hv => ?_⟩
  have hlater := transparent terms script hub (ms ++ more)
  obtain ⟨rest, hrest⟩ := views_grow terms script hub ms more
  have hi : (of terms script hub (ms ++ more)).link.views[i]? = some v := by
    rw [← hrest, List.getElem?_append_left (List.getElem?_eq_some_iff.1 hv).1]
    exact hv
  have hlt := (List.getElem?_eq_some_iff.1 hi).1
  obtain ⟨w, hw⟩ : ∃ w, (of terms script hub (ms ++ more)).link.views.getLast? = some w := by
    rw [← Option.isSome_iff_exists, List.getLast?_isSome]
    exact List.ne_nil_of_length_pos (Nat.zero_lt_of_lt hlt)
  refine ⟨(of terms script hub (ms ++ more)).link.views.length - 1, w, by omega, hi, ?_, ?_⟩
  · rw [← List.getLast?_eq_getElem?]
    exact hw
  · rw [hlater.newest, hw]
    rfl

end Life
end RaceLink
