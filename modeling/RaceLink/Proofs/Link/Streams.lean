import RaceLink.Link.Script
import RaceLink.Proofs.Delivery.Feed
import RaceLink.Proofs.Link.Cells

/-!
# Streams of newest values

Who reads a stream of models, of states or of reports may miss values, but never goes back, is never
out of date and never misses the last value.

* `Channel` — what such a stream is of; `Channel.values` — all that was published on it.
* `Stream.On`, `Link.look_brings` — what a look at such a stream can bring.
* `Watch` — a client and one who reads a stream of it, from any instant on and at any instants.
* `Watch.Kept` — what was read last is held or was yielded; all acts keep it (`Kept.act`).
* `Watch.Lawful`, `Watch.streams_lawful` — **the law of streams**.
-/

set_option autoImplicit false

namespace RaceLink

/-! ## Channels -/

/-- What a stream of newest values is of. -/
inductive Channel where
  | models
  | states
  | statuses (rate : Rate)
  deriving DecidableEq, Repr

namespace Channel

/-- What is subscribed to. -/
def topic : Channel → Topic
  | .models => .models
  | .states => .states
  | .statuses rate => .statuses rate

/-- The least time between two items, if there is one. -/
def interval? : Channel → Option Nat
  | .statuses rate => rate.interval?
  | _ => none

/-- The value that is there from the start; no report is. -/
def first : Channel → Option Item
  | .models => some (.model .empty)
  | .states => some (.state .connecting)
  | .statuses _ => none

/-- The value that is published with a notice, if it tells of one. -/
def told : Channel → Sight → Option Item
  | .models, v => v.model?.map .model
  | .states, v => v.notice.link?.map .state
  | .statuses _, v => v.status?.map .status

/-- What a client believes itself. -/
def current (s : Link) : Channel → Option Item
  | .models => some (.model s.model)
  | .states => some (.state s.state)
  | .statuses _ => s.model.status.map .status

/-- All values that were published, beginning with the one that was there from the start. -/
def values (ch : Channel) (views : List Sight) : List (Option Item) :=
  ch.first :: (views.filterMap ch.told).map some

/-- The newest value and the number of times one was written. -/
def cell (s : Link) : Channel → Latest (Option Item)
  | .models => ⟨some (.model s.modelCell.value), s.modelCell.writes⟩
  | .states => ⟨some (.state s.stateCell.value), s.stateCell.writes⟩
  | .statuses _ => ⟨s.statusCell.value.map .status, s.statusCell.writes⟩

variable {ch : Channel} {s : Link} {views views' : List Sight}

theorem values_prefix (h : views <+: views') : ch.values views <+: ch.values views' := by
  obtain ⟨rest, rfl⟩ := h
  rw [values, values, List.filterMap_append, List.map_append]
  exact ⟨_, rfl⟩

theorem values_pos : 0 < (ch.values views).length := Nat.zero_lt_succ _

/-- There is nothing but values after the first one. -/
theorem exists_value {p : Nat} (hpos : 0 < p) (hp : p < (ch.values views).length) :
    ∃ a, (ch.values views)[p]? = some (some a) := by
  obtain ⟨k, rfl⟩ := Nat.exists_eq_succ_of_ne_zero (Nat.ne_zero_of_lt hpos)
  have hk : k < ((views.filterMap ch.told).map some).length := Nat.lt_of_succ_lt_succ hp
  obtain ⟨a, -, ha⟩ := List.mem_map.1 (List.getElem_mem hk)
  exact ⟨a, (List.getElem?_eq_getElem hk).trans (congrArg some ha.symm)⟩

/-- A cell with its values seen through `f`. -/
theorem map_setAll {β : Type} (f : β → Option Item) (b : β) (bs : List β) :
    (⟨f ((Latest.make b).setAll bs).value, ((Latest.make b).setAll bs).writes⟩ : Latest _) =
      ⟨((b :: bs).map f).getLast?.join, ((b :: bs).map f).length - 1⟩ := by
  rw [Latest.setAll_eq, List.getLast?_map, List.getLast?_cons, List.length_map, List.length_cons]
  exact congrArg (Latest.mk _) (Nat.zero_add _)

/-- The cell of a channel holds the last value that was published. -/
theorem cell_eq (h : s.cells = Link.cellsAfter views) :
    ch.cell s = ⟨(ch.values views).getLast?.join, (ch.values views).length - 1⟩ := by
  obtain ⟨hstate, hrest⟩ := Prod.mk.inj h
  obtain ⟨hmodel, hstatus⟩ := Prod.mk.inj hrest
  cases ch with
  | models =>
    have hvalues : values .models views =
        (Model.empty :: views.filterMap Sight.model?).map fun m => some (.model m) := by
      simp only [values, first, told, List.map_cons, List.map_filterMap, Option.map_map]
      rfl
    rw [cell, hmodel, hvalues]
    exact map_setAll (fun m => some (.model m)) _ _
  | states =>
    have hvalues : values .states views =
        (LinkState.connecting :: views.filterMap fun v => v.notice.link?).map
          fun l => some (.state l) := by
      simp only [values, first, told, List.map_cons, List.map_filterMap, Option.map_map]
      rfl
    rw [cell, hstate, hvalues]
    exact map_setAll (fun l => some (.state l)) _ _
  | statuses rate =>
    have hvalues : values (.statuses rate) views =
        (none :: (views.filterMap Sight.status?).map some).map (Option.map .status) := by
      simp only [values, first, told, List.map_cons, List.map_filterMap, Option.map_map]
      rfl
    rw [cell, hstatus, hvalues]
    exact map_setAll (Option.map .status) _ _

end Channel

/-! ## Looks -/

namespace Stream

/-- What was written when the stream was looked at last. -/
def seen : Stream → Option Nat
  | .notices _ => none
  | .models seen => seen
  | .states seen => seen
  | .status seen _ => seen

/-- What limits a stream to a rate. -/
def throttle? : Stream → Option (Throttle Status)
  | .status _ throttle => throttle
  | _ => none

/-- What a stream holds until a tick is due. -/
def kept (st : Stream) : Option Item := st.throttle?.bind fun th => th.kept.map .status

/-- When the next tick is due. -/
def due (st : Stream) : Nat := (st.throttle?.map Throttle.due).getD 0

/-- Whether a throttle knows that nothing more comes. -/
def spent (st : Stream) : Bool := st.throttle?.any Throttle.sourceEnded

/-- A stream is one of a channel. -/
inductive On : Channel → Stream → Prop
  | models (seen : Option Nat) : On .models (.models seen)
  | states (seen : Option Nat) : On .states (.states seen)
  | statuses (rate : Rate) (seen : Option Nat) {throttle : Option (Throttle Status)}
      (capped : throttle.isSome = rate.interval?.isSome) :
      On (.statuses rate) (.status seen throttle)

theorem On.capped {ch : Channel} {st : Stream} (h : st.On ch) :
    st.throttle?.isSome = ch.interval?.isSome := by
  cases h with
  | models seen => rfl
  | states seen => rfl
  | statuses rate seen capped => exact capped

end Stream

theorem Latest.poll_eq {α : Type} (c : Latest α) (seen : Option Nat) :
    c.poll seen = (if seen = some c.writes then none else some c.value, some c.writes) := by
  rw [poll]
  split
  next h => rw [h]
  next => rfl

namespace Link

variable {ch : Channel} {s : Link} {st : Stream}

/-- What was written to a channel after it was looked at. -/
def news (s : Link) (ch : Channel) (seen : Option Nat) : Option Item :=
  ((ch.cell s).poll seen).1.join

theorem news_eq (seen : Option Nat) :
    s.news ch seen = if seen = some (ch.cell s).writes then none else (ch.cell s).value := by
  rw [news, Latest.poll_eq]
  split <;> rfl

/-- What a stream has in hand once it has taken the news. -/
def inHand (s : Link) (ch : Channel) (st : Stream) : Option Item := (s.news ch st.seen).or st.kept

/-- Streams without a throttle yield the news. -/
theorem look_plain (hon : st.On ch) (hth : st.throttle? = none) :
    ∃ st', s.look st = (.ofNews (s.news ch st.seen) s.isStopped, st') ∧ st'.On ch ∧
      st'.seen = some (ch.cell s).writes ∧ st'.throttle? = none := by
  cases hon with
  | models seen =>
    refine ⟨.models (some s.modelCell.writes), ?_, .models _, rfl, rfl⟩
    simp only [look, news_eq, Latest.poll_eq, Stream.seen, Channel.cell]
    by_cases h : seen = some s.modelCell.writes <;> simp [h]
  | states seen =>
    refine ⟨.states (some s.stateCell.writes), ?_, .states _, rfl, rfl⟩
    simp only [look, news_eq, Latest.poll_eq, Stream.seen, Channel.cell]
    by_cases h : seen = some s.stateCell.writes <;> simp [h]
  | statuses rate seen capped =>
    cases hth
    refine ⟨.status (some s.statusCell.writes) none, ?_, .statuses rate _ capped, rfl, rfl⟩
    simp only [look, news_eq, Latest.poll_eq, Stream.seen, Channel.cell]
    by_cases h : seen = some s.statusCell.writes <;> simp [h]

/-- A throttle takes the news and is asked. -/
theorem look_throttled (hon : st.On ch) {th : Throttle Status} (hth : st.throttle? = some th) :
    ∃ report : Option Status, report.map .status = s.news ch st.seen ∧
      ∃ answer th' st', th.poll (s.now * Throttle.millisecond) report.toList s.isStopped =
          (answer, th') ∧
        s.look st = (answer.map .status, st') ∧ st'.On ch ∧
        st'.seen = some (ch.cell s).writes ∧ st'.throttle? = some th' := by
  cases hon with
  | models seen => cases hth
  | states seen => cases hth
  | statuses rate seen capped =>
    cases hth
    obtain ⟨answer, th', hpoll⟩ : ∃ answer th', th.poll (s.now * Throttle.millisecond)
        (s.statusCell.poll seen).1.join.toList s.isStopped = (answer, th') := ⟨_, _, rfl⟩
    refine ⟨(s.statusCell.poll seen).1.join, ?_, answer, th',
      .status (some s.statusCell.writes) (some th'), hpoll, ?_, .statuses rate _ capped, rfl, rfl⟩
    · rw [news_eq, Latest.poll_eq]
      simp only [Stream.seen, Channel.cell]
      by_cases h : seen = some s.statusCell.writes <;> simp [h]
    · rw [Latest.poll_eq] at hpoll
      simp only [look, Latest.poll_eq, hpoll]

/-- What a look can bring: nothing, if nothing is in hand; and else what is in hand, unless a
throttle holds it because no tick is due. -/
inductive Brings (s : Link) (ch : Channel) (st : Stream) : Poll Item → Stream → Prop
  | nothing {st' : Stream} (hand : s.inHand ch st = none) (kept : st'.kept = none) :
      Brings s ch st (if s.isStopped then .ended else .pending) st'
  | later {st' : Stream} {a : Item} (hand : s.inHand ch st = some a) (kept : st'.kept = some a)
      (early : s.now * Throttle.millisecond < st.due) : Brings s ch st .pending st'
  | now {st' : Stream} {a : Item} (hand : s.inHand ch st = some a) (kept : st'.kept = none)
      (due : st.due ≤ s.now * Throttle.millisecond) : Brings s ch st (.item a) st'

/-- Without a throttle, what is in hand is brought at once. -/
theorem look_plain_brings (hon : st.On ch) (hth : st.throttle? = none) :
    ∃ answer st', s.look st = (answer, st') ∧ st'.On ch ∧
      st'.seen = some (ch.cell s).writes ∧ (st'.spent = true → s.isStopped = true) ∧
      s.Brings ch st answer st' := by
  obtain ⟨st', hlook, hon', hseen, hth'⟩ := look_plain (s := s) hon hth
  have hkept' : st'.kept = none := by rw [Stream.kept, hth']; rfl
  have hhand : s.inHand ch st = s.news ch st.seen := by
    rw [inHand, Stream.kept, hth]
    exact Option.or_none
  refine ⟨_, st', hlook, hon', hseen, fun h => ?_, ?_⟩
  · rw [Stream.spent, hth'] at h
    cases h
  · cases hnews : s.news ch st.seen with
    | none => exact .nothing (hhand.trans hnews) hkept'
    | some a =>
      refine .now (hhand.trans hnews) hkept' ?_
      rw [Stream.due, hth]
      exact Nat.zero_le _

/-- A throttle that takes a report keeps it over what it kept, unless it knows that none can come:
then there is none. -/
theorem absorb_report {th : Throttle Status} {report : Option Status} {ended : Bool}
    (hended : th.sourceEnded = true → ended = true ∧ report = none) :
    th.absorb report.toList ended =
      { th with kept := report.or th.kept, sourceEnded := ended } := by
  rw [Throttle.absorb]
  split
  next h =>
    obtain ⟨hstop, hnone⟩ := hended h
    rw [hnone, hstop, ← h]
    rfl
  next => cases report <;> rfl

/-- With a throttle, what is in hand is brought if a tick is due, and held else. -/
theorem look_throttled_brings (hon : st.On ch) {th : Throttle Status}
    (hth : st.throttle? = some th)
    (hspent : st.spent = true → s.isStopped = true ∧ s.news ch st.seen = none) :
    ∃ answer st', s.look st = (answer, st') ∧ st'.On ch ∧
      st'.seen = some (ch.cell s).writes ∧ (st'.spent = true → s.isStopped = true) ∧
      s.Brings ch st answer st' := by
  obtain ⟨report, hreport, answer, th', st', hpoll, hlook, hon', hseen, hth'⟩ :=
    look_throttled (s := s) hon hth
  have hhand : s.inHand ch st = (report.or th.kept).map .status := by
    rw [inHand, ← hreport, Stream.kept, hth, Option.map_or]
    rfl
  have hdue : st.due = th.due := by rw [Stream.due, hth]; rfl
  have hkept' : st'.kept = th'.kept.map .status := by rw [Stream.kept, hth']; rfl
  have habsorb : th.absorb report.toList s.isStopped =
      { th with kept := report.or th.kept, sourceEnded := s.isStopped } :=
    absorb_report fun hended => by
      obtain ⟨hstop, hnone⟩ := hspent (by rw [Stream.spent, hth]; exact hended)
      exact ⟨hstop, Option.map_eq_none_iff.1 (hreport.trans hnone)⟩
  have hspent' : th'.sourceEnded = s.isStopped →
      st'.spent = true → s.isStopped = true := fun h hst => by
    rw [Stream.spent, hth'] at hst
    exact h.symm.trans hst
  refine ⟨_, st', hlook, hon', hseen, ?_⟩
  cases hkept : report.or th.kept with
  | none =>
    rw [Throttle.poll_none (by rw [habsorb]; exact hkept), habsorb] at hpoll
    obtain ⟨rfl, rfl⟩ := Prod.mk.inj hpoll
    refine ⟨hspent' rfl, ?_⟩
    have hnothing : s.Brings ch st (if s.isStopped then .ended else .pending) st' :=
      .nothing (by rw [hhand, hkept]; rfl) (by rw [hkept', hkept]; rfl)
    cases hstop : s.isStopped <;> rw [hstop] at hnothing <;> exact hnothing
  | some a =>
    have habsorbed : (th.absorb report.toList s.isStopped).kept = some a := by
      rw [habsorb]
      exact hkept
    rcases Nat.lt_or_ge (s.now * Throttle.millisecond) th.due with hearly | hlate
    · rw [Throttle.poll_early habsorbed hearly, habsorb] at hpoll
      obtain ⟨rfl, rfl⟩ := Prod.mk.inj hpoll
      exact ⟨hspent' rfl, .later (by rw [hhand, hkept]; rfl) (by rw [hkept', hkept]; rfl)
        (hdue ▸ hearly)⟩
    · obtain ⟨due, hitem⟩ := Throttle.poll_due habsorbed hlate
      rw [hitem, habsorb] at hpoll
      obtain ⟨rfl, rfl⟩ := Prod.mk.inj hpoll
      exact ⟨hspent' rfl, .now (by rw [hhand, hkept]; rfl) (by rw [hkept']; rfl) (hdue ▸ hlate)⟩

/-- A look at a stream.  If its throttle knows that nothing more comes, that is so. -/
theorem look_brings (hon : st.On ch)
    (hspent : st.spent = true → s.isStopped = true ∧ s.news ch st.seen = none) :
    ∃ answer st', s.look st = (answer, st') ∧ st'.On ch ∧
      st'.seen = some (ch.cell s).writes ∧ (st'.spent = true → s.isStopped = true) ∧
      s.Brings ch st answer st' := by
  cases hth : st.throttle? with
  | none => exact look_plain_brings hon hth
  | some th => exact look_throttled_brings hon hth hspent

end Link

/-! ## Watches -/

/-- A client, and one who reads a stream of it. -/
structure Watch where
  instant : Instant
  stream : Stream
  /-- The place of the value that was current when the stream was subscribed to. -/
  since : Nat
  /-- The place of the newest value at the last look, if there was one. -/
  looked : Option Nat
  /-- What the stream yielded, each item with its place among all values. -/
  passed : List (Nat × Item)

namespace Watch

/-- What can happen to a watch. -/
inductive Act where
  | happens (e : Happening)
  /-- The stream is polled. -/
  | look
  deriving DecidableEq, Repr

/-- Someone subscribes to a channel at an instant. -/
def start (ch : Channel) (i : Instant) : Watch :=
  ⟨i, i.link.subscribe ch.topic, (ch.values i.views).length - 1, none, []⟩

/-- All values that were published by now. -/
def values (w : Watch) (ch : Channel) : List (Option Item) := ch.values w.instant.views

/-- The place of the newest value. -/
def newest (w : Watch) (ch : Channel) : Nat := (w.values ch).length - 1

/-- What a look brings now. -/
def answer (w : Watch) : Poll Item := (w.instant.link.look w.stream).1

/-- Whether the client has stopped. -/
def isStopped (w : Watch) : Bool := w.instant.link.isStopped

/-- The places of the items that were yielded. -/
def places (w : Watch) : List Nat := w.passed.map Prod.fst

/-- The watch after one more act. -/
def act (ch : Channel) (w : Watch) : Act → Watch
  | .happens e => { w with instant := w.instant.happen e }
  | .look =>
    { w with
      stream := (w.instant.link.look w.stream).2
      looked := some (w.newest ch)
      passed :=
        match w.answer with
        | .item a => w.passed ++ [(w.newest ch, a)]
        | _ => w.passed }

/-- The watch after all that happened. -/
def run (ch : Channel) (w : Watch) (acts : List Act) : Watch := acts.foldl (act ch) w

/-- What was read last is held or was yielded. -/
structure Kept (hub : Hub) (ch : Channel) (w : Watch) : Prop where
  reached : w.instant.Reached hub
  on : w.stream.On ch
  looked : w.looked = w.stream.seen
  since : w.since < (w.values ch).length
  placed : ∀ y ∈ w.passed, w.since ≤ y.1 ∧ (w.values ch)[y.1]? = some (some y.2)
  once : w.places.Pairwise (· < ·)
  /-- Before the first look there is nothing. -/
  fresh : w.stream.seen = none → w.passed = [] ∧ w.stream.kept = none
  seen : ∀ p, w.stream.seen = some p → p < (w.values ch).length ∧ ∀ y ∈ w.passed, y.1 ≤ p
  held : ∀ p a, w.stream.seen = some p → w.stream.kept = some a →
    (w.values ch)[p]? = some (some a) ∧ ∀ y ∈ w.passed, y.1 < p
  free : ∀ p a, w.stream.seen = some p → w.stream.kept = none →
    (w.values ch)[p]? = some (some a) → w.passed.getLast? = some (p, a)
  /-- A throttle knows that nothing more comes only after it has taken everything. -/
  spent : w.stream.spent = true → w.isStopped = true ∧ w.stream.seen = some (w.newest ch)

variable {hub : Hub} {ch : Channel} {w : Watch}

theorem on_subscribe (s : Link) : (s.subscribe ch.topic).On ch := by
  cases ch with
  | models => exact .models none
  | states => exact .states none
  | statuses rate => exact .statuses rate none Option.isSome_map

theorem kept_start {i : Instant} (h : i.Reached hub) : (start ch i).Kept hub ch := by
  have hseen : (i.link.subscribe ch.topic).seen = none := by cases ch <;> rfl
  have hth : ∀ th, (i.link.subscribe ch.topic).throttle? = some th →
      th.kept = none ∧ th.sourceEnded = false := by
    intro th hth
    cases ch with
    | models => cases hth
    | states => cases hth
    | statuses rate =>
      obtain ⟨ns, -, rfl⟩ := Option.map_eq_some_iff.1 hth
      exact ⟨rfl, rfl⟩
  have hkept : (start ch i).stream.kept = none := by
    show (i.link.subscribe ch.topic).kept = none
    rw [Stream.kept, Option.bind_eq_none_iff]
    intro th hsome
    rw [(hth th hsome).1]
    rfl
  have hunseen : ∀ p, (start ch i).stream.seen ≠ some p := fun p hp =>
    Option.some_ne_none p (hp.symm.trans hseen)
  constructor
  case reached => exact h
  case on => exact on_subscribe i.link
  case looked => exact hseen.symm
  case since => exact Nat.sub_lt Channel.values_pos Nat.one_pos
  case placed => exact fun _ hy => absurd hy List.not_mem_nil
  case once => exact .nil
  case fresh => exact fun _ => ⟨rfl, hkept⟩
  case seen => exact fun p hp => absurd hp (hunseen p)
  case held => exact fun p _ hp => absurd hp (hunseen p)
  case free => exact fun p _ hp => absurd hp (hunseen p)
  case spent =>
    intro hspent
    obtain ⟨th, hsome, hended⟩ := (Option.any_eq_true _ _).1 hspent
    exact absurd ((hth th hsome).2.symm.trans hended) Bool.false_ne_true

theorem values_pos (w : Watch) (ch : Channel) : 0 < (w.values ch).length := Channel.values_pos

/-- The newest value. -/
theorem getElem?_newest (w : Watch) (ch : Channel) :
    (w.values ch)[w.newest ch]? = (w.values ch).getLast? := List.getLast?_eq_getElem?.symm

/-- A client that has stopped remains so, and publishes nothing more. -/
theorem Kept.stopped_happen (k : w.Kept hub ch) (hstop : w.isStopped = true) (e : Happening) :
    (w.act ch (.happens e)).isStopped = true ∧
      (w.act ch (.happens e)).values ch = w.values ch := by
  rw [isStopped, Instant.isStopped_link] at hstop
  obtain ⟨hphase, hviews⟩ := k.reached.views_stopped (of_decide_eq_true hstop) e
  refine ⟨?_, congrArg ch.values hviews⟩
  rw [isStopped, Instant.isStopped_link]
  exact decide_eq_true hphase

/-- Whatever happens to the client, what was read remains as it was. -/
theorem Kept.happens (k : w.Kept hub ch) (e : Happening) : (w.act ch (.happens e)).Kept hub ch := by
  obtain ⟨rest, hgrow⟩ : w.values ch <+: (w.act ch (.happens e)).values ch :=
    Channel.values_prefix (k.reached.views_grow e)
  have hlength : (w.values ch).length ≤ ((w.act ch (.happens e)).values ch).length := by
    rw [← hgrow, List.length_append]
    exact Nat.le_add_right _ _
  have hat {p : Nat} (hp : p < (w.values ch).length) :
      ((w.act ch (.happens e)).values ch)[p]? = (w.values ch)[p]? := by
    rw [← hgrow, List.getElem?_append_left hp]
  constructor
  case reached => exact k.reached.happen e
  case on => exact k.on
  case looked => exact k.looked
  case since => exact Nat.lt_of_lt_of_le k.since hlength
  case placed =>
    intro y hy
    obtain ⟨hsince, hplace⟩ := k.placed y hy
    exact ⟨hsince, (hat (List.getElem?_eq_some_iff.1 hplace).1).trans hplace⟩
  case once => exact k.once
  case fresh => exact k.fresh
  case seen => exact fun p hp => ⟨Nat.lt_of_lt_of_le (k.seen p hp).1 hlength, (k.seen p hp).2⟩
  case held =>
    intro p a hp ha
    exact ⟨(hat (k.seen p hp).1).trans (k.held p a hp ha).1, (k.held p a hp ha).2⟩
  case free =>
    exact fun p a hp hnone ha => k.free p a hp hnone ((hat (k.seen p hp).1).symm.trans ha)
  case spent =>
    intro hspent
    obtain ⟨hstop, hseen⟩ := k.spent hspent
    obtain ⟨hstop', hvalues⟩ := k.stopped_happen hstop e
    refine ⟨hstop', hseen.trans ?_⟩
    rw [newest, newest, hvalues]

theorem Kept.cell (k : w.Kept hub ch) :
    ch.cell w.instant.link = ⟨(w.values ch).getLast?.join, w.newest ch⟩ :=
  Channel.cell_eq k.reached.cells_link

/-- The news are the newest value, unless that was read. -/
theorem Kept.news (k : w.Kept hub ch) :
    w.instant.link.news ch w.stream.seen =
      if w.stream.seen = some (w.newest ch) then none else (w.values ch).getLast?.join := by
  rw [Link.news_eq, k.cell]

/-- What is in hand is the newest value, and it was not yielded. -/
theorem Kept.of_hand (k : w.Kept hub ch) {a : Item}
    (h : w.instant.link.inHand ch w.stream = some a) :
    (w.values ch).getLast? = some (some a) ∧ ∀ y ∈ w.passed, y.1 < w.newest ch := by
  rw [Link.inHand, k.news] at h
  by_cases hseen : w.stream.seen = some (w.newest ch)
  case pos =>
    rw [if_pos hseen, Option.none_or] at h
    rw [← w.getElem?_newest]
    exact k.held _ a hseen h
  case neg =>
    rw [if_neg hseen] at h
    have hearlier : ∀ p, w.stream.seen = some p → p < w.newest ch := by
      intro p hp
      have hlt := (k.seen p hp).1
      have hne : p ≠ w.newest ch := fun he => hseen (he ▸ hp)
      rw [newest] at hne ⊢
      omega
    have hpassed : ∀ y ∈ w.passed, y.1 < w.newest ch := by
      intro y hy
      cases hp : w.stream.seen with
      | none => exact absurd hy ((k.fresh hp).1 ▸ List.not_mem_nil)
      | some p => exact Nat.lt_of_le_of_lt ((k.seen p hp).2 y hy) (hearlier p hp)
    refine ⟨?_, hpassed⟩
    cases hp : w.stream.seen with
    | none =>
      rw [(k.fresh hp).2, Option.or_none] at h
      exact Option.join_eq_some_iff.1 h
    | some p =>
      -- There is a newer value than the one that was read, and no value is missing there.
      obtain ⟨b, hb⟩ : ∃ b, (w.values ch)[w.newest ch]? = some (some b) :=
        Channel.exists_value (Nat.zero_lt_of_lt (hearlier p hp))
          (Nat.sub_lt (w.values_pos ch) Nat.one_pos)
      have hlast : (w.values ch).getLast? = some (some b) := (w.getElem?_newest ch).symm.trans hb
      rw [hlast] at h ⊢
      exact congrArg some h

/-- With nothing in hand, the newest value was yielded last. -/
theorem Kept.of_idle (k : w.Kept hub ch) (h : w.instant.link.inHand ch w.stream = none) {a : Item}
    (ha : (w.values ch).getLast? = some (some a)) :
    w.passed.getLast? = some (w.newest ch, a) := by
  rw [Link.inHand, k.news, Option.or_eq_none_iff] at h
  obtain ⟨hnews, hkept⟩ := h
  by_cases hseen : w.stream.seen = some (w.newest ch)
  case pos => exact k.free _ a hseen hkept ((w.getElem?_newest ch).trans ha)
  case neg =>
    rw [if_neg hseen, ha] at hnews
    cases hnews

/-- What a look brings. -/
theorem Kept.brings (k : w.Kept hub ch) :
    (w.act ch .look).stream.On ch ∧ (w.act ch .look).stream.seen = some (w.newest ch) ∧
      ((w.act ch .look).stream.spent = true → w.isStopped = true) ∧
      w.instant.link.Brings ch w.stream w.answer (w.act ch .look).stream := by
  obtain ⟨answer, st', hlook, hon, hseen, hspent, hbrings⟩ :=
    Link.look_brings (s := w.instant.link) k.on fun h => by
      obtain ⟨hstop, hseen⟩ := k.spent h
      exact ⟨hstop, by rw [k.news, if_pos hseen]⟩
  have hanswer : w.answer = answer := congrArg Prod.fst hlook
  have hstream : (w.act ch .look).stream = st' := congrArg Prod.snd hlook
  rw [hstream, hanswer]
  rw [k.cell] at hseen
  exact ⟨hon, hseen, hspent, hbrings⟩

/-- A look keeps what the invariant says, once that is known of what it yields and holds. -/
theorem Kept.looks_of (k : w.Kept hub ch) {passed : List (Nat × Item)}
    (hpassed : (w.act ch .look).passed = passed)
    (hplaced : ∀ y ∈ passed, w.since ≤ y.1 ∧ (w.values ch)[y.1]? = some (some y.2))
    (honce : (passed.map Prod.fst).Pairwise (· < ·))
    (hheld : ∀ a, (w.act ch .look).stream.kept = some a →
      (w.values ch).getLast? = some (some a) ∧ ∀ y ∈ passed, y.1 < w.newest ch)
    (hfree : (w.act ch .look).stream.kept = none →
      ∀ a, (w.values ch).getLast? = some (some a) → passed.getLast? = some (w.newest ch, a)) :
    (w.act ch .look).Kept hub ch := by
  obtain ⟨hon, hseen, hspent, -⟩ := k.brings
  subst hpassed
  have hplace {p : Nat} (hp : (w.act ch .look).stream.seen = some p) : p = w.newest ch :=
    Option.some.inj (hp.symm.trans hseen)
  constructor
  case reached => exact k.reached
  case on => exact hon
  case looked => exact hseen.symm
  case since => exact k.since
  case placed => exact hplaced
  case once => exact honce
  case fresh => exact fun h => absurd (hseen.symm.trans h) (Option.some_ne_none _)
  case seen =>
    intro p hp
    rw [hplace hp]
    refine ⟨Nat.sub_lt (w.values_pos ch) Nat.one_pos, fun y hy => ?_⟩
    exact Nat.le_sub_one_of_lt (List.getElem?_eq_some_iff.1 (hplaced y hy).2).1
  case held =>
    intro p a hp ha
    rw [hplace hp]
    exact ⟨(w.getElem?_newest ch).trans (hheld a ha).1, (hheld a ha).2⟩
  case free =>
    intro p a hp hnone ha
    rw [hplace hp] at ha ⊢
    exact hfree hnone a ((w.getElem?_newest ch).symm.trans ha)
  case spent => exact fun h => ⟨hspent h, hseen⟩

theorem passed_of_answer (h : ∀ a, w.answer ≠ .item a) : (w.act ch .look).passed = w.passed := by
  show (match w.answer with | .item a => _ | _ => _) = _
  split
  next a ha => exact absurd ha (h a)
  next => rfl

theorem passed_of_item {a : Item} (h : w.answer = .item a) :
    (w.act ch .look).passed = w.passed ++ [(w.newest ch, a)] := by
  show (match w.answer with | .item a => _ | _ => _) = _
  rw [h]

theorem Kept.looks (k : w.Kept hub ch) : (w.act ch .look).Kept hub ch := by
  obtain ⟨-, -, -, hbrings⟩ := k.brings
  generalize hanswer : w.answer = answer at hbrings
  cases hbrings with
  | nothing hand kept =>
    have hpassed : (w.act ch .look).passed = w.passed :=
      passed_of_answer fun a ha => by
        rw [ha] at hanswer
        split at hanswer <;> cases hanswer
    exact k.looks_of hpassed k.placed k.once
      (fun a ha => absurd (ha.symm.trans kept) (Option.some_ne_none a))
      (fun _ a ha => k.of_idle hand ha)
  | later hand kept early =>
    have hpassed : (w.act ch .look).passed = w.passed :=
      passed_of_answer fun a ha => nomatch ha.symm.trans hanswer
    refine k.looks_of hpassed k.placed k.once (fun a ha => ?_)
      (fun hnone => absurd (kept.symm.trans hnone) (Option.some_ne_none _))
    rw [← Option.some.inj (kept.symm.trans ha)]
    exact k.of_hand hand
  | @now _ a hand kept due =>
    obtain ⟨hlast, hlower⟩ := k.of_hand hand
    refine k.looks_of (passed_of_item hanswer) (fun y hy => ?_) ?_
      (fun b hb => absurd (hb.symm.trans kept) (Option.some_ne_none b)) (fun _ b hb => ?_)
    · rw [List.mem_append, List.mem_singleton] at hy
      obtain hy | rfl := hy
      · exact k.placed y hy
      · exact ⟨Nat.le_sub_one_of_lt k.since, (w.getElem?_newest ch).trans hlast⟩
    · rw [List.map_append, List.pairwise_append]
      refine ⟨k.once, List.pairwise_singleton .., fun p hp q hq => ?_⟩
      obtain ⟨y, hy, rfl⟩ := List.mem_map.1 hp
      rw [List.mem_singleton.1 hq]
      exact hlower y hy
    · rw [List.getLast?_concat, Option.some.inj (Option.some.inj (hlast.symm.trans hb))]

/-- Whatever happens, what was read last is held or was yielded. -/
theorem Kept.act (k : w.Kept hub ch) (a : Act) : (w.act ch a).Kept hub ch := by
  cases a with
  | happens e => exact k.happens e
  | look => exact k.looks

theorem Kept.run (k : w.Kept hub ch) (acts : List Act) : (w.run ch acts).Kept hub ch := by
  induction acts generalizing w with
  | nil => exact k
  | cons a acts ih => exact ih (k.act a)

/-- The end is told once the client has stopped and nothing is in hand. -/
theorem Kept.answer_ended_iff (k : w.Kept hub ch) :
    w.answer = .ended ↔ w.isStopped = true ∧ w.instant.link.inHand ch w.stream = none := by
  obtain ⟨-, -, -, hbrings⟩ := k.brings
  generalize w.answer = answer at hbrings
  cases hbrings with
  | nothing hand kept =>
    rw [hand, and_iff_left rfl, isStopped]
    split
    · exact iff_of_true rfl ‹_›
    · exact iff_of_false (fun h => nomatch h) ‹_›
  | later hand kept early =>
    exact iff_of_false (fun h => nomatch h) fun h => nomatch hand.symm.trans h.2
  | now hand kept due =>
    exact iff_of_false (fun h => nomatch h) fun h => nomatch hand.symm.trans h.2

/-- After a look that holds nothing back, nothing is in hand. -/
theorem Kept.idle_look (k : w.Kept hub ch) (h : (w.act ch .look).stream.kept = none) :
    (w.act ch .look).instant.link.inHand ch (w.act ch .look).stream = none := by
  have hnewest : (w.act ch .look).newest ch = w.newest ch := rfl
  rw [Link.inHand, k.looks.news, h, hnewest, if_pos k.brings.2.1]
  rfl

/-- The end is for ever. -/
theorem Kept.ended_act (k : w.Kept hub ch) (h : w.answer = .ended) (a : Act) :
    (w.act ch a).answer = .ended ∧ (w.act ch a).passed = w.passed := by
  obtain ⟨hstop, hhand⟩ := k.answer_ended_iff.1 h
  cases a with
  | happens e =>
    obtain ⟨hstop', hvalues⟩ := k.stopped_happen hstop e
    refine ⟨(k.happens e).answer_ended_iff.2 ⟨hstop', ?_⟩, rfl⟩
    rw [Link.inHand, k.news] at hhand
    rw [Link.inHand, (k.happens e).news, newest, hvalues]
    exact hhand
  | look =>
    have hkept : (w.act ch .look).stream.kept = none := by
      obtain ⟨-, -, -, hbrings⟩ := k.brings
      rw [h] at hbrings
      generalize hanswer : Poll.ended = answer at hbrings
      cases hbrings with
      | nothing hand kept => exact kept
      | later hand kept early => cases hanswer
      | now hand kept due => cases hanswer
    exact ⟨k.looks.answer_ended_iff.2 ⟨hstop, k.idle_look hkept⟩,
      passed_of_answer fun a ha => nomatch ha.symm.trans h⟩

theorem Kept.ended_run (k : w.Kept hub ch) (h : w.answer = .ended) (acts : List Act) :
    (w.run ch acts).answer = .ended ∧ (w.run ch acts).passed = w.passed := by
  induction acts generalizing w with
  | nil => exact ⟨h, rfl⟩
  | cons a acts ih =>
    obtain ⟨hended, hpassed⟩ := k.ended_act h a
    obtain ⟨hrest, hsame⟩ := ih (k.act a) hended
    exact ⟨hrest, hsame.trans hpassed⟩

/-- If a look holds nothing back and the client has stopped, the next one tells of the end. -/
theorem Kept.ended_look (k : w.Kept hub ch) (hstop : w.isStopped = true)
    (hdue : w.stream.due ≤ w.instant.link.now * Throttle.millisecond) :
    (w.act ch .look).answer = .ended := by
  refine k.looks.answer_ended_iff.2 ⟨hstop, k.idle_look ?_⟩
  obtain ⟨-, -, -, hbrings⟩ := k.brings
  generalize w.answer = answer at hbrings
  cases hbrings with
  | nothing hand kept => exact kept
  | later hand kept early => exact absurd hdue (Nat.not_le.2 early)
  | now hand kept due => exact kept

/-- What was published last is what the client believes in the end. -/
theorem Kept.final (k : w.Kept hub ch) (hstop : w.isStopped = true) :
    (w.values ch).getLast? = some (ch.current w.instant.life.link) ∧
      w.instant.life.link.state = .closed := by
  rw [isStopped, Instant.isStopped_link] at hstop
  have hphase : w.instant.life.link.phase = .stopped := of_decide_eq_true hstop
  obtain ⟨hstate, hmodel, hstatus⟩ := Snapshot.mk.inj k.reached.transparent.handles
  have hlast : (ch.cell w.instant.life.link).value = (w.values ch).getLast?.join := by
    rw [Channel.cell_eq k.reached.cells, values, k.reached.views_eq hphase]
  obtain ⟨v, hv⟩ : ∃ v, (w.values ch).getLast? = some v := ⟨_, List.getLast?_cons⟩
  refine ⟨?_, k.reached.sound.state.trans (congrArg Phase.shown hphase)⟩
  rw [hv] at hlast ⊢
  refine congrArg some (hlast.symm.trans ?_)
  cases ch with
  | models => exact congrArg (fun m => some (Item.model m)) hmodel
  | states => exact congrArg (fun l => some (Item.state l)) hstate
  | statuses rate => exact congrArg (Option.map Item.status) hstatus

/-- What is promised to one who reads a stream of newest values, at any instant. -/
structure Lawful (ch : Channel) (w : Watch) : Prop where
  /-- What was yielded are values that were published, from the one on that was current at the
  subscription, in their order and each at most once. -/
  placed : ∀ y ∈ w.passed, w.since ≤ y.1 ∧ (w.values ch)[y.1]? = some (some y.2)
  once : w.places.Pairwise (· < ·)
  inOrder : (w.passed.map fun y => some y.2).Sublist ((w.values ch).drop w.since)
  /-- What a look yields is the newest value, and it was not yielded before. -/
  newest : ∀ a, w.answer = .item a →
    (w.values ch).getLast? = some (some a) ∧ w.newest ch ∉ w.places
  /-- Without a rate, a look yields the newest value if that was written since the previous look,
  and the first look yields the value that is current; if no report came, there is none. -/
  prompt : ch.interval? = none → w.answer =
    .ofNews (if w.looked = some (w.newest ch) then none else (w.values ch).getLast?.join)
      w.isStopped
  /-- A look yields nothing only if the newest value was yielded last, or no tick is due. -/
  idle : w.answer = .pending → ∀ a, (w.values ch).getLast? = some (some a) →
    w.passed.getLast? = some (w.newest ch, a) ∨
      w.instant.link.now * Throttle.millisecond < w.stream.due
  /-- The end comes once the client has stopped and the last value was yielded. -/
  last : w.answer = .ended → w.isStopped = true ∧
    ∀ a, (w.values ch).getLast? = some (some a) → w.passed.getLast? = some (w.newest ch, a)
  forever : w.answer = .ended → ∀ acts,
    (w.run ch acts).answer = .ended ∧ (w.run ch acts).passed = w.passed
  /-- The last value is what the client believes in the end; the connection is closed. -/
  final : w.isStopped = true →
    (w.values ch).getLast? = some (ch.current w.instant.life.link) ∧
      w.instant.life.link.state = .closed ∧
      ∀ e, (w.act ch (.happens e)).isStopped = true ∧
        (w.act ch (.happens e)).values ch = w.values ch
  /-- Of a client that has stopped the end is reached by one more look, when a tick is due. -/
  finishes : w.isStopped = true → ∃ least, ∀ wait ≥ least,
    (w.run ch [.happens .ends, .happens (.begins (.pass wait)), .happens .ends, .look]).answer =
      .ended

/-- What was yielded is a part of what was published, in its order. -/
theorem Kept.inOrder (k : w.Kept hub ch) :
    (w.passed.map fun y => some y.2).Sublist ((w.values ch).drop w.since) := by
  have hplaced : ∀ z ∈ w.passed.map fun y => (y.1 - w.since, some y.2),
      ((w.values ch).drop w.since)[z.1]? = some z.2 := by
    intro z hz
    obtain ⟨y, hy, rfl⟩ := List.mem_map.1 hz
    obtain ⟨hsince, hplace⟩ := k.placed y hy
    rw [List.getElem?_drop, Nat.add_sub_cancel' hsince]
    exact hplace
  have hordered : ((w.passed.map fun y => (y.1 - w.since, some y.2)).map Prod.fst).Pairwise
      (· < ·) := by
    rw [List.map_map, List.pairwise_map]
    refine (List.pairwise_map.1 k.once).imp_of_mem fun {y z} hy _ hlt => ?_
    exact Nat.sub_lt_sub_right (k.placed y hy).1 hlt
  have hsub := sublist_of_placed hplaced hordered
  rw [List.map_map] at hsub
  exact hsub

/-- Without a throttle nothing is held back. -/
theorem Kept.prompt (k : w.Kept hub ch) (h : ch.interval? = none) : w.answer =
    .ofNews (if w.looked = some (w.newest ch) then none else (w.values ch).getLast?.join)
      w.isStopped := by
  have hth : w.stream.throttle? = none := by
    rw [← Option.isNone_iff_eq_none, ← Option.not_isSome, k.on.capped, h]
    rfl
  obtain ⟨st', hlook, -⟩ := Link.look_plain (s := w.instant.link) k.on hth
  rw [answer, hlook, k.news, ← k.looked]
  rfl

/-- Once a client has stopped, one look with a tick due is enough to reach the end. -/
theorem Kept.finishes (k : w.Kept hub ch) (hstop : w.isStopped = true) : ∃ least, ∀ wait ≥ least,
    (w.run ch [.happens .ends, .happens (.begins (.pass wait)), .happens .ends, .look]).answer =
      .ended := by
  refine ⟨w.stream.due, fun wait hwait => ?_⟩
  have hended := (k.stopped_happen hstop .ends).1
  have hbegun := ((k.happens .ends).stopped_happen hended (.begins (.pass wait))).1
  have hpassed := (((k.happens .ends).happens (.begins (.pass wait))).stopped_happen hbegun .ends).1
  refine (((k.happens .ends).happens (.begins (.pass wait))).happens .ends).ended_look hpassed ?_
  have hrest : (w.instant.happen .ends).underway = none := by
    obtain ⟨⟨life, _ | u⟩, -⟩ := w <;> rfl
  show w.stream.due ≤
    (((w.instant.happen .ends).happen (.begins (.pass wait))).happen .ends).link.now * _
  generalize w.instant.happen .ends = i at hrest
  obtain ⟨life, underway⟩ := i
  cases hrest
  show w.stream.due ≤ (life.link.now + wait) * Throttle.millisecond
  calc w.stream.due ≤ life.link.now + wait := Nat.le_add_left_of_le hwait
    _ ≤ (life.link.now + wait) * Throttle.millisecond :=
      Nat.le_mul_of_pos_right _ (by decide)

theorem Kept.lawful (k : w.Kept hub ch) : w.Lawful ch where
  placed := k.placed
  once := k.once
  inOrder := k.inOrder
  newest := fun a ha => by
    obtain ⟨-, -, -, hbrings⟩ := k.brings
    rw [ha] at hbrings
    generalize hanswer : Poll.item a = answer at hbrings
    cases hbrings with
    | nothing hand kept => split at hanswer <;> cases hanswer
    | later hand kept early => cases hanswer
    | now hand kept due =>
      cases hanswer
      obtain ⟨hlast, hlower⟩ := k.of_hand hand
      refine ⟨hlast, fun hmem => ?_⟩
      obtain ⟨y, hy, hplace⟩ := List.mem_map.1 hmem
      exact absurd hplace (Nat.ne_of_lt (hlower y hy))
  prompt := k.prompt
  idle := fun h a ha => by
    obtain ⟨-, -, -, hbrings⟩ := k.brings
    rw [h] at hbrings
    generalize hanswer : Poll.pending = answer at hbrings
    cases hbrings with
    | nothing hand kept => exact .inl (k.of_idle hand ha)
    | later hand kept early => exact .inr early
    | now hand kept due => cases hanswer
  last := fun h =>
    ⟨(k.answer_ended_iff.1 h).1, fun _ ha => k.of_idle (k.answer_ended_iff.1 h).2 ha⟩
  forever := k.ended_run
  final := fun h => ⟨(k.final h).1, (k.final h).2, k.stopped_happen h⟩
  finishes := k.finishes

/-- **The law of streams**: whoever subscribes to the models, the states or the reports of a client,
at any instant, and looks at any instants after that, never goes back, is never out of date, and
does not miss the last value. -/
theorem streams_lawful (terms : Terms) (script : List Attempt) (hub : Hub) (hs : List Happening)
    (ch : Channel) (acts : List Act) :
    ((start ch (Instant.of terms script hub hs)).run ch acts).Lawful ch :=
  ((kept_start (Instant.reached terms script hub hs)).run acts).lawful

end Watch
end RaceLink
