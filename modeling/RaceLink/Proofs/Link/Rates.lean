import RaceLink.Link.Script
import RaceLink.Proofs.Decimal.Reciprocal

/-!
# Rates

The time between two deliveries is the reciprocal of a rate, rounded twice: as a float, and then to
whole nanoseconds.  The first rounding is so fine that it does no harm: what comes out is as near to
the reciprocal as any number of nanoseconds.  But of a rate of more than two in a nanosecond nothing
is left, and for that there is no throttle.

* `Rate.nearest_interval` — the interval is the nearest one, whatever the rate.
* `Rate.interval_pos_iff` — which intervals are empty.
* `Rate.Lawful`, `Rate.rate_lawful` — **what becomes of a rate**, for every rate and every client.
* `Rate.fastest_unusable` — a rate at which reports cannot be had.
* `Scene.breaks_iff` — which steps of a script break off.
-/

set_option autoImplicit false

namespace RaceLink

open Decimal

namespace Rate

/-! ## Intervals -/

/-- The second rounding. -/
theorem nearest_nanoseconds {x : Float} {negative : Bool} {b : Binary}
    (hx : Binary.ofFloat? x = some (negative, b)) (hexponent : b.exponent ≤ 0) :
    Nearest (nanoseconds x) (b.mantissa * second) (2 ^ (-b.exponent).toNat) := by
  have hwhole : b.mantissa * second * Nat.pow 2 b.exponent.toNat = b.mantissa * second := by
    rw [Int.toNat_of_nonpos hexponent]
    exact Nat.mul_one _
  have hden : 0 < Nat.pow 2 (-b.exponent).toNat := Nat.two_pow_pos _
  simp only [nanoseconds, hx, hwhole]
  show Nearest _ _ (Nat.pow 2 (-b.exponent).toNat)
  split
  · exact .floor (by omega)
  · split
    · exact .ceil hden (by omega)
    · split
      · exact .floor (by omega)
      · exact .ceil hden (by omega)

variable {hertz hertz' : UInt32} {ns ns' : Nat}

/-- **The interval of a rate** is as near to its reciprocal as any number of nanoseconds. -/
theorem nearest_interval (h : (atMost hertz).interval? = some ns) :
    Nearest ns second hertz.toNat := by
  rw [interval?] at h
  split at h
  case isTrue => cases h
  case isFalse hzero =>
    obtain rfl := Option.some.inj h
    have hpos : hertz.toNat ≠ 0 := fun hnone => hzero (UInt32.toNat_inj.1 hnone)
    have hbound : hertz.toNat < 2 ^ 32 := hertz.toNat_lt
    obtain ⟨hlow, hhigh⟩ := (Nat.log2_eq_iff hpos).1 rfl
    have hlog : hertz.toNat.log2 < 32 := (Nat.log2_lt hpos).2 hbound
    obtain ⟨b, r, hfloat, hfine, hexponent, hvalue⟩ :=
      ofFloat?_reciprocal hertz.toUInt64 hlow hhigh (by omega)
    have hnear := nearest_nanoseconds hfloat hexponent
    -- over the finer of the two denominators
    have hfiner : Nearest (nanoseconds (1.0 / hertz.toUInt64.toFloat)) (r * second)
        (2 ^ (hertz.toNat.log2 + 53)) := by
      have hscaled := (Nearest.scale (Nat.two_pow_pos (hertz.toNat.log2 + 53))).2 hnear
      rw [Nat.mul_right_comm, hvalue, Nat.mul_right_comm, Nat.mul_comm (2 ^ _) (2 ^ _)] at hscaled
      exact (Nearest.scale (Nat.two_pow_pos _)).1 hscaled
    refine hfine.trans hfiner ?_
    calc hertz.toNat * second
        < 2 ^ (hertz.toNat.log2 + 1) * second := Nat.mul_lt_mul_of_pos_right hhigh (by decide)
      _ ≤ 2 ^ (hertz.toNat.log2 + 1) * 2 ^ 52 := Nat.mul_le_mul_left _ (by decide)
      _ = 2 ^ (hertz.toNat.log2 + 53) := by rw [← Nat.pow_add]

/-- Nothing is left of an interval of less than half a nanosecond, and of no other. -/
theorem interval_pos_iff (h : (atMost hertz).interval? = some ns) :
    0 < ns ↔ hertz.toNat ≤ 2 * second := by
  obtain ⟨hupper, hlower⟩ := nearest_interval h
  constructor
  · intro hpos
    have hle : hertz.toNat ≤ ns * hertz.toNat := Nat.le_mul_of_pos_left _ hpos
    omega
  · intro hslow
    refine Nat.pos_of_ne_zero fun hnone => ?_
    rw [hnone, Nat.zero_mul] at hlower
    -- half a nanosecond is left, and the float is rounded up
    have htop : (2000000000 : UInt32).toNat = 2 * second := rfl
    have hhalf : hertz = 2000000000 := UInt32.toNat_inj.1 (by omega)
    have hone : (atMost 2000000000).interval? = some 1 := by decide +kernel
    rw [hhalf, hone, hnone] at h
    cases h

/-- A larger rate never leads to a longer interval. -/
theorem interval_anti (hle : hertz ≤ hertz') (h : (atMost hertz).interval? = some ns)
    (h' : (atMost hertz').interval? = some ns') : ns' ≤ ns := by
  rcases Nat.lt_or_eq_of_le (UInt32.le_iff_toNat_le.1 hle) with hlt | heq
  · exact (nearest_interval h).anti (nearest_interval h') hlt
  · rw [UInt32.toNat_inj.1 heq, h'] at h
    exact Nat.le_of_eq (Option.some.inj h)

theorem interval?_eq_none_iff {rate : Rate} :
    rate.interval? = none ↔ rate = unlimited ∨ rate = atMost 0 := by
  cases rate with
  | unlimited => exact iff_of_true rfl (.inl rfl)
  | atMost hertz =>
    rw [interval?, ite_eq_left_iff]
    simp

/-- The rates at which no time is left between two deliveries. -/
theorem interval?_eq_zero_iff {rate : Rate} :
    rate.interval? = some 0 ↔ ∃ hertz, rate = atMost hertz ∧ 2 * second < hertz.toNat := by
  constructor
  · intro hempty
    cases rate with
    | unlimited => cases hempty
    | atMost hertz =>
      have hpos := interval_pos_iff hempty
      exact ⟨hertz, rfl, by omega⟩
  · rintro ⟨hertz, rfl, hfast⟩
    cases hinterval : (atMost hertz).interval? with
    | none =>
      obtain hnone | hzero := interval?_eq_none_iff.1 hinterval
      · cases hnone
      · obtain rfl := atMost.inj hzero
        cases hfast
    | some ns =>
      have hpos := interval_pos_iff hinterval
      rw [Option.some_inj]
      omega

/-! ## Streams of reports -/

/-- Reports can be had at every rate but one whose interval is empty. -/
theorem statuses?_eq (s : Link) (rate : Rate) :
    s.statuses? rate = if rate.interval? = some 0 then none else some (s.statuses rate) := by
  rw [Link.statuses?, Link.statuses]
  cases rate.interval? with
  | none => rfl
  | some ns =>
    cases ns with
    | zero => rfl
    | succ ns => rfl

theorem statuses?_eq_none_iff {s : Link} {rate : Rate} : s.statuses? rate = none ↔
    ∃ hertz, rate = atMost hertz ∧ 2 * second < hertz.toNat := by
  rw [← interval?_eq_zero_iff, statuses?_eq, ite_eq_left_iff]
  exact ⟨fun h => by_contra fun hleft => Option.some_ne_none _ (h hleft),
    fun h hleft => absurd h hleft⟩

/-- What becomes of a rate. -/
structure Lawful (rate : Rate) : Prop where
  /-- There is no limit if none is asked for; nothing per second stands for no limit. -/
  unlimited : rate.interval? = none ↔ rate = unlimited ∨ rate = atMost 0
  /-- The interval is the nearest number of nanoseconds. -/
  nearest : ∀ hertz ns, rate = atMost hertz → rate.interval? = some ns →
    Nearest ns second hertz.toNat
  /-- It is not empty as long as the rate is not more than two in a nanosecond. -/
  positive : ∀ hertz ns, rate = atMost hertz → rate.interval? = some ns →
    (0 < ns ↔ hertz.toNat ≤ 2 * second)
  /-- A larger rate never leads to a longer interval. -/
  faster : ∀ hertz hertz' ns ns', rate = atMost hertz → hertz ≤ hertz' →
    rate.interval? = some ns → (atMost hertz').interval? = some ns' → ns' ≤ ns
  /-- Reports can be had at every rate that is not more than two in a nanosecond, and at no
  other. -/
  refused : ∀ s : Link, s.statuses? rate = none ↔
    ∃ hertz, rate = atMost hertz ∧ 2 * second < hertz.toNat
  served : ∀ (s : Link) (stream : Stream), s.statuses? rate = some stream →
    stream = s.statuses rate

/-- **What becomes of a rate**, whatever it is and whichever client it is for. -/
theorem rate_lawful (rate : Rate) : rate.Lawful where
  unlimited := interval?_eq_none_iff
  nearest := fun hertz ns hrate h => nearest_interval (hrate ▸ h)
  positive := fun hertz ns hrate h => interval_pos_iff (hrate ▸ h)
  faster := fun hertz hertz' ns ns' hrate hle h h' => interval_anti hle (hrate ▸ h) h'
  refused := fun _ => statuses?_eq_none_iff
  served := fun s stream h => by
    rw [statuses?_eq] at h
    split at h
    · cases h
    · exact (Option.some.inj h).symm

/-- The largest rate of all leaves no time between two deliveries: reports cannot be had at it. -/
theorem fastest_unusable :
    (atMost 4294967295).interval? = some 0 ∧
      (Link.start ⟨0, 0, false⟩ [] (Hub.make 0)).statuses? (atMost 4294967295) = none := by
  have hempty : (atMost 4294967295).interval? = some 0 := by decide +kernel
  refine ⟨hempty, ?_⟩
  rw [statuses?_eq, if_pos hempty]

end Rate

namespace Scene

theorem subscribe?_eq_none_iff {s : Link} {topic : Topic} : s.subscribe? topic = none ↔
    ∃ hertz, topic = .statuses (.atMost hertz) ∧ 2 * Rate.second < hertz.toNat := by
  cases topic with
  | statuses rate =>
    rw [Link.subscribe?, Rate.statuses?_eq_none_iff]
    simp only [Topic.statuses.injEq]
  | notices | models | states => exact iff_of_false nofun nofun

/-- A script breaks off exactly where reports are asked for at too large a rate. -/
theorem breaks_iff {c : Scene} {step : Step} :
    c.breaks step = true ↔ ∃ actions asks hertz, step = .batch actions asks ∧
      .subscribe (.statuses (.atMost hertz)) ∈ actions ∧ 2 * Rate.second < hertz.toNat := by
  cases step with
  | sleep _ | poll _ => exact iff_of_false nofun nofun
  | batch actions asks =>
    rw [breaks, List.any_eq_true]
    constructor
    · rintro ⟨a, ha, hnone⟩
      cases a with
      | subscribe topic =>
        obtain ⟨hertz, rfl, hfast⟩ := subscribe?_eq_none_iff.1 (Option.isNone_iff_eq_none.1 hnone)
        exact ⟨actions, asks, hertz, rfl, ha, hfast⟩
      | _ => cases hnone
    · rintro ⟨_, _, hertz, hstep, ha, hfast⟩
      obtain ⟨rfl, rfl⟩ := Step.batch.inj hstep
      exact ⟨_, ha, Option.isNone_iff_eq_none.2 (subscribe?_eq_none_iff.2 ⟨hertz, rfl, hfast⟩)⟩

end Scene
end RaceLink
