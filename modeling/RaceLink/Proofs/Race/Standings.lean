import Mathlib.Data.List.Nodup
import RaceLink.Race.Model

/-!
# Standings

What a display shows of a race is worked out from the laps each time: the fastest lap, the time of
the last one, and the table.  A lap without a time is in the table but takes no part otherwise, and
of laps that are equally fast only the first one counts.

* `Model.Fastest`, `Model.Newest` — a place in a list of laps, said without a search.
* `Model.fastest_of_bestFrom`, `Model.best?_eq_some_iff` — the search finds the fastest lap.
* `Model.rows_eq` — the table, line by line.
* `Model.Shown`, `Model.shown_faithfully` — **a display agrees with the laps**, for every model.
-/

set_option autoImplicit false

namespace RaceLink
namespace Model

/-! ## The fastest lap -/

/-- The place of the fastest lap that has a time; of equally fast ones the first. -/
structure Fastest (laps : List Lap) (i : Nat) (lap : Lap) : Prop where
  held : laps[i]? = some lap
  timed : 0 < lap.time
  fastest : ∀ other ∈ laps, 0 < other.time → lap.time ≤ other.time
  first : ∀ (j : Nat) (other : Lap), j < i → laps[j]? = some other → 0 < other.time →
    lap.time < other.time

namespace Fastest

variable {laps : List Lap} {lap best : Lap} {i j : Nat}

theorem here (timed : 0 < lap.time) (h : ∀ other ∈ laps, 0 < other.time → lap.time ≤ other.time) :
    Fastest (lap :: laps) 0 lap where
  held := rfl
  timed := timed
  fastest := List.forall_mem_cons.2 ⟨fun _ => UInt32.le_refl _, h⟩
  first := fun _ _ hj => absurd hj (Nat.not_lt_zero _)

theorem later (h : Fastest laps i best) (hlap : 0 < lap.time → best.time < lap.time) :
    Fastest (lap :: laps) (i + 1) best where
  held := h.held
  timed := h.timed
  fastest := List.forall_mem_cons.2 ⟨fun ht => UInt32.le_of_lt (hlap ht), h.fastest⟩
  first := fun k other hk hother ht => by
    cases k with
    | zero =>
      obtain rfl : lap = other := Option.some_inj.1 hother
      exact hlap ht
    | succ k => exact h.first k other (Nat.lt_of_succ_lt_succ hk) hother ht

/-- The first of two places cannot be slower than the second, nor as fast. -/
theorem not_lt {other : Lap} (h : Fastest laps i lap) (h' : Fastest laps j other) : ¬ i < j :=
  fun hij => UInt32.not_lt.2 (h.fastest other (List.mem_of_getElem? h'.held) h'.timed)
    (h'.first i lap hij h.held h.timed)

theorem unique {other : Lap} (h : Fastest laps i lap) (h' : Fastest laps j other) :
    i = j ∧ lap = other := by
  obtain rfl : i = j := Nat.le_antisymm (Nat.not_lt.1 (h'.not_lt h)) (Nat.not_lt.1 (h.not_lt h'))
  exact ⟨rfl, Option.some_inj.1 (h.held.symm.trans h'.held)⟩

end Fastest

/-- Nothing is found exactly if no lap has a time. -/
theorem bestFrom_eq_none_iff {place : Nat} {laps : List Lap} :
    bestFrom place laps = none ↔ ∀ lap ∈ laps, ¬ 0 < lap.time := by
  induction laps generalizing place with
  | nil => exact iff_of_true rfl fun _ h => absurd h List.not_mem_nil
  | cons lap rest ih =>
    rw [bestFrom, List.forall_mem_cons]
    by_cases timed : 0 < lap.time
    · rw [if_pos timed]
      refine iff_of_false (fun h => ?_) fun h => h.1 timed
      split at h <;> cases h
    · rw [if_neg timed, ih]
      exact (and_iff_right timed).symm

/-- What is found is the fastest lap, with its place. -/
theorem fastest_of_bestFrom {place k : Nat} {laps : List Lap} {best : Lap}
    (h : bestFrom place laps = some (k, best)) : ∃ i, k = place + i ∧ Fastest laps i best := by
  induction laps generalizing place k best with
  | nil => cases h
  | cons lap rest ih =>
    have hlater {k : Nat} {best : Lap} (hrest : bestFrom (place + 1) rest = some (k, best))
        (hlap : 0 < lap.time → best.time < lap.time) :
        ∃ i, k = place + i ∧ Fastest (lap :: rest) i best := by
      obtain ⟨i, rfl, hi⟩ := ih hrest
      exact ⟨i + 1, by omega, hi.later hlap⟩
    rw [bestFrom] at h
    by_cases timed : 0 < lap.time
    · rw [if_pos timed] at h
      cases hrest : bestFrom (place + 1) rest with
      | none =>
        rw [hrest] at h
        cases h
        have hnone := bestFrom_eq_none_iff.1 hrest
        exact ⟨0, rfl, .here timed fun other hother ht => absurd ht (hnone other hother)⟩
      | some found =>
        -- the lap here is compared with the one found behind it, and wins if they are equal
        obtain ⟨k', best'⟩ := found
        rw [hrest] at h
        have h : faster (place, lap) (k', best') = (k, best) := Option.some_inj.1 h
        rw [faster] at h
        split at h
        · rename_i hlt
          cases h
          exact hlater hrest fun _ => hlt
        · rename_i hle
          cases h
          obtain ⟨i, -, hi⟩ := ih hrest
          exact ⟨0, rfl, .here timed fun other hother ht =>
            UInt32.le_trans (UInt32.not_lt.1 hle) (hi.fastest other hother ht)⟩
    · rw [if_neg timed] at h
      exact hlater h fun ht => absurd ht timed

variable {m : Model}

/-- **The best lap** is the first of the fastest laps that have a time. -/
theorem best?_eq_some_iff {i : Nat} {lap : Lap} :
    m.best? = some (i, lap) ↔ Fastest m.laps i lap := by
  have hfound {k : Nat} {best : Lap} (h : m.best? = some (k, best)) : Fastest m.laps k best := by
    obtain ⟨j, rfl, hj⟩ := fastest_of_bestFrom h
    rwa [Nat.zero_add]
  refine ⟨hfound, fun h => ?_⟩
  cases hbest : m.best? with
  | none =>
    have hnone := bestFrom_eq_none_iff.1 hbest
    exact absurd h.timed (hnone lap (List.mem_of_getElem? h.held))
  | some found =>
    obtain ⟨rfl, rfl⟩ := (hfound hbest).unique h
    rfl

theorem not_pos_iff {t : UInt32} : ¬ 0 < t ↔ t = 0 := by
  rw [UInt32.not_lt, UInt32.le_zero_iff]

theorem best?_eq_none_iff : m.best? = none ↔ ∀ lap ∈ m.laps, lap.time = 0 := by
  rw [best?, bestFrom_eq_none_iff]
  exact forall₂_congr fun _ _ => not_pos_iff

/-! ## The last lap -/

/-- The place of the last lap that has a time. -/
structure Newest (laps : List Lap) (i : Nat) (lap : Lap) : Prop where
  held : laps[i]? = some lap
  timed : 0 < lap.time
  last : ∀ (j : Nat) (other : Lap), i < j → laps[j]? = some other → other.time = 0

theorem time?_eq_some_iff {lap : Lap} {t : UInt32} :
    lap.time? = some t ↔ 0 < lap.time ∧ lap.time = t := by
  rw [Lap.time?, Option.ite_none_right_eq_some, Option.some_inj]

theorem time?_eq_none_iff {lap : Lap} : lap.time? = none ↔ lap.time = 0 := by
  rw [Lap.time?, ite_eq_right_iff, ← not_pos_iff]
  exact forall_congr' fun _ => iff_of_false (Option.some_ne_none _) id

/-- The laps behind the last one have no time. -/
theorem newest_append {before behind : List Lap} {lap : Lap} (timed : 0 < lap.time)
    (h : ∀ other ∈ behind, other.time = 0) :
    Newest (before ++ lap :: behind) before.length lap where
  held := by simp
  timed := timed
  last := fun j other hj hother => by
    obtain ⟨k, rfl⟩ := Nat.exists_eq_add_of_lt hj
    rw [List.getElem?_append_right (by omega), Nat.add_assoc, Nat.add_sub_cancel_left] at hother
    exact h other (List.mem_of_getElem? hother)

theorem Newest.split {laps : List Lap} {i : Nat} {lap : Lap} (h : Newest laps i lap) :
    ∃ before behind, laps = before ++ lap :: behind ∧ ∀ other ∈ behind, other.time = 0 := by
  obtain ⟨hi, rfl⟩ := List.getElem?_eq_some_iff.1 h.held
  refine ⟨laps.take i, laps.drop (i + 1), ?_, fun other hother => ?_⟩
  · rw [← List.drop_eq_getElem_cons hi, List.take_append_drop]
  · obtain ⟨j, hj⟩ := List.getElem?_of_mem hother
    rw [List.getElem?_drop] at hj
    exact h.last (i + 1 + j) other (by omega) hj

/-- **The last time** is that of the last lap that has one. -/
theorem lastTime?_eq_some_iff {t : UInt32} :
    m.lastTime? = some t ↔ ∃ i lap, Newest m.laps i lap ∧ lap.time = t := by
  rw [lastTime?, List.findSome?_eq_some_iff]
  refine ⟨fun ⟨behind, lap, before, hlaps, htime, hnone⟩ => ?_, fun ⟨i, lap, hnewest, htime⟩ => ?_⟩
  · obtain ⟨timed, rfl⟩ := time?_eq_some_iff.1 htime
    have hlaps : m.laps = before.reverse ++ lap :: behind.reverse := by
      rw [← List.reverse_reverse m.laps, hlaps]
      simp
    rw [hlaps]
    exact ⟨_, lap, newest_append timed fun other hother =>
      time?_eq_none_iff.1 (hnone other (List.mem_reverse.1 hother)), rfl⟩
  · obtain ⟨before, behind, hlaps, hnone⟩ := hnewest.split
    refine ⟨behind.reverse, lap, before.reverse, ?_, time?_eq_some_iff.2 ⟨hnewest.timed, htime⟩,
      fun other hother => time?_eq_none_iff.2 (hnone other (List.mem_reverse.1 hother))⟩
    rw [hlaps]
    simp

theorem lastTime?_eq_none_iff : m.lastTime? = none ↔ ∀ lap ∈ m.laps, lap.time = 0 := by
  rw [lastTime?, List.findSome?_eq_none_iff]
  refine forall_congr' fun lap => ?_
  rw [List.mem_reverse, time?_eq_none_iff]

/-! ## The table -/

/-- The line of a lap with its number, if the best lap is at `best`. -/
def line (best : Option Nat) (e : Lap × Nat) : Row := ⟨e.2, e.1, best == some (e.2 - 1)⟩

theorem rowsFrom_eq (best : Option Nat) (number : Nat) (laps : List Lap) :
    rowsFrom best number laps = (laps.zipIdx number).map (line best) := by
  induction laps generalizing number with
  | nil => rfl
  | cons lap rest ih => rw [rowsFrom, ih, List.zipIdx_cons, List.map_cons, line]

/-- **The table** has one line for each lap, the newest one first. -/
theorem rows_eq (m : Model) :
    m.rows = ((m.laps.zipIdx 1).map (line (m.best?.map (·.1)))).reverse := by
  rw [rows, rowsFrom_eq]

theorem laps_rows (m : Model) : m.rows.map Row.lap = m.laps.reverse := by
  rw [rows_eq, List.map_reverse, List.map_map]
  exact congrArg List.reverse (List.zipIdx_map_fst 1 m.laps)

theorem numbers_rows (m : Model) :
    m.rows.map Row.number = (List.range' 1 m.laps.length).reverse := by
  rw [rows_eq, List.map_reverse, List.map_map]
  exact congrArg List.reverse (List.zipIdx_map_snd 1 m.laps)

/-- A line has the lap of its number, and is marked if that is the best lap. -/
theorem mem_rows_iff {r : Row} :
    r ∈ m.rows ↔ 0 < r.number ∧ m.laps[r.number - 1]? = some r.lap ∧
      r.best = (m.best?.map (·.1) == some (r.number - 1)) := by
  rw [rows_eq, List.mem_reverse, List.mem_map]
  refine ⟨fun ⟨⟨lap, number⟩, he, hr⟩ => ?_, fun ⟨hpos, hlap, hbest⟩ => ?_⟩
  · obtain ⟨hpos, hlap⟩ := List.mk_mem_zipIdx_iff_le_and_getElem?_sub.1 he
    rw [← hr]
    exact ⟨hpos, hlap, rfl⟩
  · refine ⟨(r.lap, r.number), List.mk_mem_zipIdx_iff_le_and_getElem?_sub.2 ⟨hpos, hlap⟩, ?_⟩
    rw [line, ← hbest]

theorem nodup_rows (m : Model) : m.rows.Nodup := by
  refine List.Nodup.of_map Row.number ?_
  rw [numbers_rows, List.nodup_reverse]
  exact List.nodup_range'

/-- **One line is marked**, that of the best lap, or none if there is no best lap. -/
theorem marked_rows (m : Model) :
    m.rows.filter Row.best = (m.best?.map fun b => ⟨b.1 + 1, b.2, true⟩).toList := by
  cases hbest : m.best? with
  | none =>
    refine List.filter_eq_nil_iff.2 fun r hr hmarked => ?_
    have hplace := (mem_rows_iff.1 hr).2.2
    rw [hbest, hmarked] at hplace
    cases hplace
  | some b =>
    obtain ⟨i, lap⟩ := b
    have hheld := (best?_eq_some_iff.1 hbest).held
    have hmem : (⟨i + 1, lap, true⟩ : Row) ∈ m.rows := by
      refine mem_rows_iff.2 ⟨Nat.succ_pos i, hheld, ?_⟩
      rw [hbest]
      exact (beq_self_eq_true (some i)).symm
    have hmarked (r : Row) (hr : r ∈ m.rows) : r.best = decide (r = ⟨i + 1, lap, true⟩) := by
      obtain ⟨hpos, hlap, hplace⟩ := mem_rows_iff.1 hr
      rw [hbest] at hplace
      rw [Bool.eq_iff_iff, decide_eq_true_iff]
      refine ⟨fun hmarked => ?_, fun he => by rw [he]⟩
      -- a mark is at the place of the best lap, so the lap is that one too
      rw [hmarked] at hplace
      have hi : i = r.number - 1 := Option.some_inj.1 (eq_of_beq hplace.symm)
      rw [← hi, hheld] at hlap
      obtain ⟨number, lap', best⟩ := r
      obtain rfl : number = i + 1 := by rw [hi]; exact (Nat.sub_add_cancel hpos).symm
      obtain rfl := Option.some_inj.1 hlap
      obtain rfl : best = true := hmarked
      rfl
    rw [List.filter_congr hmarked, List.filter_eq, List.count_eq_one_of_mem m.nodup_rows hmem]
    rfl

/-! ## The display -/

/-- What a display shows agrees with the laps. -/
structure Shown (m : Model) : Prop where
  /-- The best lap has a time, no lap with a time is faster, and every one before it is slower. -/
  best : ∀ i lap, m.best? = some (i, lap) ↔ Fastest m.laps i lap
  no_best : m.best? = none ↔ ∀ lap ∈ m.laps, lap.time = 0
  /-- The last time is the time of the lap at the last place at which one has a time. -/
  last : ∀ t, m.lastTime? = some t ↔ ∃ i lap, Newest m.laps i lap ∧ lap.time = t
  no_last : m.lastTime? = none ↔ ∀ lap ∈ m.laps, lap.time = 0
  /-- The table has every lap once, the newest one first, and numbers them from the number of laps
  down to one; a line has the lap of its number. -/
  laps : m.rows.map Row.lap = m.laps.reverse
  numbers : m.rows.map Row.number = (List.range' 1 m.laps.length).reverse
  carried : ∀ r ∈ m.rows, m.laps[r.number - 1]? = some r.lap
  /-- The line of the best lap is marked and no other one is, be its lap as fast or the same. -/
  marked : m.rows.filter Row.best = (m.best?.map fun b => ⟨b.1 + 1, b.2, true⟩).toList
  /-- A line shows no time exactly if its lap has none. -/
  blank : ∀ r ∈ m.rows, r.lap.clock? = none ↔ r.lap.time = 0

/-- **A display agrees with the laps**, whatever was done to the model. -/
theorem shown_faithfully (m : Model) : m.Shown where
  best := fun _ _ => best?_eq_some_iff
  no_best := best?_eq_none_iff
  last := fun _ => lastTime?_eq_some_iff
  no_last := lastTime?_eq_none_iff
  laps := m.laps_rows
  numbers := m.numbers_rows
  carried := fun _ hr => (mem_rows_iff.1 hr).2.1
  marked := m.marked_rows
  blank := fun r _ => by rw [Lap.clock?, Option.map_eq_none_iff, time?_eq_none_iff]

/-- Of two equal laps the first one is the best, and only its line is marked. -/
example : (replay [.lap ⟨0, 9⟩ none, .lap ⟨41000, 7⟩ none, .lap ⟨41000, 7⟩ none]).rows =
    [⟨3, ⟨41000, 7⟩, false⟩, ⟨2, ⟨41000, 7⟩, true⟩, ⟨1, ⟨0, 9⟩, false⟩] := by
  decide

end Model
end RaceLink
