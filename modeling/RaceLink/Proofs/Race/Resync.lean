import RaceLink.Proofs.Race.Fold

/-!
# Asking again

When a session opens the client asks for the status and the laps of the timer, and takes the answers
into the model that it still holds from before.  The laps come in one of two ways, and only one of
them can take laps away.

* `Telling` — all laps at once, or one after the other with their numbers.
* `Model.after_numbered` — numbered laps take the first places of the list; what was held beyond
  them stays.
* `Model.resync_law` — **what the answers leave**, for every model that was held: the status and the
  laps of the timer, and after numbered laps those that it does not have any more.
-/

set_option autoImplicit false

namespace RaceLink

/-- How a timer tells all its laps. -/
inductive Telling where
  /-- All of them in one frame. -/
  | whole
  /-- One frame for each of them, with its number. -/
  | numbered
  deriving DecidableEq, Repr

namespace Telling

/-- The frame of a lap with its place in the list, counted from zero. -/
def numberedLap (e : Lap × Nat) : Frame := .lap e.1 (some (UInt32.ofNat (e.2 + 1)))

/-- The frames that tell some laps. -/
def frames (laps : List Lap) : Telling → List Frame
  | whole => [.laps laps]
  | numbered => laps.zipIdx.map numberedLap

/-- What is left of the laps that were held before. -/
def leftover (laps held : List Lap) : Telling → List Lap
  | whole => []
  | numbered => held.drop laps.length

end Telling

namespace Model

/-! ## Numbered laps -/

/-- A lap with the number of the next place takes it, and changes nothing else. -/
theorem applyLap_next {m : Model} {k : Nat} (hk : k ≤ m.laps.length) (hfit : k + 1 < UInt32.size)
    (lap : Lap) : (m.applyLap lap (some (UInt32.ofNat (k + 1)))).1 =
      { m with laps := m.laps.take k ++ lap :: m.laps.drop (k + 1) } := by
  have hplace : ((some (UInt32.ofNat (k + 1))).map UInt32.toNat).getD 0 = k + 1 :=
    UInt32.toNat_ofNat_of_lt hfit
  rw [applyLap]
  simp only [hplace, Nat.add_sub_cancel]
  rcases Nat.lt_or_ge k m.laps.length with hlt | hge
  · have hset : m.laps.set k lap = m.laps.take k ++ lap :: m.laps.drop (k + 1) := by
      rw [List.set_eq_take_append_cons_drop, if_pos hlt]
    rw [if_pos ⟨Nat.succ_pos k, hlt⟩, ← hset]
    split
    · rename_i hsame
      -- the lap is there already, so that writing it again is no change
      obtain ⟨hin, he⟩ := List.getElem?_eq_some_iff.1 hsame
      rw [← he, List.set_getElem_self hin]
    · rfl
  · have hend : k = m.laps.length := Nat.le_antisymm hk hge
    rw [if_neg (by omega), hend, List.take_length,
      List.drop_eq_nil_of_le (Nat.le_succ m.laps.length)]

/-- Laps that are told from a place on take as many places from there. -/
theorem after_numbered (laps : List Lap) : ∀ {m : Model} {k : Nat}, k ≤ m.laps.length →
    k + laps.length < UInt32.size →
    m.after (((laps.zipIdx k).map Telling.numberedLap).map .frame) =
      { m with laps := m.laps.take k ++ laps ++ m.laps.drop (k + laps.length) } := by
  induction laps with
  | nil =>
    intro m k hk hfit
    simp [after]
  | cons lap laps ih =>
    intro m k hk hfit
    rw [List.length_cons] at hfit
    let m' : Model := { m with laps := m.laps.take k ++ lap :: m.laps.drop (k + 1) }
    have hstep : (m.take (.frame (Telling.numberedLap (lap, k)))).1 = m' :=
      applyLap_next hk (by omega) lap
    have hlen : (m.laps.take k).length = k := List.length_take_of_le hk
    have htake : m'.laps.take (k + 1) = m.laps.take k ++ [lap] := by
      show (m.laps.take k ++ lap :: m.laps.drop (k + 1)).take (k + 1) = _
      rw [List.take_append, hlen, List.take_of_length_le (by omega), Nat.add_sub_cancel_left]
      rfl
    have hdrop : m'.laps.drop (k + 1 + laps.length) = m.laps.drop (k + (laps.length + 1)) := by
      show (m.laps.take k ++ lap :: m.laps.drop (k + 1)).drop (k + 1 + laps.length) = _
      have hplaces : k + 1 + laps.length - k = laps.length + 1 := by omega
      rw [List.drop_append, hlen, List.drop_eq_nil_of_le (by omega), hplaces, List.nil_append,
        List.drop_succ_cons, List.drop_drop]
      congr 1
      omega
    have hk' : k + 1 ≤ m'.laps.length := by
      show k + 1 ≤ (m.laps.take k ++ lap :: m.laps.drop (k + 1)).length
      rw [List.length_append, hlen, List.length_cons]
      omega
    rw [List.zipIdx_cons, List.map_cons, List.map_cons, after_cons, hstep,
      ih hk' (by omega), htake, hdrop, List.length_cons, List.append_assoc (m.laps.take k)]
    rfl

/-! ## The status among the laps -/

theorem applyLap_status (m : Model) (s : Option Status) (lap : Lap) (number : Option UInt32) :
    ({ m with status := s }.applyLap lap number).1 =
      { (m.applyLap lap number).1 with status := s } := by
  rw [applyLap, applyLap]
  dsimp only
  split
  · split <;> rfl
  · rfl

/-- Frames that tell laps leave the status alone, whatever it is. -/
theorem after_status {how : Telling} {laps : List Lap} {fs : List Frame}
    (hfs : ∀ f ∈ fs, f ∈ how.frames laps) (m : Model) (s : Option Status) :
    { m with status := s }.after (fs.map .frame) =
      { m.after (fs.map .frame) with status := s } := by
  induction fs generalizing m with
  | nil => rfl
  | cons f fs ih =>
    have hstep : ({ m with status := s }.apply f).1 = { (m.apply f).1 with status := s } := by
      have hf := hfs f List.mem_cons_self
      cases how with
      | whole =>
        rw [List.mem_singleton.1 hf, apply, apply]
        dsimp only
        split <;> rfl
      | numbered =>
        obtain ⟨e, -, rfl⟩ := List.mem_map.1 hf
        exact applyLap_status m s e.1 _
    show ({ m with status := s }.apply f).1.after (fs.map .frame) = _
    rw [hstep]
    exact ih (fun g hg => hfs g (List.mem_cons_of_mem f hg)) (m.apply f).1

/-- The model once some laps were told. -/
theorem after_told (m : Model) (how : Telling) (laps : List Lap)
    (hfit : how = .numbered → laps.length < UInt32.size) :
    m.after ((how.frames laps).map .frame) =
      { m with laps := laps ++ how.leftover laps m.laps } := by
  cases how with
  | whole =>
    show (m.apply (.laps laps)).1 = { m with laps := laps ++ [] }
    rw [apply, List.append_nil]
    split
    · rename_i hsame
      rw [← hsame]
    · rfl
  | numbered =>
    have hfit := hfit rfl
    have h := after_numbered laps (Nat.zero_le m.laps.length) (by omega)
    rw [List.take_zero, List.nil_append, Nat.zero_add] at h
    exact h

/-! ## The law -/

/-- **What the answers leave.**  The timer answers with its status, at any point before, among or
after the frames that tell its laps.  Then the model has that status and those laps, in their order;
of the laps that were held before, a numbered telling leaves those beyond the number of laps that
the timer has.  So the laps are exactly those of the timer if they were told at once, or if no more
were held than it has, and in no other case. -/
theorem resync_law (m : Model) (s : Status) (how : Telling) (laps : List Lap)
    (before behind : List Frame) (htold : before ++ behind = how.frames laps)
    (hfit : how = .numbered → laps.length < UInt32.size) :
    m.after ((before ++ .status s :: behind).map .frame) =
        ⟨some s, laps ++ how.leftover laps m.laps, m.flag⟩ ∧
      ((m.after ((before ++ .status s :: behind).map .frame)).laps = laps ↔
        how = .whole ∨ m.laps.length ≤ laps.length) := by
  have hbehind : ∀ f ∈ behind, f ∈ how.frames laps := fun f hf => by
    rw [← htold]
    exact List.mem_append_right before hf
  have hmodel : m.after ((before ++ .status s :: behind).map .frame) =
      ⟨some s, laps ++ how.leftover laps m.laps, m.flag⟩ := by
    rw [List.map_append, after_append, List.map_cons, after_cons]
    show ({ m.after (before.map .frame) with status := some s }).after (behind.map .frame) = _
    rw [after_status hbehind, ← after_append, ← List.map_append, htold, after_told m how laps hfit]
  refine ⟨hmodel, ?_⟩
  rw [hmodel]
  show laps ++ how.leftover laps m.laps = laps ↔ _
  rw [List.append_right_eq_self]
  cases how with
  | whole => exact iff_of_true rfl (.inl rfl)
  | numbered =>
    show m.laps.drop laps.length = [] ↔ _
    rw [List.drop_eq_nil_iff]
    exact ⟨.inr, fun h => h.resolve_left Telling.noConfusion⟩

/-- Two laps told with their numbers, and the status between them, replace the one that was held. -/
theorem resync_law_two :
    let held : Model := ⟨none, [⟨500, 9⟩], ⟨true⟩⟩
    let answer : List Frame := [.lap ⟨0, 150⟩ (some 1), .status ⟨12, 0, 2, false⟩,
      .lap ⟨45230, 160⟩ (some 2)]
    held.after (answer.map .frame) =
      ⟨some ⟨12, 0, 2, false⟩, [⟨0, 150⟩, ⟨45230, 160⟩], ⟨true⟩⟩ :=
  (resync_law ⟨none, [⟨500, 9⟩], ⟨true⟩⟩ ⟨12, 0, 2, false⟩ .numbered [⟨0, 150⟩, ⟨45230, 160⟩]
    [.lap ⟨0, 150⟩ (some 1)] [.lap ⟨45230, 160⟩ (some 2)] (by decide) (fun _ => by decide)).1

/-- A client that holds two laps when the timer has one does not get rid of the other by asking
again, if the timer tells its laps with their numbers. -/
theorem resync_keeps_lost_lap : ¬ ∀ (m : Model) (s : Status) (laps : List Lap),
    laps.length < UInt32.size →
      (m.after ((.status s :: Telling.numbered.frames laps).map .frame)).laps = laps := by
  intro h
  have hlaps := h ⟨none, [⟨41000, 130⟩, ⟨42000, 131⟩], ⟨false⟩⟩ ⟨12, 0, 1, false⟩ [⟨39000, 120⟩]
    (by decide)
  revert hlaps
  decide

end Model
end RaceLink
