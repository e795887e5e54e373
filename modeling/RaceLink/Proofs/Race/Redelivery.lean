import Mathlib.Data.List.Induction
import Mathlib.Tactic.ByContra
import RaceLink.Proofs.Race.Fold

/-!
# Laps that are told again

A timer may tell a lap more than once.  A lap with a number is put where its number says, as long as
that place exists; the number of a place beyond the list only adds one more lap.  So numbers protect
against repetition exactly as long as none of them skips a place.

* `Model.applyLap_held`, `Model.applyLap_beyond` — all that a numbered lap does.
* `Model.lap_again` — **what telling a lap again does** to the length of the list, after any frames.
* `Frame.InTurn` — every lap carries its number, and no number comes before all smaller ones did.
* `Model.laps_inTurn` — the invariant: each place holds the lap that was last told for it.
* `Model.in_turn_law` — **what is left of laps in turn**, however often they are repeated or
  corrected.
-/

set_option autoImplicit false

namespace RaceLink
namespace Model

/-! ## One numbered lap -/

/-- A lap whose number is within the list takes its place, a change if another was there. -/
theorem applyLap_held {m : Model} {n : UInt32} (hpos : 0 < n.toNat)
    (hle : n.toNat ≤ m.laps.length) (lap : Lap) :
    m.applyLap lap (some n) = ({ m with laps := m.laps.set (n.toNat - 1) lap },
      if m.laps[n.toNat - 1]? = some lap then none else some .laps) := by
  show (if 0 < n.toNat ∧ n.toNat ≤ m.laps.length then
    if m.laps[n.toNat - 1]? = some lap then _ else _ else _) = _
  rw [if_pos ⟨hpos, hle⟩]
  split
  · rename_i hsame
    -- the lap is there already, so that writing it again is no change
    obtain ⟨hin, he⟩ := List.getElem?_eq_some_iff.1 hsame
    rw [← he]
    exact congrArg (fun laps => ({ m with laps := laps }, none)) (List.set_getElem_self hin).symm
  · rfl

/-- A lap whose number is beyond the list is added to it, at the end. -/
theorem applyLap_beyond {m : Model} {n : UInt32} (hgt : m.laps.length < n.toNat) (lap : Lap) :
    m.applyLap lap (some n) = ({ m with laps := m.laps ++ [lap] }, some .laps) := by
  show (if 0 < n.toNat ∧ n.toNat ≤ m.laps.length then _ else _) = _
  rw [if_neg fun h => Nat.not_le_of_lt hgt h.2]

/-- A numbered lap makes the list longer only if its number is beyond the list. -/
theorem length_applyLap {m : Model} {n : UInt32} (hpos : 0 < n.toNat) (lap : Lap) :
    (m.applyLap lap (some n)).1.laps.length =
      if n.toNat ≤ m.laps.length then m.laps.length else m.laps.length + 1 := by
  split
  · rename_i hle
    rw [applyLap_held hpos hle]
    exact List.length_set
  · rename_i hgt
    rw [applyLap_beyond (Nat.lt_of_not_le hgt)]
    exact List.length_append

/-- A lap that is in its place changes nothing. -/
theorem applyLap_same {m : Model} {n : UInt32} {lap : Lap} (hpos : 0 < n.toNat)
    (hat : m.laps[n.toNat - 1]? = some lap) : m.applyLap lap (some n) = (m, none) := by
  obtain ⟨hin, he⟩ := List.getElem?_eq_some_iff.1 hat
  rw [applyLap_held hpos (by omega), if_pos hat, ← he, List.set_getElem_self hin]

/-! ## The same lap again -/

/-- Only a frame that tells all laps can make the list shorter. -/
theorem length_le_apply {m : Model} {f : Frame} (hf : ∀ laps, f ≠ .laps laps) :
    m.laps.length ≤ (m.apply f).1.laps.length := by
  cases f with
  | lap lap number =>
    rw [apply, applyLap]
    split
    · split
      · exact Nat.le_refl _
      · exact Nat.le_of_eq List.length_set.symm
    · show m.laps.length ≤ (m.laps ++ [lap]).length
      rw [List.length_append]
      exact Nat.le_add_right _ _
  | laps laps => exact absurd rfl (hf laps)
  | _ => exact Nat.le_refl _

/-- So the list only grows under frames none of which tells all laps. -/
theorem length_le_after {fs : List Frame} (hfs : ∀ f ∈ fs, ∀ laps, f ≠ .laps laps) (m : Model) :
    m.laps.length ≤ (m.after (fs.map .frame)).laps.length := by
  induction fs generalizing m with
  | nil => exact Nat.le_refl _
  | cons f fs ih =>
    have hf : m.laps.length ≤ (m.apply f).1.laps.length :=
      length_le_apply (hfs f List.mem_cons_self)
    exact Nat.le_trans hf (ih (fun g hg => hfs g (List.mem_cons_of_mem f hg)) (m.apply f).1)

/-- Once a lap was told whose number skips no place, its number is within the list. -/
theorem le_length_of_told {m : Model} {n : UInt32} (hpos : 0 < n.toNat)
    (hnext : n.toNat ≤ m.laps.length + 1) (lap : Lap) :
    n.toNat ≤ (m.applyLap lap (some n)).1.laps.length := by
  rw [length_applyLap hpos]
  split
  · assumption
  · exact hnext

/-- Telling a lap twice in a row is telling it once, exactly if its number skips no place. -/
theorem twice_iff {n : UInt32} (hpos : 0 < n.toNat) (m : Model) (lap : Lap) :
    (m.applyLap lap (some n)).1.applyLap lap (some n) = ((m.applyLap lap (some n)).1, none) ↔
      n.toNat ≤ m.laps.length + 1 := by
  constructor
  · intro htwice
    by_contra hskip
    have honce : m.laps.length < n.toNat := by omega
    rw [applyLap_beyond honce, applyLap_beyond (by simp; omega)] at htwice
    cases congrArg Prod.snd htwice
  · intro hnext
    refine applyLap_same hpos ?_
    rcases Nat.lt_or_ge m.laps.length n.toNat with hgt | hle
    · have hend : n.toNat - 1 = m.laps.length := by omega
      rw [applyLap_beyond hgt, hend]
      exact List.getElem?_concat_length
    · rw [applyLap_held hpos hle]
      exact List.getElem?_set_self (by omega)

/-- **What telling a lap again does.**  After any frames, a lap with a number that came among them
is told once more.  The list keeps its length exactly if the number is within it; and it is, unless
the number skipped a place when it came or all laps were told at once since.  Right after the first
time, on any model, the second one changes nothing exactly if the number skipped no place. -/
theorem lap_again (before behind : List Frame) (lap : Lap) (n : UInt32) (hpos : 0 < n)
    (hbehind : ∀ f ∈ behind, ∀ laps, f ≠ .laps laps) :
    let told := Frame.lap lap (some n)
    let m := replay (before ++ told :: behind)
    ((m.apply told).1.laps.length = m.laps.length ↔ n.toNat ≤ m.laps.length) ∧
      (n.toNat ≤ (replay before).laps.length + 1 → n.toNat ≤ m.laps.length) ∧
      ∀ held : Model, (held.apply told).1.apply told = ((held.apply told).1, none) ↔
        n.toNat ≤ held.laps.length + 1 := by
  intro told m
  have hpos : 0 < n.toNat := UInt32.lt_iff_toNat_lt.1 hpos
  refine ⟨?_, fun hnext => ?_, fun held => twice_iff hpos held lap⟩
  · show (m.applyLap lap (some n)).1.laps.length = m.laps.length ↔ _
    rw [length_applyLap hpos]
    split
    · rename_i hle
      exact iff_of_true rfl hle
    · rename_i hgt
      exact iff_of_false (by omega) hgt
  · have hm : m = ((replay before).applyLap lap (some n)).1.after (behind.map .frame) := by
      show replay (before ++ told :: behind) = _
      rw [← after_frames, ← after_frames, List.map_append, after_append]
      rfl
    rw [hm]
    exact Nat.le_trans (le_length_of_told hpos hnext lap) (length_le_after hbehind _)

/-- The second of three laps is told again after the third. -/
theorem lap_again_second :
    let frames : List Frame := [.lap ⟨0, 9⟩ none, .lap ⟨41000, 7⟩ (some 2), .status ⟨1, 2, 3, true⟩,
      .lap ⟨42000, 8⟩ (some 3)]
    ((replay frames).apply (.lap ⟨41000, 7⟩ (some 2))).1.laps.length =
      (replay frames).laps.length :=
  have h := lap_again [.lap ⟨0, 9⟩ none] [.status ⟨1, 2, 3, true⟩, .lap ⟨42000, 8⟩ (some 3)]
    ⟨41000, 7⟩ 2 (by decide) (by simp)
  h.1.2 (h.2.1 (by decide))

/-- A lap with a number that skips places is added once more whenever it is told again. -/
theorem lap_again_grows : ¬ ∀ (before behind : List Frame) (lap : Lap) (n : UInt32), 0 < n →
    (∀ f ∈ behind, ∀ laps, f ≠ .laps laps) →
      let m := replay (before ++ .lap lap (some n) :: behind)
      (m.apply (.lap lap (some n))).1.laps.length = m.laps.length := by
  intro h
  have hlength := h [] [] ⟨44000, 150⟩ 7 (by decide) (by simp)
  revert hlength
  decide

end Model

/-! ## Laps in turn -/

namespace Frame

/-- The number of the lap that a frame tells. -/
def number? : Frame → Option Nat
  | lap _ (some n) => some n.toNat
  | _ => none

/-- The lap that a frame tells with a certain number. -/
def lapFor? (k : Nat) : Frame → Option Lap
  | lap l (some n) => if n.toNat = k then some l else none
  | _ => none

/-- The status that a frame tells. -/
def status? : Frame → Option Status
  | status s => some s
  | _ => none

/-- The race flag that a frame tells. -/
def flag? : Frame → Option RaceFlag
  | flag r => some r
  | _ => none

/-- The numbers of the laps that some frames tell. -/
def numbers (fs : List Frame) : List Nat := fs.filterMap number?

/-- The last of all that some frames tell of one thing. -/
def last? {α : Type} (told : Frame → Option α) (fs : List Frame) : Option α :=
  (fs.filterMap told).getLast?

/-- Whether a frame tells no lap but one with its number, if any. -/
def numbersLaps : Frame → Bool
  | lap _ none => false
  | lap _ (some n) => 0 < n
  | laps _ => false
  | _ => true

/-- Laps come one by one with their numbers, and each number comes for the first time only after all
smaller ones have come. -/
structure InTurn (fs : List Frame) : Prop where
  numbered : ∀ f ∈ fs, f.numbersLaps
  ordered : ∀ i < fs.length, ∀ n ∈ fs[i]?.bind number?, ∀ k < n, 0 < k → k ∈ numbers (fs.take i)

theorem InTurn.of_concat {fs : List Frame} {f : Frame} (h : InTurn (fs ++ [f])) : InTurn fs where
  numbered g hg := h.numbered g (List.mem_append_left _ hg)
  ordered i hi := by
    have hlong := h.ordered i (by rw [List.length_append]; omega)
    rw [List.getElem?_append_left hi, List.take_append_of_le_length (Nat.le_of_lt hi)] at hlong
    exact hlong

/-- The number of the last frame comes after all smaller ones. -/
theorem InTurn.last {fs : List Frame} {l : Lap} {n : UInt32}
    (h : InTurn (fs ++ [.lap l (some n)])) :
    0 < n.toNat ∧ ∀ k < n.toNat, 0 < k → k ∈ numbers fs := by
  constructor
  · have hpos := h.numbered _ (List.mem_append_right fs (List.mem_singleton_self _))
    exact UInt32.lt_iff_toNat_lt.1 (of_decide_eq_true hpos)
  · have hlong := h.ordered fs.length (by rw [List.length_append]; exact Nat.lt_succ_self _) n.toNat
    rw [List.getElem?_concat_length, List.take_left'] at hlong
    · exact hlong rfl
    · rfl

theorem last?_concat {α : Type} (told : Frame → Option α) (fs : List Frame) (f : Frame) :
    last? told (fs ++ [f]) = (told f).or (last? told fs) := by
  rw [last?, List.filterMap_append, List.getLast?_append]
  congr 1
  rw [List.filterMap_cons]
  split
  · rename_i hnone
    rw [hnone]
    rfl
  · rename_i a hsome
    rw [hsome]
    rfl

/-- A lap was told with a number exactly if the number is one of those that came. -/
theorem exists_lapFor_iff {k : Nat} {fs : List Frame} :
    (∃ l, last? (lapFor? k) fs = some l) ↔ k ∈ numbers fs := by
  induction fs using List.reverseRecOn with
  | nil => simp [last?, numbers]
  | append_singleton fs f ih =>
    rw [last?_concat, numbers, List.filterMap_append, List.mem_append, ← numbers, ← ih]
    cases f with
    | lap l number =>
      cases number with
      | none => simp [lapFor?, number?]
      | some n =>
        rcases eq_or_ne n.toNat k with hk | hk
        · simp [lapFor?, number?, hk]
        · simp [lapFor?, number?, hk, hk.symm]
    | _ => simp [lapFor?, number?]

end Frame

namespace Model

open RaceLink.Frame (InTurn numbers last? lapFor?)

theorem replay_concat (fs : List Frame) (f : Frame) :
    replay (fs ++ [f]) = ((replay fs).apply f).1 := by
  rw [replay, List.foldl_append]
  rfl

/-- A lap leaves all but the laps alone. -/
theorem applyLap_frame (m : Model) (lap : Lap) (number : Option UInt32) :
    ∃ laps, (m.applyLap lap number).1 = { m with laps := laps } := by
  rw [applyLap]
  split
  · split
    · exact ⟨m.laps, rfl⟩
    · exact ⟨_, rfl⟩
  · exact ⟨_, rfl⟩

/-- The status is the last one that was told. -/
theorem status_replay (fs : List Frame) : (replay fs).status = last? Frame.status? fs := by
  induction fs using List.reverseRecOn with
  | nil => rfl
  | append_singleton fs f ih =>
    rw [replay_concat, Frame.last?_concat]
    cases f with
    | status s => rfl
    | lap l number =>
      obtain ⟨laps, he⟩ := applyLap_frame (replay fs) l number
      rw [apply, he]
      exact ih
    | laps laps =>
      rw [apply]
      split <;> exact ih
    | _ => exact ih

/-- The race flag is the last one that was told, or not set. -/
theorem flag_replay (fs : List Frame) :
    (replay fs).flag = (last? Frame.flag? fs).getD ⟨false⟩ := by
  induction fs using List.reverseRecOn with
  | nil => rfl
  | append_singleton fs f ih =>
    rw [replay_concat, Frame.last?_concat]
    cases f with
    | flag r => rfl
    | lap l number =>
      obtain ⟨laps, he⟩ := applyLap_frame (replay fs) l number
      rw [apply, he]
      exact ih
    | laps laps =>
      rw [apply]
      split <;> exact ih
    | _ => exact ih

/-- A lap whose number skips no place is in its place then, and all others are in theirs. -/
theorem getElem?_applyLap {m : Model} {n : UInt32} (hpos : 0 < n.toNat)
    (hnext : n.toNat ≤ m.laps.length + 1) (lap : Lap) (k : Nat) :
    (m.applyLap lap (some n)).1.laps[k]? = if n.toNat = k + 1 then some lap else m.laps[k]? := by
  rcases Nat.lt_or_ge m.laps.length n.toNat with hgt | hle
  · have hend : n.toNat = m.laps.length + 1 := by omega
    rw [applyLap_beyond hgt, hend]
    show (m.laps ++ [lap])[k]? = _
    split
    · rename_i hk
      rw [← Nat.succ.inj hk]
      exact List.getElem?_concat_length
    · rename_i hk
      rcases Nat.lt_or_ge k m.laps.length with hlt | hge
      · exact List.getElem?_append_left hlt
      · rw [List.getElem?_eq_none hge, List.getElem?_eq_none (by simp; omega)]
  · rw [applyLap_held hpos hle]
    show (m.laps.set (n.toNat - 1) lap)[k]? = _
    split
    · rename_i hk
      have hplace : n.toNat - 1 = k := by omega
      rw [hplace]
      exact List.getElem?_set_self (by omega)
    · rename_i hk
      exact List.getElem?_set_ne (by omega)

/-- **The invariant of laps in turn**: each place holds the lap that was last told for it. -/
theorem laps_inTurn {fs : List Frame} (h : InTurn fs) (k : Nat) :
    (replay fs).laps[k]? = last? (lapFor? (k + 1)) fs := by
  -- the last frame goes first: what it does depends on the list that all others have left
  induction fs using List.reverseRecOn generalizing k with
  | nil => rfl
  | append_singleton fs f ih =>
    have hfs := ih h.of_concat
    have hmem := h.numbered f (List.mem_append_right fs (List.mem_singleton_self f))
    rw [replay_concat, Frame.last?_concat]
    cases f with
    | lap l number =>
      obtain _ | n := number
      · cases hmem
      obtain ⟨hpos, hbefore⟩ := h.last
      have hnext : n.toNat ≤ (replay fs).laps.length + 1 := by
        by_contra hskip
        -- then a smaller number has not come yet: the one of the first place beyond the list
        have hcame := hbefore ((replay fs).laps.length + 1) (by omega) (Nat.succ_pos _)
        obtain ⟨lap, hlap⟩ := Frame.exists_lapFor_iff.2 hcame
        rw [← hfs, List.getElem?_eq_none (Nat.le_refl _)] at hlap
        cases hlap
      rw [apply, getElem?_applyLap hpos hnext, lapFor?, hfs]
      split <;> rfl
    | laps laps => cases hmem
    | _ => exact hfs k

/-- A number came exactly if its place exists. -/
theorem mem_numbers_iff {fs : List Frame} (h : InTurn fs) (k : Nat) :
    k + 1 ∈ numbers fs ↔ k < (replay fs).laps.length := by
  rw [← Frame.exists_lapFor_iff, ← laps_inTurn h k, ← Option.isSome_iff_exists]
  simp

/-- Numbers are counted from one. -/
theorem zero_notMem_numbers {fs : List Frame} (h : InTurn fs) : 0 ∉ numbers fs := by
  intro hzero
  obtain ⟨f, hf, hnumber⟩ := List.mem_filterMap.1 hzero
  have hpos := h.numbered f hf
  cases f with
  | lap l number =>
    obtain _ | n := number
    · cases hnumber
    · have hn : 0 < n.toNat := UInt32.lt_iff_toNat_lt.1 (of_decide_eq_true hpos)
      exact absurd (Option.some_inj.1 hnumber) (Nat.ne_of_gt hn)
  | _ => cases hnumber

/-- There are as many laps as the greatest number says. -/
theorem length_inTurn {fs : List Frame} (h : InTurn fs) :
    (replay fs).laps.length = (numbers fs).max?.getD 0 := by
  cases hmax : (numbers fs).max? with
  | none =>
    rw [List.max?_eq_none_iff] at hmax
    have hnone := mem_numbers_iff h 0
    rw [hmax] at hnone
    simpa using hnone
  | some k =>
    obtain ⟨hmem, hle⟩ := List.max?_eq_some_iff.1 hmax
    have hk : 0 < k := Nat.pos_of_ne_zero fun hzero => zero_notMem_numbers h (hzero ▸ hmem)
    have hup : k - 1 < (replay fs).laps.length := by
      rw [← mem_numbers_iff h, Nat.sub_add_cancel hk]
      exact hmem
    have hdown : (replay fs).laps.length - 1 + 1 ∈ numbers fs :=
      (mem_numbers_iff h _).2 (by omega)
    have hlast := hle _ hdown
    show (replay fs).laps.length = k
    omega

/-! ## The law -/

/-- A frame that tells a lap of the model with its own number. -/
def Tells (m : Model) (f : Frame) : Prop :=
  ∃ lap n, f = .lap lap (some n) ∧ 0 < n ∧ m.laps[n.toNat - 1]? = some lap

/-- Laps of the model that are told again, in any order and any number of times, change nothing, and
none of them is reported as a change. -/
theorem after_tells {m : Model} {again : List Frame} (h : ∀ f ∈ again, m.Tells f) :
    m.after (again.map .frame) = m ∧ m.changes (again.map .frame) = [] := by
  induction again with
  | nil => exact ⟨rfl, rfl⟩
  | cons f again ih =>
    obtain ⟨lap, n, rfl, hn, hat⟩ := h f List.mem_cons_self
    have hsame : m.take (.frame (.lap lap (some n))) = (m, none) :=
      applyLap_same (UInt32.lt_iff_toNat_lt.1 hn) hat
    obtain ⟨hafter, hchanges⟩ := ih fun g hg => h g (List.mem_cons_of_mem _ hg)
    rw [List.map_cons, after_cons, changes, hsame]
    exact ⟨hafter, hchanges⟩

/-- **What is left of laps in turn**, among any other frames that tell no laps.  There are as many
laps as the greatest number says, each place holds the lap that was told last with its number, and
status and race flag are those that were told last.  Then telling any of these laps again changes
nothing. -/
theorem in_turn_law (fs : List Frame) (h : InTurn fs) :
    (replay fs).laps.length = (numbers fs).max?.getD 0 ∧
      (∀ k, (replay fs).laps[k]? = last? (lapFor? (k + 1)) fs) ∧
      (replay fs).status = last? Frame.status? fs ∧
      (replay fs).flag = (last? Frame.flag? fs).getD ⟨false⟩ ∧
      ∀ again : List Frame, (∀ f ∈ again, (replay fs).Tells f) →
        (replay fs).after (again.map .frame) = replay fs ∧
          (replay fs).changes (again.map .frame) = [] :=
  ⟨length_inTurn h, laps_inTurn h, status_replay fs, flag_replay fs, fun _ => after_tells⟩

/-- The first of three laps is told again before the third comes, and corrected after it. -/
theorem in_turn_law_corrected :
    let fs : List Frame := [.lap ⟨0, 9⟩ (some 1), .lap ⟨41000, 7⟩ (some 2), .flag ⟨true⟩,
      .lap ⟨0, 9⟩ (some 1), .lap ⟨42000, 8⟩ (some 3), .unknown "ping", .lap ⟨39000, 5⟩ (some 1)]
    (replay fs).laps.length = 3 ∧ (replay fs).laps[0]? = some ⟨39000, 5⟩ ∧
      (replay fs).changes [.frame (.lap ⟨42000, 8⟩ (some 3)), .frame (.lap ⟨39000, 5⟩ (some 1))] =
        [] :=
  have h := in_turn_law [.lap ⟨0, 9⟩ (some 1), .lap ⟨41000, 7⟩ (some 2), .flag ⟨true⟩,
    .lap ⟨0, 9⟩ (some 1), .lap ⟨42000, 8⟩ (some 3), .unknown "ping", .lap ⟨39000, 5⟩ (some 1)]
    ⟨by decide, by decide⟩
  ⟨h.1, h.2.1 0, (h.2.2.2.2 [.lap ⟨42000, 8⟩ (some 3), .lap ⟨39000, 5⟩ (some 1)] (by
    intro f hf
    simp only [List.mem_cons, List.not_mem_nil, or_false] at hf
    rcases hf with rfl | rfl <;> exact ⟨_, _, rfl, by decide, by decide⟩)).2⟩

end Model
end RaceLink
