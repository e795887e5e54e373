import RaceLink.Proofs.Race.Redelivery

/-!
# Reports of changes

Whoever changes a model is told which part of it changed, and those who look at the model look
again only at that part, and only then.  So nothing may change without a report, and nothing but
the part that is reported.

* `Model.Accounts` — a report that says what happened, part by part.
* `Model.after_eq_last` — in a run, the model of the last report is the model.
* `Model.Accountable`, `Model.reports_exact` — **reports are exact**, for every model and all that
  can be done to it.
-/

set_option autoImplicit false

namespace RaceLink
namespace Model

/-- What was done to a model, and a report that accounts for it. -/
structure Accounts (m : Model) (r : Model × Option Change) : Prop where
  /-- Without a report the model is what it was. -/
  silent : r.2 = none → r.1 = m
  /-- What is not reported is what it was. -/
  status : r.2 ≠ some .status → r.1.status = m.status
  flag : r.2 ≠ some .flag → r.1.flag = m.flag
  /-- Laps are reported exactly if they are not what they were. -/
  laps : r.2 = some .laps ↔ r.1.laps ≠ m.laps
  /-- If a status is reported then there is one. -/
  told : r.2 = some .status → r.1.status.isSome

theorem accounts_none (m : Model) : m.Accounts (m, none) where
  silent := fun _ => rfl
  status := fun _ => rfl
  flag := fun _ => rfl
  laps := iff_of_false (fun h => nomatch h) (fun h => h rfl)
  told := fun h => nomatch h

theorem accounts_laps {m : Model} {laps : List Lap} (h : laps ≠ m.laps) :
    m.Accounts ({ m with laps := laps }, some .laps) where
  silent := fun hnone => nomatch hnone
  status := fun _ => rfl
  flag := fun _ => rfl
  laps := iff_of_true rfl h
  told := fun hstatus => nomatch hstatus

theorem accounts_status (m : Model) (s : Status) :
    m.Accounts ({ m with status := some s }, some .status) where
  silent := fun hnone => nomatch hnone
  status := fun h => absurd rfl h
  flag := fun _ => rfl
  laps := iff_of_false (fun h => nomatch h) (fun h => h rfl)
  told := fun _ => rfl

theorem accounts_flag (m : Model) (r : RaceFlag) :
    m.Accounts ({ m with flag := r }, some .flag) where
  silent := fun hnone => nomatch hnone
  status := fun _ => rfl
  flag := fun h => absurd rfl h
  laps := iff_of_false (fun h => nomatch h) (fun h => h rfl)
  told := fun h => nomatch h

/-! ## One change -/

/-- A lap in a place where another one was makes another list. -/
theorem set_ne_self {laps : List Lap} {i : Nat} {lap : Lap} (hi : i < laps.length)
    (h : laps[i]? ≠ some lap) : laps.set i lap ≠ laps := by
  intro hsame
  apply h
  rw [← hsame]
  exact List.getElem?_set_self hi

theorem accounts_applyLap (m : Model) (lap : Lap) (number : Option UInt32) :
    m.Accounts (m.applyLap lap number) := by
  rw [applyLap]
  split
  · rename_i hplace
    split
    · exact m.accounts_none
    · rename_i hother
      exact accounts_laps (set_ne_self (by omega) hother)
  · exact accounts_laps (by simp)

theorem accounts_apply (m : Model) (f : Frame) : m.Accounts (m.apply f) := by
  cases f with
  | status s => exact m.accounts_status s
  | lap lap number => exact m.accounts_applyLap lap number
  | laps laps =>
    rw [apply]
    split
    · exact m.accounts_none
    · rename_i hother
      exact accounts_laps (Ne.symm hother)
  | flag r => exact m.accounts_flag r
  | unknown kind => exact m.accounts_none

theorem accounts_reset (m : Model) : m.Accounts m.reset := by
  rw [reset]
  split
  · exact m.accounts_none
  · rename_i hsome
    exact accounts_laps (Ne.symm hsome)

theorem accounts_take (m : Model) (i : Input) : m.Accounts (m.take i) := by
  cases i with
  | frame f => exact m.accounts_apply f
  | reset => exact m.accounts_reset

/-- A lap makes the list longer by one place at most. -/
theorem length_apply_lap (m : Model) (lap : Lap) (number : Option UInt32) :
    (m.apply (.lap lap number)).1.laps.length = m.laps.length ∨
      (m.apply (.lap lap number)).1.laps.length = m.laps.length + 1 := by
  rw [apply, applyLap]
  split
  · refine .inl ?_
    split
    · rfl
    · exact List.length_set
  · exact .inr List.length_append

/-! ## Runs -/

/-- What is different after a run was reported in it. -/
theorem accounts_after (m : Model) (inputs : List Input) :
    (.status ∉ (m.changes inputs).map Prod.fst → (m.after inputs).status = m.status) ∧
    (.flag ∉ (m.changes inputs).map Prod.fst → (m.after inputs).flag = m.flag) ∧
    (.laps ∉ (m.changes inputs).map Prod.fst → (m.after inputs).laps = m.laps) := by
  induction inputs generalizing m with
  | nil => exact ⟨fun _ => rfl, fun _ => rfl, fun _ => rfl⟩
  | cons i rest ih =>
    obtain ⟨hstatus, hflag, hlaps⟩ := ih (m.take i).1
    have hstep := m.accounts_take i
    -- a part that no report names is named neither by the first one nor by those of the rest
    have hsplit {c : Change} (h : c ∉ (m.changes (i :: rest)).map Prod.fst) :
        (m.take i).2 ≠ some c ∧ c ∉ ((m.take i).1.changes rest).map Prod.fst := by
      rw [changes, List.map_append, List.mem_append, not_or, List.map_map] at h
      refine ⟨fun hc => h.1 ?_, h.2⟩
      rw [hc]
      exact List.mem_singleton_self c
    rw [after_cons]
    refine ⟨fun h => ?_, fun h => ?_, fun h => ?_⟩
    · exact (hstatus (hsplit h).2).trans (hstep.status (hsplit h).1)
    · exact (hflag (hsplit h).2).trans (hstep.flag (hsplit h).1)
    · exact (hlaps (hsplit h).2).trans (not_not.1 (mt hstep.laps.2 (hsplit h).1))

/-- Whoever keeps the model of the last report has the model as it is. -/
theorem after_eq_last (m : Model) (inputs : List Input) :
    m.after inputs = ((m.changes inputs).getLast?.map Prod.snd).getD m := by
  induction inputs generalizing m with
  | nil => rfl
  | cons i rest ih =>
    rw [after_cons, ih, changes, List.getLast?_append]
    cases hlast : ((m.take i).1.changes rest).getLast? with
    | some last => rfl
    | none =>
      cases hreport : (m.take i).2 with
      | none => exact (m.accounts_take i).silent hreport
      | some c => rfl

/-! ## The law -/

/-- What is done to a model is reported exactly. -/
structure Accountable (m : Model) : Prop where
  frames : ∀ f, m.Accounts (m.apply f)
  reset : m.Accounts m.reset
  /-- A status is always reported, and is then the status of the model. -/
  status : ∀ s, (m.apply (.status s)).2 = some .status ∧ (m.apply (.status s)).1.status = some s
  /-- So is a race flag. -/
  flag : ∀ r, (m.apply (.flag r)).2 = some .flag ∧ (m.apply (.flag r)).1.flag = r
  /-- A lap makes the list longer by one place at most. -/
  growth : ∀ lap number, (m.apply (.lap lap number)).1.laps.length = m.laps.length ∨
    (m.apply (.lap lap number)).1.laps.length = m.laps.length + 1
  /-- A lap whose number is within the list changes that place alone. -/
  place : ∀ lap n, 0 < n.toNat → n.toNat ≤ m.laps.length →
    (m.apply (.lap lap (some n))).1 = { m with laps := m.laps.set (n.toNat - 1) lap }
  /-- Over a run the reports account for all that is different after it. -/
  runs : ∀ inputs,
    (.status ∉ (m.changes inputs).map Prod.fst → (m.after inputs).status = m.status) ∧
    (.flag ∉ (m.changes inputs).map Prod.fst → (m.after inputs).flag = m.flag) ∧
    (.laps ∉ (m.changes inputs).map Prod.fst → (m.after inputs).laps = m.laps)
  /-- The model of the last report is the model. -/
  newest : ∀ inputs, m.after inputs = ((m.changes inputs).getLast?.map Prod.snd).getD m

/-- **Reports are exact**, for every model and all that can be done to it. -/
theorem reports_exact (m : Model) : m.Accountable where
  frames := m.accounts_apply
  reset := m.accounts_reset
  status := fun _ => ⟨rfl, rfl⟩
  flag := fun _ => ⟨rfl, rfl⟩
  growth := m.length_apply_lap
  place := fun lap _ hpos hle => congrArg Prod.fst (applyLap_held hpos hle lap)
  runs := m.accounts_after
  newest := m.after_eq_last

example : (replay [.lap ⟨0, 9⟩ (some 1), .lap ⟨41000, 7⟩ (some 2)]).apply
    (.lap ⟨41000, 7⟩ (some 2)) = (replay [.lap ⟨0, 9⟩ none, .lap ⟨41000, 7⟩ none], none) := by
  decide

end Model
end RaceLink
