import Mathlib.Data.List.Nodup
import RaceLink.Proofs.Json.Members
import RaceLink.Proofs.Json.Lexemes

/-!
# Records from trees

What it takes to fill a record, for any layout whose slots keep out of each other's way.

* `Record.Layout.View` — what the slots of a draft hold, and that each of them is moved by its own
  values only.
* `Taken` — what a slot holds once some values were given to it: it takes one, of its kind.
* `takeMembers_iff` — the members of an object fill a draft just if each slot takes what the members
  it answers to give it.
* `ofMembers_iff` — records from the members of a canonical object, told by what was written.
-/

set_option autoImplicit false

namespace RaceLink

open Record (Kind Slot Layout)

/-- The names that a slot answers to. -/
def Record.Slot.names {σ : Type} (f : Slot σ) : List String := f.name :: f.otherName.toList

theorem Record.Slot.answersTo_iff {σ : Type} {f : Slot σ} {name : String} :
    f.answersTo name = true ↔ name ∈ f.names := by
  rw [answersTo, names, Bool.or_eq_true, beq_iff_eq, beq_iff_eq, List.mem_cons, Option.mem_toList,
    eq_comm]

/-- What the slots of a draft hold.  Slots answer to different names, and a value that is put into
one of them is found there and nowhere else. -/
structure Record.Layout.View {σ α : Type} (l : Layout σ α) where
  get : (i : Fin l.fields.length) → σ → Option (l.fields.get i).kind.Value
  filled : ∀ i d, (l.fields.get i).filled d = (get i d).isSome
  get_blank : ∀ i, get i l.blank = none
  get_put : ∀ i d x, get i ((l.fields.get i).put d x) = some x
  get_put_of_ne : ∀ i j, j ≠ i → ∀ d x, get j ((l.fields.get i).put d x) = get j d
  ext : ∀ d d', (∀ i, get i d = get i d') → d = d'
  distinct : (l.fields.flatMap Slot.names).Nodup
  unclosed : l.closed = false

namespace Record.Layout.View

variable {σ α : Type} {l : Layout σ α}

/-- No two slots answer to one name. -/
theorem apart (view : l.View) {i j : Fin l.fields.length} {name : String}
    (hi : (l.fields.get i).answersTo name = true) (hj : (l.fields.get j).answersTo name = true) :
    i = j := by
  rw [Slot.answersTo_iff] at hi hj
  have hdisjoint := List.pairwise_iff_getElem.1 (List.nodup_flatMap.1 view.distinct).2
  rcases Nat.lt_trichotomy i.1 j.1 with hlt | heq | hgt
  · exact (hdisjoint i j i.2 j.2 hlt hi hj).elim
  · exact Fin.ext heq
  · exact (hdisjoint j i j.2 i.2 hgt hj hi).elim

theorem twoNames (view : l.View) (i : Fin l.fields.length) :
    (l.fields.get i).otherName ≠ some (l.fields.get i).name := by
  have hnodup := (List.nodup_flatMap.1 view.distinct).1 _ (List.get_mem l.fields i)
  intro hsame
  rw [Slot.names, hsame] at hnodup
  exact (List.nodup_cons.1 hnodup).1 (List.mem_singleton.2 rfl)

end Record.Layout.View

namespace Json

/-- What a slot holds after some values were given to it: what it held before if there were none,
and otherwise the only one of them. -/
inductive Taken (k : Kind) : Option k.Value → List Json → Option k.Value → Prop
  | kept {o : Option k.Value} : Taken k o [] o
  | put {v : Json} {x : k.Value} (fits : kindOf k v = .ok x) : Taken k none [v] (some x)

theorem taken_nil_iff {k : Kind} {o o' : Option k.Value} : Taken k o [] o' ↔ o' = o := by
  constructor
  · intro h
    cases h
    rfl
  · rintro rfl
    exact .kept

theorem taken_some_iff {k : Kind} {x : k.Value} {vs : List Json} {o : Option k.Value} :
    Taken k (some x) vs o ↔ vs = [] ∧ o = some x := by
  constructor
  · intro h
    cases h with
    | kept => exact ⟨rfl, rfl⟩
  · rintro ⟨rfl, rfl⟩
    exact .kept

theorem taken_none_cons_iff {k : Kind} {v : Json} {vs : List Json} {o : Option k.Value} :
    Taken k none (v :: vs) o ↔ ∃ x, kindOf k v = .ok x ∧ Taken k (some x) vs o := by
  constructor
  · intro h
    cases h with
    | put fits => exact ⟨_, fits, .kept⟩
  · rintro ⟨x, fits, h⟩
    obtain ⟨rfl, rfl⟩ := taken_some_iff.1 h
    exact .put fits

theorem taken_perm {k : Kind} {vs ws : List Json} (h : vs.Perm ws) {o : Option k.Value} :
    Taken k none vs o ↔ Taken k none ws o := by
  have hone : ∀ {vs ws : List Json}, vs.Perm ws → Taken k none vs o → Taken k none ws o := by
    intro vs ws h htaken
    cases htaken with
    | kept => rw [h.symm.eq_nil]; exact .kept
    | put fits => rw [List.perm_singleton.1 h.symm]; exact .put fits
  exact ⟨hone h, hone h.symm⟩

/-- It does not matter whether values are given in their canonical form. -/
theorem taken_map_canonical {k : Kind} {vs : List Json} {o : Option k.Value} :
    Taken k none (vs.map canonical) o ↔ Taken k none vs o := by
  cases vs with
  | nil => rfl
  | cons v vs =>
    rw [List.map_cons, taken_none_cons_iff, taken_none_cons_iff, kindOf_canonical]
    refine exists_congr fun x => and_congr_right' ?_
    rw [taken_some_iff, taken_some_iff, List.map_eq_nil_iff]

section Taken

variable {k : Kind} {o o' : Option Json}

/-- What a slot of one name takes. -/
theorem taken_one {x : Option k.Value} :
    Taken k none (o.toList ++ []) x ↔
      o = none ∧ x = none ∨ ∃ v y, o = some v ∧ kindOf k v = .ok y ∧ x = some y := by
  rw [List.append_nil]
  cases o with
  | none => simp [taken_nil_iff]
  | some v => simp [taken_none_cons_iff, taken_nil_iff]

/-- What a slot of two names takes. -/
theorem taken_two {y : k.Value} :
    Taken k none (o.toList ++ o'.toList) (some y) ↔
      ∃ v, (o = some v ∧ o' = none ∨ o = none ∧ o' = some v) ∧ kindOf k v = .ok y := by
  cases o with
  | none =>
    cases o' with
    | none => simp [taken_nil_iff]
    | some w => simp [taken_none_cons_iff, taken_nil_iff]
  | some v =>
    cases o' with
    | none => simp [taken_none_cons_iff, taken_nil_iff]
    | some w => simp [taken_none_cons_iff, taken_some_iff]

theorem taken_absent : Taken k none (o.toList ++ []) none ↔ o = none := by
  rw [taken_one]
  simp

end Taken

section Given

variable {σ : Type}

/-- The values that members give to a slot. -/
def given (f : Slot σ) (ms : List (String × Json)) : List Json :=
  (ms.filter fun m => f.answersTo m.1).map (·.2)

theorem given_cons_of_answers {f : Slot σ} {m : String × Json} (h : f.answersTo m.1 = true)
    (ms : List (String × Json)) : given f (m :: ms) = m.2 :: given f ms := by
  rw [given, List.filter_cons, if_pos h, List.map_cons, given]

theorem given_cons_of_not {f : Slot σ} {m : String × Json} (h : f.answersTo m.1 = false)
    (ms : List (String × Json)) : given f (m :: ms) = given f ms := by
  rw [given, List.filter_cons, if_neg (by simp [h]), given]

/-- What is found under the names of a slot. -/
def under (f : Slot σ) (look : String → Option Json) : List Json :=
  (look f.name).toList ++ (f.otherName.bind look).toList

theorem under_congr {f : Slot σ} {look look' : String → Option Json}
    (h : ∀ name, f.answersTo name = true → look name = look' name) :
    under f look = under f look' := by
  have hother : f.otherName.bind look = f.otherName.bind look' := by
    cases hcase : f.otherName with
    | none => rfl
    | some other => exact h other (by simp [Record.Slot.answersTo, hcase])
  rw [under, under, hother, h f.name (by simp [Record.Slot.answersTo])]

theorem under_map (f : Slot σ) (look : String → Option Json) (g : Json → Json) :
    under f (fun name => (look name).map g) = (under f look).map g := by
  have hlist : ∀ o : Option Json, (o.map g).toList = o.toList.map g := by
    intro o
    cases o with
    | none => rfl
    | some v => rfl
  rw [under, under, List.map_append, ← hlist, ← hlist]
  cases f.otherName with
  | none => rfl
  | some other => rfl

theorem bind_member?_cons {o : Option String} {m : String × Json} (h : o ≠ some m.1)
    (ms : List (String × Json)) : o.bind (member? · (m :: ms)) = o.bind (member? · ms) := by
  cases o with
  | none => rfl
  | some name =>
    have hne : m.1 ≠ name := fun hname => h (congrArg some hname.symm)
    rw [Option.bind_some, Option.bind_some, member?_cons, if_neg hne]

/-- Members of different names give a slot what is found under its own names. -/
theorem given_perm {f : Slot σ} (hf : f.otherName ≠ some f.name) {ms : List (String × Json)}
    (hms : (ms.map (·.1)).Nodup) : (given f ms).Perm (under f (member? · ms)) := by
  induction ms with
  | nil =>
    cases hother : f.otherName with
    | none => simp [given, under, hother, member?]
    | some other => simp [given, under, hother, member?]
  | cons m ms ih =>
    obtain ⟨hnew, hms⟩ := List.nodup_cons.1 hms
    have hnone : member? m.1 ms = none := member?_eq_none.2 hnew
    have ih := ih hms
    by_cases hname : f.name = m.1
    · have hans : f.answersTo m.1 = true := by simp [Record.Slot.answersTo, hname]
      rw [hname] at hf
      rw [under, hname, hnone] at ih
      rw [given_cons_of_answers hans, under, hname, bind_member?_cons hf, member?_cons, if_pos rfl]
      exact ih.cons m.2
    · have hsame : member? f.name (m :: ms) = member? f.name ms := by
        rw [member?_cons, if_neg (Ne.symm hname)]
      by_cases hother : f.otherName = some m.1
      · have hans : f.answersTo m.1 = true := by simp [Record.Slot.answersTo, hother]
        rw [under, hother, Option.bind_some, hnone, Option.toList_none, List.append_nil] at ih
        rw [given_cons_of_answers hans, under, hother, hsame, Option.bind_some, member?_cons,
          if_pos rfl]
        exact (ih.cons m.2).trans (List.perm_append_singleton m.2 _).symm
      · have hans : f.answersTo m.1 = false := by simp [Record.Slot.answersTo, hname, hother]
        rw [given_cons_of_not hans, under, hsame, bind_member?_cons hother]
        exact ih

end Given

section Layout

variable {σ α : Type} {l : Layout σ α}

/-- The slot that answers to a name is one of the layout. -/
theorem exists_of_field? {name : String} {f : Slot σ} (h : l.field? name = some f) :
    ∃ i, f = l.fields.get i ∧ (l.fields.get i).answersTo name = true := by
  obtain ⟨i, rfl⟩ := List.mem_iff_get.1 (List.mem_of_find?_eq_some h)
  have hans := List.find?_some h
  exact ⟨i, rfl, hans⟩

theorem not_answersTo_of_field? {name : String} (h : l.field? name = none)
    (i : Fin l.fields.length) : (l.fields.get i).answersTo name = false := by
  have := List.find?_eq_none.1 h (l.fields.get i) (List.get_mem _ i)
  simpa using this

/-- Members fill a draft just if each slot takes what the members it answers to give it. -/
theorem takeMembers_iff (view : l.View) {ms : List (String × Json)} {d d' : σ} :
    ms.foldlM (takeMember l) d = .ok d' ↔
      ∀ i, Taken (l.fields.get i).kind (view.get i d) (given (l.fields.get i) ms)
        (view.get i d') := by
  induction ms generalizing d with
  | nil =>
    constructor
    · intro h i
      cases h
      exact .kept
    · intro h
      rw [view.ext d d' fun i => (taken_nil_iff.1 (h i)).symm]
      rfl
  | cons m ms ih =>
    rw [List.foldlM_cons, takeMember]
    cases hf : l.field? m.1 with
    | none =>
      rw [view.unclosed]
      refine ih.trans (forall_congr' fun i => ?_)
      rw [given_cons_of_not (not_answersTo_of_field? hf i)]
    | some f =>
      obtain ⟨i, rfl, hi⟩ := exists_of_field? hf
      have hother : ∀ j, j ≠ i → (l.fields.get j).answersTo m.1 = false := by
        intro j hj
        rw [Bool.eq_false_iff]
        intro hans
        exact hj (view.apart hans hi)
      dsimp only
      rw [view.filled]
      cases hget : view.get i d with
      | some x =>
        -- the slot is full: another value for it is refused
        refine iff_of_false nofun fun h => ?_
        have hi' := h i
        rw [hget, given_cons_of_answers hi, taken_some_iff] at hi'
        exact List.cons_ne_nil _ _ hi'.1
      | none =>
        cases hk : kindOf (l.fields.get i).kind m.2 with
        | error e =>
          refine iff_of_false nofun fun h => ?_
          have hi' := h i
          rw [hget, given_cons_of_answers hi, taken_none_cons_iff] at hi'
          obtain ⟨x, hx, -⟩ := hi'
          rw [hk] at hx
          cases hx
        | ok x =>
          refine ih.trans (forall_congr' fun j => ?_)
          by_cases hj : j = i
          · subst hj
            rw [view.get_put, given_cons_of_answers hi, hget, taken_none_cons_iff, hk]
            simp
          · rw [view.get_put_of_ne i j hj, given_cons_of_not (hother j hj)]

/-- A record is made of canonical members just if each slot takes what was written last under its
names, and nothing is missing then. -/
theorem ofMembers_iff (view : l.View) {ms written : List (String × Json)}
    (hms : (ms.map (·.1)).Nodup)
    (hlook : ∀ i name, (l.fields.get i).answersTo name = true →
      member? name ms = (last? name written).map canonical) {r : α} :
    ofMembers l ms = .ok r ↔
      ∃ d, (∀ i, Taken (l.fields.get i).kind none (under (l.fields.get i) (last? · written))
        (view.get i d)) ∧ l.finish d = .ok r := by
  rw [ofMembers, Read.bind_eq_ok]
  refine exists_congr fun d => and_congr_left' ?_
  rw [takeMembers_iff view]
  refine forall_congr' fun i => ?_
  rw [view.get_blank, taken_perm (given_perm (view.twoNames i) hms), under_congr (hlook i),
    under_map, taken_map_canonical]

end Layout

end Json
end RaceLink
