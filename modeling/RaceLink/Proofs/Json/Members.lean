import Mathlib.Data.List.Induction
import Mathlib.Data.String.Basic
import RaceLink.Json.Record

/-!
# Members of canonical objects

A reader of a tree looks at the canonical form of its objects.  What it finds under a name there is
what the text said last under that name.

* `last?` — the value of the last member of a name.
* `member?_arrange`, `nodup_arrange` — arranged members are there once each, with their last value.
* `member?_canonicalMembers` — what is found in the canonical form of an object.
* `canonical_eq_scalar`, `canonical_eq_array`, `canonical_eq_object` — which values have a given
  canonical form.
* `kindOf_canonical` — a field takes the canonical form of a value just as it takes the value.
-/

set_option autoImplicit false

namespace RaceLink
namespace Json

/-- The value of the last member of a name. -/
def last? (name : String) (members : List (String × Json)) : Option Json :=
  member? name members.reverse

/-! ## Looking for a name -/

section Lookup

variable {name : String} {v : Json} {ms : List (String × Json)}

theorem member?_cons (name : String) (m : String × Json) (ms : List (String × Json)) :
    member? name (m :: ms) = if m.1 = name then some m.2 else member? name ms := by
  by_cases h : m.1 = name
  · simp [member?, h]
  · simp [member?, h]

theorem last?_concat (name : String) (ms : List (String × Json)) (m : String × Json) :
    last? name (ms ++ [m]) = if m.1 = name then some m.2 else last? name ms := by
  rw [last?, List.reverse_concat, member?_cons, last?]

theorem member?_eq_none : member? name ms = none ↔ name ∉ ms.map (·.1) := by
  induction ms with
  | nil => simp [member?]
  | cons m ms ih =>
    rw [member?_cons, List.map_cons, List.mem_cons, not_or]
    split
    · rename_i h
      simp [h]
    · rename_i h
      simp [ih, Ne.symm h]

/-- Members of other names may be left out. -/
theorem member?_filter {other : String} (h : name ≠ other) (ms : List (String × Json)) :
    member? name (ms.filter (·.1 != other)) = member? name ms := by
  induction ms with
  | nil => rfl
  | cons m ms ih =>
    rw [List.filter_cons, member?_cons]
    split
    · rw [member?_cons, ih]
    · rename_i hm
      have hm : m.1 = other := by simpa using hm
      rw [ih, if_neg (by rw [hm]; exact h.symm)]

end Lookup

/-! ## Arranged members -/

theorem member?_place (name n : String) (v : Json) (ms : List (String × Json)) :
    member? name (place n v ms) = if n = name then some v else member? name ms := by
  induction ms with
  | nil => rw [place, member?_cons]
  | cons m ms ih =>
    rw [place]
    split
    · rw [member?_cons]
    · split
      · rename_i hm
        rw [member?_cons, member?_cons, hm]
        split
        · rfl
        · rfl
      · rename_i hm
        rw [member?_cons, member?_cons, ih]
        by_cases hn : n = name
        · rw [if_pos hn, if_pos hn, if_neg (by rw [← hn]; exact hm)]
        · rw [if_neg hn, if_neg hn]

theorem arrange_concat (ms : List (String × Json)) (m : String × Json) :
    arrange (ms ++ [m]) = place m.1 m.2 (arrange ms) := by
  rw [arrange, List.foldl_concat, arrange]

/-- Of several members of one name the last is kept. -/
theorem member?_arrange (name : String) (ms : List (String × Json)) :
    member? name (arrange ms) = last? name ms := by
  induction ms using List.reverseRecOn with
  | nil => rfl
  | append_singleton ms m ih => rw [arrange_concat, member?_place, last?_concat, ih]

/-- Members in the order of their names. -/
def Sorted (ms : List (String × Json)) : Prop := ms.Pairwise (·.1 < ·.1)

theorem mem_place {n : String} {v : Json} {ms : List (String × Json)} {m : String × Json}
    (h : m ∈ place n v ms) : m.1 = n ∨ m ∈ ms := by
  induction ms with
  | nil =>
    rw [place, List.mem_singleton] at h
    rw [h]
    exact .inl rfl
  | cons m' ms ih =>
    rw [place] at h
    split at h
    · rcases List.mem_cons.1 h with rfl | h
      · exact .inl rfl
      · exact .inr h
    · split at h
      · rcases List.mem_cons.1 h with rfl | h
        · exact .inl rfl
        · exact .inr (List.mem_cons_of_mem m' h)
      · rcases List.mem_cons.1 h with rfl | h
        · exact .inr List.mem_cons_self
        · exact (ih h).imp_right (List.mem_cons_of_mem m')

theorem sorted_place {n : String} {v : Json} {ms : List (String × Json)} (h : Sorted ms) :
    Sorted (place n v ms) := by
  induction ms with
  | nil => exact List.pairwise_singleton _ _
  | cons m ms ih =>
    obtain ⟨hm, hms⟩ := List.pairwise_cons.1 h
    rw [place]
    split
    · rename_i hlt
      refine List.pairwise_cons.2 ⟨?_, h⟩
      intro m' hm'
      rcases List.mem_cons.1 hm' with rfl | hm'
      · exact hlt
      · exact lt_trans hlt (hm m' hm')
    · rename_i hge
      split
      · rename_i heq
        refine List.pairwise_cons.2 ⟨?_, hms⟩
        intro m' hm'
        rw [← heq]
        exact hm m' hm'
      · rename_i hne
        refine List.pairwise_cons.2 ⟨?_, ih hms⟩
        intro m' hm'
        rcases mem_place hm' with hn | hm'
        · rw [hn]
          exact lt_of_le_of_ne (not_lt.1 hge) hne
        · exact hm m' hm'

theorem sorted_arrange (ms : List (String × Json)) : Sorted (arrange ms) := by
  induction ms using List.reverseRecOn with
  | nil => exact List.Pairwise.nil
  | append_singleton ms m ih =>
    rw [arrange_concat]
    exact sorted_place ih

/-- No two arranged members have one name. -/
theorem nodup_arrange (ms : List (String × Json)) : ((arrange ms).map (·.1)).Nodup := by
  refine List.pairwise_map.2 ((sorted_arrange ms).imp ?_)
  intro a b hab
  exact ne_of_lt hab

/-! ## Canonical form -/

theorem canonicalMembers_eq_map (ms : List (String × Json)) :
    canonicalMembers ms = ms.map fun m => (m.1, canonical m.2) := by
  induction ms with
  | nil => rw [canonicalMembers, List.map_nil]
  | cons m ms ih => rw [canonicalMembers, ih, List.map_cons]

theorem canonicalItems_eq_map (vs : List Json) : canonicalItems vs = vs.map canonical := by
  induction vs with
  | nil => rw [canonicalItems, List.map_nil]
  | cons v vs ih => rw [canonicalItems, ih, List.map_cons]

/-- What is found in the canonical form of an object is what was written last. -/
theorem member?_canonicalMembers (name : String) (ms : List (String × Json)) :
    member? name (arrange (canonicalMembers ms)) = (last? name ms).map canonical := by
  rw [member?_arrange, canonicalMembers_eq_map]
  induction ms using List.reverseRecOn with
  | nil => rfl
  | append_singleton ms m ih =>
    rw [List.map_append, List.map_singleton, last?_concat, last?_concat, ih]
    split
    · rfl
    · rfl

/-- A value without brackets is canonical. -/
theorem canonical_of_scalar {v : Json} (harray : ∀ vs, v ≠ .array vs)
    (hobject : ∀ ms, v ≠ .object ms) : canonical v = v :=
  canonical.eq_3 v harray hobject

/-- A value without brackets is the canonical form of itself only. -/
theorem canonical_eq_scalar {v w : Json} (harray : ∀ vs, w ≠ .array vs)
    (hobject : ∀ ms, w ≠ .object ms) : canonical v = w ↔ v = w := by
  constructor
  · intro h
    cases v with
    | array vs =>
      rw [canonical] at h
      exact absurd h.symm (harray _)
    | object ms =>
      rw [canonical] at h
      exact absurd h.symm (hobject _)
    | _ => simpa only [canonical] using h
  · rintro rfl
    exact canonical_of_scalar harray hobject

theorem canonical_eq_text {v : Json} {t : String} : canonical v = .text t ↔ v = .text t :=
  canonical_eq_scalar nofun nofun

/-- A field takes the canonical form of a value just as it takes the value. -/
theorem kindOf_canonical (k : Record.Kind) (v : Json) : kindOf k (canonical v) = kindOf k v := by
  cases v with
  | array vs =>
    rw [canonical]
    cases k <;> rfl
  | object ms =>
    rw [canonical]
    cases k <;> rfl
  | _ => simp only [canonical]

theorem canonical_eq_array {v : Json} {ws : List Json} :
    canonical v = .array ws ↔ ∃ vs, v = .array vs ∧ ws = canonicalItems vs := by
  cases v with
  | array vs => simp [canonical, eq_comm]
  | _ => simp [canonical]

theorem canonical_eq_object {v : Json} {ms : List (String × Json)} :
    canonical v = .object ms ↔
      ∃ written, v = .object written ∧ ms = arrange (canonicalMembers written) := by
  cases v with
  | object ms => simp [canonical, eq_comm]
  | _ => simp [canonical]

end Json
end RaceLink
