/-!
# Words

Numbers as machines keep them, in 32 or in 64 bits.  Arithmetic is checked here: a result that a
word cannot hold is none.

* `word32?`, `word64?` — a number as a word, unless it is too large.
* `less64?` — the difference of two words, unless it would be negative.
-/

set_option autoImplicit false

namespace RaceLink

/-- A number as a word of 32 bits, unless it is too large. -/
def word32? (n : Nat) : Option UInt32 := if n < UInt32.size then some (UInt32.ofNat n) else none

/-- A number as a word of 64 bits, unless it is too large. -/
def word64? (n : Nat) : Option UInt64 := if n < UInt64.size then some (UInt64.ofNat n) else none

/-- The difference of two words, unless it would be negative. -/
def less64? (a b : UInt64) : Option UInt64 := if b ≤ a then some (a - b) else none

theorem exists_word32 {n : Nat} (h : n < UInt32.size) : ∃ w, word32? n = some w ∧ w.toNat = n :=
  ⟨_, if_pos h, UInt32.toNat_ofNat_of_lt' h⟩

theorem exists_word64 {n : Nat} (h : n < UInt64.size) : ∃ w, word64? n = some w ∧ w.toNat = n :=
  ⟨_, if_pos h, UInt64.toNat_ofNat_of_lt' h⟩

theorem exists_less64 {a b : UInt64} (h : b ≤ a) :
    ∃ w, less64? a b = some w ∧ w.toNat = a.toNat - b.toNat :=
  ⟨_, if_pos h, UInt64.toNat_sub_of_le a b h⟩

theorem word32?_eq_none_iff {n : Nat} : word32? n = none ↔ UInt32.size ≤ n := by
  rw [word32?, ite_eq_right_iff, ← Nat.not_lt]
  exact ⟨fun h hlt => Option.some_ne_none _ (h hlt), fun h hlt => absurd hlt h⟩

end RaceLink
