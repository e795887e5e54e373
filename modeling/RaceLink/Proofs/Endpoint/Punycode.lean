import Mathlib.Data.List.TakeWhile
import Mathlib.Tactic.IntervalCases
import Mathlib.Tactic.Ring
import RaceLink.Endpoint.Punycode

/-!
# Labels survive Punycode

The writer goes through a label once for every code point beyond ASCII and says for each character
how far the reader has to go on.  The reader does not see the label, only these distances; it knows
the place and the code point of its last insertion.  Both count the same steps, over the places of
the text so far and then over the code points, and that is the whole argument:

* `Keeps` — the reader's place and code point, plus the distance that the writer has counted since,
  are the writer's own.
* `insertions_passOver`, `insertions_passes` — while the writer goes through the label, the reader's
  text is what the label has of the code points done.
* `decode_encode` — so every label is read back from its ASCII form.
* `mem_encode`, `plain_of_decode` — the characters of an ASCII form are in ASCII.
* `length_encode` — how long the ASCII form of a label can get.
-/

set_option autoImplicit false

namespace RaceLink
namespace Endpoint
namespace Punycode

/-! ## Digits and distances -/

theorem value?_digit (d : Nat) (hd : d < 36) : value? (digit d) = some d := by
  interval_cases d <;> rfl

/-- The first digit of a distance, if it is not the last one, and what is left after it. -/
theorem digits_of_ge {bias k delta : Nat} (h : threshold bias k ≤ delta) :
    ∃ d rest, digits bias k delta = digit d :: digits bias (k + 36) rest ∧
      threshold bias k ≤ d ∧ d < 36 ∧ rest < delta ∧
      d + rest * (36 - threshold bias k) = delta := by
  have ht := threshold_pos bias k
  have hle := threshold_le bias k
  refine ⟨threshold bias k + (delta - threshold bias k) % (36 - threshold bias k),
    (delta - threshold bias k) / (36 - threshold bias k), ?_, ?_, ?_, ?_, ?_⟩
  · rw [digits, if_neg (by omega)]
  · omega
  · have := Nat.mod_lt (delta - threshold bias k) (y := 36 - threshold bias k) (by omega)
    omega
  · have := Nat.div_le_self (delta - threshold bias k) (36 - threshold bias k)
    omega
  · have := Nat.mod_add_div' (delta - threshold bias k) (36 - threshold bias k)
    omega

theorem digits_of_lt {bias k delta : Nat} (h : delta < threshold bias k) :
    digits bias k delta = [digit delta] := by
  rw [digits, if_pos h]

/-- A distance is read back from its digits, whatever stands behind them. -/
theorem distance?_digits (bias k delta weight sum : Nat) (rest : List Char) :
    distance? bias k weight sum (digits bias k delta ++ rest) =
      some (sum + delta * weight, rest) := by
  induction delta using Nat.strongRecOn generalizing k weight sum with
  | _ delta ih =>
    rcases Nat.lt_or_ge delta (threshold bias k) with hlt | hge
    · have hd : delta < 36 := by have := threshold_le bias k; omega
      simp [digits_of_lt hlt, distance?, value?_digit delta hd, hlt]
    · obtain ⟨d, left, hdigits, htd, hd, hleft, hsum⟩ := digits_of_ge hge
      have hvalue : sum + d * weight + left * (weight * (36 - threshold bias k)) =
          sum + delta * weight := by
        rw [← hsum]
        ring
      simp only [hdigits, List.cons_append, distance?, value?_digit d hd,
        if_neg (Nat.not_lt.mpr htd)]
      rw [ih left hleft, hvalue]

theorem mem_digits {bias k delta : Nat} {c : Char} (hc : c ∈ digits bias k delta) :
    ∃ d < 36, c = digit d := by
  induction delta using Nat.strongRecOn generalizing k with
  | _ delta ih =>
    rcases Nat.lt_or_ge delta (threshold bias k) with hlt | hge
    · rw [digits_of_lt hlt, List.mem_singleton] at hc
      exact ⟨delta, by have := threshold_le bias k; omega, hc⟩
    · obtain ⟨d, left, hdigits, -, hd, hleft, -⟩ := digits_of_ge hge
      rw [hdigits, List.mem_cons] at hc
      rcases hc with rfl | hc
      · exact ⟨d, hd, rfl⟩
      · exact ih left hleft hc

theorem digits_ne_nil (bias k delta : Nat) : digits bias k delta ≠ [] := by
  rcases Nat.lt_or_ge delta (threshold bias k) with hlt | hge
  · simp [digits_of_lt hlt]
  · obtain ⟨d, left, hdigits, -⟩ := digits_of_ge hge
    simp [hdigits]

/-! ## The writer and the reader -/

/-- The characters of a label up to a code point that is not counted in. -/
def upTo (n : Nat) (s : List Char) : List Char := s.filter fun c => decide (c.toNat < n)

@[simp]
theorem upTo_nil (n : Nat) : upTo n [] = [] := rfl

theorem upTo_cons_of_lt {n : Nat} {c : Char} (s : List Char) (h : c.toNat < n) :
    upTo n (c :: s) = c :: upTo n s := by
  simp [upTo, h]

theorem upTo_cons_of_ge {n : Nat} {c : Char} (s : List Char) (h : n ≤ c.toNat) :
    upTo n (c :: s) = upTo n s := by
  simp [upTo, h]

theorem upTo_append (n : Nat) (s t : List Char) : upTo n (s ++ t) = upTo n s ++ upTo n t := by
  simp [upTo]

/-- No character lies between two code points, so that there is nothing to write on the way. -/
theorem upTo_eq {n m : Nat} {s : List Char} (h : ∀ c ∈ s, c.toNat < n ↔ c.toNat < m) :
    upTo n s = upTo m s := by
  unfold upTo
  exact List.filter_congr fun c hc => by simp [h c hc]

theorem insertIdx_length_append (s t : List Char) (c : Char) :
    (s ++ t).insertIdx s.length c = s ++ c :: t := by
  induction s with
  | nil => rfl
  | cons d s ih => simp [ih]

/-- The reader, who has the text `out` and is at its place `i` and the code point `n`, is behind the
writer, who is at the place `place` and the code point `m`, by the distance that the writer has
counted.  The reader's `i` also tells whether anything has been inserted. -/
structure Keeps (plain place m : Nat) (p : Progress) (out : List Char) (n i : Nat) : Prop where
  distance : i + p.delta + n * (p.count + 1) = place + m * (p.count + 1)
  behind : n ≤ m
  within : place ≤ p.count
  plain_le : plain ≤ p.count
  first : i = 0 ↔ p.count = plain
  count : p.count = out.length

/-- Wherever the reader is, as long as it keeps to the writer, the text `s` makes `out` into
`result`. -/
def Leads (plain place m : Nat) (p : Progress) (out s result : List Char) : Prop :=
  ∀ n i, Keeps plain place m p out n i → insertions p.bias n i out s = some result

namespace Keeps

variable {plain place m : Nat} {p : Progress} {out : List Char} {n i : Nat}

/-- The writer goes on by one place. -/
theorem pass (h : Keeps plain place m p out n i) (hp : place < p.count) :
    Keeps plain (place + 1) m { p with delta := p.delta + 1 } out n i where
  distance := by have := h.distance; simp only; omega
  behind := h.behind
  within := hp
  plain_le := h.plain_le
  first := h.first
  count := h.count

/-- The writer goes on to a later code point, at the start of the label. -/
theorem reach (h : Keeps plain 0 m p out n i) {m' : Nat} (hm : m ≤ m') :
    Keeps plain 0 m' { p with delta := p.delta + (m' - m) * (p.count + 1) } out n i where
  distance := by
    have := h.distance
    have := Nat.mul_le_mul_right (p.count + 1) hm
    simp only [Nat.sub_mul]
    omega
  behind := h.behind.trans hm
  within := h.within
  plain_le := h.plain_le
  first := h.first
  count := h.count

/-- The writer has passed over the label and starts again with the next code point. -/
theorem again (h : Keeps plain p.count m p out n i) :
    Keeps plain 0 (m + 1) { p with delta := p.delta + 1 } out n i where
  distance := by have := h.distance; simp only [Nat.add_mul]; omega
  behind := h.behind.trans (Nat.le_succ m)
  within := Nat.zero_le _
  plain_le := h.plain_le
  first := h.first
  count := h.count

/-- The reader has inserted the character that the writer has written. -/
theorem insert {c : Char} (h : Keeps plain place c.toNat p out n i) (bias : Nat) :
    Keeps plain (place + 1) c.toNat ⟨0, bias, p.count + 1⟩ (out.insertIdx place c) c.toNat
      (place + 1) where
  distance := rfl
  behind := Nat.le_refl _
  within := Nat.succ_le_succ h.within
  plain_le := h.plain_le.trans (Nat.le_succ _)
  first := by have := h.plain_le; simp only; omega
  count := by rw [List.length_insertIdx_of_le_length (h.count ▸ h.within), h.count]

end Keeps

/-- One insertion of the reader. -/
theorem insertions_of_distance? {bias n i j : Nat} {out s rest : List Char}
    (h : distance? bias 36 1 i s = some (j, rest)) :
    insertions bias n i out s =
      if Nat.isValidChar (n + j / (out.length + 1)) then
        insertions (adapt (j - i) (out.length + 1) (i = 0)) (n + j / (out.length + 1))
          (j % (out.length + 1) + 1)
          (out.insertIdx (j % (out.length + 1)) (Char.ofNat (n + j / (out.length + 1)))) rest
      else none := by
  have hs : ¬s.isEmpty = true := by
    intro hs
    rw [List.isEmpty_iff.mp hs] at h
    cases h
  rw [insertions, if_neg hs]
  split
  · rename_i heq
    rw [h] at heq
    cases heq
  · rename_i heq
    rw [h] at heq
    cases heq
    rfl

/-- The reader makes the insertion whose distance comes next. -/
theorem insertions_digits {plain place : Nat} {p : Progress} {n i : Nat} {c : Char}
    {out : List Char} (h : Keeps plain place c.toNat p out n i) (s : List Char) :
    insertions p.bias n i out (digits p.bias 36 p.delta ++ s) =
      insertions (adapt p.delta (p.count + 1) (p.count = plain)) c.toNat (place + 1)
        (out.insertIdx place c) s := by
  have hw := h.within
  have hb := h.behind
  -- The reader's sum is whole rounds through the text, one for each code point, and the place.
  have hj : i + p.delta = place + (c.toNat - n) * (p.count + 1) := by
    have := h.distance
    have := Nat.mul_le_mul_right (p.count + 1) hb
    rw [Nat.sub_mul]
    omega
  have hdiv : n + (i + p.delta) / (p.count + 1) = c.toNat := by
    rw [hj, Nat.add_mul_div_right _ _ (by omega), Nat.div_eq_of_lt (by omega)]
    omega
  have hmod : (i + p.delta) % (p.count + 1) = place := by
    rw [hj, Nat.add_mul_mod_self_right, Nat.mod_eq_of_lt (by omega)]
  have hvalid : Nat.isValidChar c.toNat := c.valid
  have hfirst : decide (i = 0) = decide (p.count = plain) := by simp [h.first]
  rw [insertions_of_distance? (distance?_digits ..)]
  simp only [Nat.mul_one, ← h.count, hdiv, hmod, if_pos hvalid, Nat.add_sub_cancel_left, hfirst,
    Char.ofNat_toNat]

/-- While the writer passes over the rest of a label to write the code point `m`, the reader gets
all characters up to `m` of what is passed. -/
theorem Leads.passOver {plain m : Nat} {behind result : List Char} (before rest : List Char)
    {p : Progress}
    (h : Leads plain (upTo (m + 1) (before ++ rest)).length m (passOver m plain p rest).2
      (upTo (m + 1) (before ++ rest)) behind result) :
    Leads plain (upTo (m + 1) before).length m p (upTo (m + 1) before ++ upTo m rest)
      ((passOver m plain p rest).1 ++ behind) result := by
  induction rest generalizing before p with
  | nil => simpa [Punycode.passOver] using h
  | cons c rest ih =>
    rw [List.append_cons] at h
    intro n i hk
    -- The character has been written in an earlier pass, is written now, or comes later.
    rcases Nat.lt_trichotomy c.toNat m with hlt | rfl | hgt
    · have hout : upTo (m + 1) (before ++ [c]) = upTo (m + 1) before ++ [c] := by
        rw [upTo_append, upTo_cons_of_lt _ (by omega), upTo_nil]
      have hrest : upTo m (c :: rest) = c :: upTo m rest := upTo_cons_of_lt rest hlt
      simp only [Punycode.passOver, if_pos hlt] at h ⊢
      have hk' := hk.pass (by simp [hk.count, hrest])
      have := ih (before ++ [c]) h n i
      rw [hout, List.length_append, List.append_assoc] at this
      rw [hrest] at hk' ⊢
      exact this hk'
    · have hout : upTo (c.toNat + 1) (before ++ [c]) = upTo (c.toNat + 1) before ++ [c] := by
        rw [upTo_append, upTo_cons_of_lt _ (by omega), upTo_nil]
      have hrest : upTo c.toNat (c :: rest) = upTo c.toNat rest :=
        upTo_cons_of_ge rest (Nat.le_refl _)
      simp only [Punycode.passOver, Nat.lt_irrefl, if_false, if_true] at h ⊢
      rw [hrest] at hk ⊢
      rw [List.append_assoc, insertions_digits hk, insertIdx_length_append]
      have hk' := hk.insert (adapt p.delta (p.count + 1) (p.count = plain))
      have := ih (before ++ [c]) h c.toNat ((upTo (c.toNat + 1) before).length + 1)
      rw [hout, List.length_append, List.append_assoc] at this
      rw [insertIdx_length_append] at hk'
      exact this hk'
    · have hout : upTo (m + 1) (before ++ [c]) = upTo (m + 1) before := by
        rw [upTo_append, upTo_cons_of_ge _ (by omega), upTo_nil, List.append_nil]
      have hrest : upTo m (c :: rest) = upTo m rest := upTo_cons_of_ge rest (by omega)
      simp only [Punycode.passOver, if_neg (show ¬c.toNat < m by omega),
        if_neg (show ¬c.toNat = m by omega)] at h ⊢
      have := ih (before ++ [c]) h n i
      rw [hout] at this
      rw [hrest] at hk ⊢
      exact this hk

/-- The reader gets the whole label from the passes over it. -/
theorem Leads.passes {label : List Char} {plain m : Nat} {p : Progress} {points : List Nat}
    (hsorted : points.Pairwise (· < ·)) (hle : ∀ k ∈ points, m ≤ k)
    (hall : ∀ c ∈ label, m ≤ c.toNat → c.toNat ∈ points) :
    Leads plain 0 m p (upTo m label) (Punycode.passes label plain m p points) label := by
  induction points generalizing m p with
  | nil =>
    intro n i _
    have hlabel : upTo m label = label := by
      refine List.filter_eq_self.mpr fun c hc => ?_
      have := hall c hc
      simpa using this
    simp [Punycode.passes, insertions, hlabel]
  | cons k points ih =>
    intro n i hk
    have hmk : m ≤ k := hle k (List.mem_cons_self ..)
    -- No character lies between the code point reached and the next one of the list.
    have hbetween : upTo m label = upTo k label := by
      refine upTo_eq fun c hc => ⟨fun h => by omega, fun h => ?_⟩
      by_contra hge
      have hmem := hall c hc (by omega)
      rcases List.mem_cons.mp hmem with heq | hmem
      · omega
      · have := (List.pairwise_cons.mp hsorted).1 _ hmem
        omega
    rw [hbetween] at hk ⊢
    have hrest : ∀ k' ∈ points, k + 1 ≤ k' := (List.pairwise_cons.mp hsorted).1
    have hnext (q : Progress) := ih (m := k + 1) (p := q) (List.pairwise_cons.mp hsorted).2 hrest
      fun c hc hle => (List.mem_cons.mp (hall c hc (by omega))).resolve_left (by omega)
    refine Leads.passOver [] label (fun n i hk => ?_) n i (hk.reach hmk)
    rw [List.nil_append] at hk ⊢
    exact hnext _ n i (hk.count ▸ hk).again

/-! ## The code points of a label -/

theorem mem_insertOnce {n k : Nat} {ms : List Nat} : k ∈ insertOnce n ms ↔ k = n ∨ k ∈ ms := by
  induction ms with
  | nil => simp [insertOnce]
  | cons m ms ih =>
    simp only [insertOnce]
    split
    · simp
    · split
      · rename_i heq
        simp [heq]
      · simp only [List.mem_cons, ih]
        exact or_left_comm

theorem sorted_insertOnce (n : Nat) {ms : List Nat} (h : ms.Pairwise (· < ·)) :
    (insertOnce n ms).Pairwise (· < ·) := by
  induction ms with
  | nil => simp [insertOnce]
  | cons m ms ih =>
    obtain ⟨hm, hms⟩ := List.pairwise_cons.mp h
    simp only [insertOnce]
    split
    · rename_i hlt
      refine List.pairwise_cons.mpr ⟨fun k hk => ?_, h⟩
      rcases List.mem_cons.mp hk with rfl | hk
      · exact hlt
      · exact hlt.trans (hm k hk)
    · split
      · exact h
      · refine List.pairwise_cons.mpr ⟨fun k hk => ?_, ih hms⟩
        rcases mem_insertOnce.mp hk with rfl | hk
        · omega
        · exact hm k hk

theorem mem_beyond {label : List Char} {k : Nat} :
    k ∈ beyond label ↔ ∃ c ∈ label, 128 ≤ c.toNat ∧ c.toNat = k := by
  have hfold : ∀ ms : List Nat, k ∈ ms.foldr insertOnce [] ↔ k ∈ ms := by
    intro ms
    induction ms with
    | nil => simp
    | cons m ms ih => simp [mem_insertOnce, ih]
  simp [beyond, hfold, and_assoc]

theorem sorted_beyond (label : List Char) : (beyond label).Pairwise (· < ·) := by
  unfold beyond
  induction (label.filter fun c => decide (128 ≤ c.toNat)).map Char.toNat with
  | nil => simp
  | cons m ms ih => exact sorted_insertOnce m ih

/-! ## Labels and their ASCII forms -/

theorem mem_passOver {c : Char} {n plain : Nat} {p : Progress} {label : List Char}
    (hc : c ∈ (passOver n plain p label).1) : ∃ d < 36, c = digit d := by
  induction label generalizing p with
  | nil => simp [passOver] at hc
  | cons a rest ih =>
    simp only [passOver] at hc
    split at hc
    · exact ih hc
    · split at hc
      · rcases List.mem_append.mp hc with hc | hc
        · exact mem_digits hc
        · exact ih hc
      · exact ih hc

theorem mem_passes {c : Char} {label : List Char} {plain n : Nat} {p : Progress}
    {points : List Nat} (hc : c ∈ passes label plain n p points) : ∃ d < 36, c = digit d := by
  induction points generalizing n p with
  | nil => simp [passes] at hc
  | cons m points ih =>
    rcases List.mem_append.mp hc with hc | hc
    · exact mem_passOver hc
    · exact ih hc

theorem digit_ne_hyphen {d : Nat} (hd : d < 36) : digit d ≠ '-' := by
  intro h
  have := value?_digit d hd
  rw [h] at this
  cases this

theorem hyphen_not_mem_passes (label : List Char) (plain n : Nat) (p : Progress)
    (points : List Nat) : '-' ∉ passes label plain n p points := by
  intro h
  obtain ⟨d, hd, heq⟩ := mem_passes h
  exact digit_ne_hyphen hd heq.symm

/-- The characters of an ASCII form are those of the label in ASCII, the hyphen, and digits. -/
theorem mem_encode {c : Char} {label : List Char} (hc : c ∈ encode label) :
    (c ∈ label ∧ c.toNat < 128) ∨ c = '-' ∨ ∃ d < 36, c = digit d := by
  rcases List.mem_append.mp hc with hc | hc
  · split at hc
    · cases hc
    · rcases List.mem_append.mp hc with hc | hc
      · left
        simpa using hc
      · exact .inr (.inl (List.mem_singleton.mp hc))
  · exact .inr (.inr (mem_passes hc))

/-- The last hyphen of a text is the one with no hyphen behind it. -/
theorem splitLast_hyphen (front : List Char) {tail : List Char} (htail : '-' ∉ tail) :
    splitLast (front ++ ['-'] ++ tail) =
      if front.isEmpty then ([], front ++ ['-'] ++ tail) else (front, tail) := by
  have hlast : ((front ++ ['-'] ++ tail).reverse.takeWhile (· ≠ '-')).reverse = tail := by
    rw [List.reverse_append, List.reverse_append, List.takeWhile_append_of_pos fun c hc => ?_]
    · simp
    · have : c ≠ '-' := fun h => htail (List.mem_reverse.mp (h ▸ hc))
      simpa using this
  have htake : (front ++ ['-'] ++ tail).take
      ((front ++ ['-'] ++ tail).length - tail.length - 1) = front := by
    rw [List.append_assoc]
    exact List.take_left' (by simp; omega)
  simp only [splitLast, hlast, htake]

theorem splitLast_of_not_mem {s : List Char} (h : '-' ∉ s) : splitLast s = ([], s) := by
  have hlast : (s.reverse.takeWhile (· ≠ '-')).reverse = s := by
    rw [List.takeWhile_eq_self_iff.mpr fun c hc => ?_, List.reverse_reverse]
    have : c ≠ '-' := fun heq => h (List.mem_reverse.mp (heq ▸ hc))
    simpa using this
  simp only [splitLast, hlast, Nat.sub_self, Nat.zero_sub, List.take_zero, List.isEmpty_nil,
    if_true]

/-- Where nothing has been inserted yet, the reader and the writer are at the same place. -/
theorem keeps_start (out : List Char) : Keeps out.length 0 128 ⟨0, 72, out.length⟩ out 128 0 where
  distance := rfl
  behind := Nat.le_refl _
  within := Nat.zero_le _
  plain_le := Nat.le_refl _
  first := by simp
  count := rfl

/-- What the writer has written of a label in digits. -/
def written (label : List Char) : List Char :=
  passes label (upTo 128 label).length 128 ⟨0, 72, (upTo 128 label).length⟩ (beyond label)

theorem splitLast_encode (label : List Char) :
    splitLast (encode label) = (upTo 128 label, written label) := by
  have hnot : '-' ∉ written label := hyphen_not_mem_passes _ _ _ _ _
  have hencode : encode label =
      (if (upTo 128 label).isEmpty then [] else upTo 128 label ++ ['-']) ++ written label := rfl
  rw [hencode]
  split
  · rename_i hempty
    rw [List.nil_append, splitLast_of_not_mem hnot, List.isEmpty_iff.mp hempty]
  · rename_i hfront
    rw [splitLast_hyphen _ hnot, if_neg hfront]

/-- A label is read back from its ASCII form. -/
theorem decode_encode (label : List Char) : decode (encode label) = some label := by
  have hread : insertions 72 128 0 (upTo 128 label) (written label) = some label := by
    refine Leads.passes (sorted_beyond label) (fun k hk => ?_) (fun c hc hle => ?_) 128 0
      (keeps_start _)
    · obtain ⟨c, -, hle, rfl⟩ := mem_beyond.mp hk
      exact hle
    · exact mem_beyond.mpr ⟨c, hc, hle, rfl⟩
  have hplain : (upTo 128 label).all fun c => decide (c.toNat < 128) := by simp [upTo]
  rw [decode, splitLast_encode]
  simp only [hplain, if_true, hread]

/-! ## What can be read is in ASCII -/

theorem lt_of_value? {c : Char} {d : Nat} (h : value? c = some d) : c.toNat < 128 := by
  unfold value? at h
  split at h
  · rename_i hc
    have : c.toNat ≤ 'z'.toNat := hc.2
    simp at this; omega
  · split at h
    · rename_i hc
      have : c.toNat ≤ 'Z'.toNat := hc.2
      simp at this; omega
    · split at h
      · rename_i hc
        have : c.toNat ≤ '9'.toNat := hc.2
        simp at this; omega
      · cases h

/-- What a distance is read from is in ASCII. -/
theorem distance?_plain {bias : Nat} {s : List Char} {k weight sum : Nat} {r : Nat × List Char}
    (h : distance? bias k weight sum s = some r) (hrest : ∀ c ∈ r.2, c.toNat < 128) :
    ∀ c ∈ s, c.toNat < 128 := by
  induction s generalizing k weight sum with
  | nil => simp
  | cons a rest ih =>
    simp only [distance?] at h
    split at h
    · cases h
    · rename_i d hd
      have ha := lt_of_value? hd
      refine List.forall_mem_cons.mpr ⟨ha, ?_⟩
      split at h
      · cases h
        exact hrest
      · exact ih h

theorem insertions_plain {bias n i : Nat} {out s label : List Char}
    (h : insertions bias n i out s = some label) : ∀ c ∈ s, c.toNat < 128 := by
  induction bias, n, i, out, s using insertions.induct with
  | case1 bias n i out s hs => simp [List.isEmpty_iff.mp hs]
  | case2 bias n i out s hs hd =>
    rw [insertions, if_neg hs] at h
    split at h
    · cases h
    · rename_i heq
      rw [hd] at heq
      cases heq
  | case3 bias n i out s hs j rest hd count m hvalid ih =>
    rw [insertions_of_distance? hd, if_pos hvalid] at h
    exact distance?_plain hd (ih h)
  | case4 bias n i out s hs j rest hd count m hvalid =>
    rw [insertions_of_distance? hd, if_neg hvalid] at h
    cases h

/-- A text with a hyphen has a last one. -/
theorem exists_last_hyphen {s : List Char} (h : '-' ∈ s) :
    ∃ front tail, s = front ++ ['-'] ++ tail ∧ '-' ∉ tail := by
  induction s with
  | nil => cases h
  | cons a s ih =>
    by_cases hs : '-' ∈ s
    · obtain ⟨front, tail, rfl, htail⟩ := ih hs
      exact ⟨a :: front, tail, rfl, htail⟩
    · have ha : a = '-' := ((List.mem_cons.mp h).resolve_right hs).symm
      exact ⟨[], s, by simp [ha], hs⟩

/-- The parts of a text at its last hyphen have all its other characters. -/
theorem mem_splitLast {s : List Char} {c : Char} (hc : c ∈ s) :
    c ∈ (splitLast s).1 ∨ c = '-' ∨ c ∈ (splitLast s).2 := by
  by_cases hs : '-' ∈ s
  · obtain ⟨front, tail, rfl, htail⟩ := exists_last_hyphen hs
    rw [splitLast_hyphen front htail]
    split
    · exact .inr (.inr hc)
    · simpa [or_assoc] using hc
  · rw [splitLast_of_not_mem hs]
    exact .inr (.inr hc)

/-- A text that is read as Punycode is in ASCII. -/
theorem plain_of_decode {s label : List Char} (h : decode s = some label) :
    ∀ c ∈ s, c.toNat < 128 := by
  intro c hc
  simp only [decode] at h
  split at h
  · rename_i hplain
    rcases mem_splitLast hc with hc | rfl | hc
    · simpa using List.all_eq_true.mp hplain c hc
    · decide
    · exact insertions_plain h c hc
  · cases h

/-! ## Labels that get long

The digits of a distance grow with the label, so a label of characters that lie far apart takes
three digits for almost every one of them. -/

theorem three_le_length_digits (bias k : Nat) {delta : Nat} (h : 936 ≤ delta) :
    3 ≤ (digits bias k delta).length := by
  have hle := threshold_le bias k
  have hpos := threshold_pos bias k
  obtain ⟨d, left, hdigits, -, hd, -, hsum⟩ :=
    digits_of_ge (show threshold bias k ≤ delta by omega)
  have hleft : 26 ≤ left := by
    by_contra hlt
    have := Nat.mul_le_mul (show left ≤ 25 by omega) (show 36 - threshold bias k ≤ 35 by omega)
    omega
  obtain ⟨d', left', hdigits', -⟩ :=
    digits_of_ge ((threshold_le bias (k + 36)).trans hleft)
  have := List.length_pos_iff.mpr (digits_ne_nil bias (k + 36 + 36) left')
  simp only [hdigits, hdigits', List.length_cons]
  omega

theorem passOver_below {m plain : Nat} {p : Progress} {front : List Char} (rest : List Char)
    (h : ∀ c ∈ front, c.toNat < m) :
    passOver m plain p (front ++ rest) =
      passOver m plain { p with delta := p.delta + front.length } rest := by
  induction front generalizing p with
  | nil => rfl
  | cons c front ih =>
    obtain ⟨hc, hfront⟩ := List.forall_mem_cons.mp h
    rw [List.cons_append, passOver, if_pos hc, ih hfront]
    simp [Nat.add_assoc, Nat.add_comm 1]

theorem passOver_above {m plain : Nat} {p : Progress} {rest : List Char}
    (h : ∀ c ∈ rest, m < c.toNat) : passOver m plain p rest = ([], p) := by
  induction rest with
  | nil => rfl
  | cons c rest ih =>
    obtain ⟨hc, hrest⟩ := List.forall_mem_cons.mp h
    rw [passOver, if_neg (by omega), if_neg (by omega), ih hrest]

theorem passOver_only {plain : Nat} {c : Char} {front rest : List Char} (p : Progress)
    (hbelow : ∀ d ∈ front, d.toNat < c.toNat) (habove : ∀ d ∈ rest, c.toNat < d.toNat) :
    passOver c.toNat plain p (front ++ c :: rest) =
      (digits p.bias 36 (p.delta + front.length),
        ⟨0, adapt (p.delta + front.length) (p.count + 1) (p.count = plain), p.count + 1⟩) := by
  rw [passOver_below _ hbelow, passOver, if_neg (Nat.lt_irrefl _), if_pos rfl]
  simp only [passOver_above habove, List.append_nil]

/-- Whether the characters of a text ascend by twenty code points or more. -/
def Spread (s : List Char) : Prop := s.Pairwise fun a b => a.toNat + 20 ≤ b.toNat

instance (s : List Char) : Decidable (Spread s) := inferInstanceAs (Decidable (s.Pairwise _))

theorem beyond_of_spread {label : List Char} (h : Spread label)
    (hbeyond : ∀ c ∈ label, 128 ≤ c.toNat) : beyond label = label.map Char.toNat := by
  have hfilter : (label.filter fun c => decide (128 ≤ c.toNat)) = label :=
    List.filter_eq_self.mpr fun c hc => by simpa using hbeyond c hc
  rw [beyond, hfilter]
  clear hfilter hbeyond
  induction label with
  | nil => rfl
  | cons c label ih =>
    obtain ⟨hc, hlabel⟩ := List.pairwise_cons.mp h
    rw [List.map_cons, List.foldr_cons, ih hlabel]
    cases label with
    | nil => rfl
    | cons d label =>
      have := hc d (List.mem_cons_self ..)
      rw [List.map_cons, insertOnce, if_pos (by omega)]

/-- Past the first 46 characters of a label that spreads out, each takes three digits. -/
theorem length_passes (plain : Nat) (front rest : List Char) {n : Nat} {p : Progress}
    (h : Spread (front ++ rest)) (hn : ∀ c ∈ rest, n + 19 ≤ c.toNat)
    (hcount : p.count = front.length) :
    3 * rest.length ≤
      (passes (front ++ rest) plain n p (rest.map Char.toNat)).length +
        3 * (46 - front.length) := by
  induction rest generalizing front n p with
  | nil => simp
  | cons c rest ih =>
    obtain ⟨hfront, hrest, hcross⟩ := List.pairwise_append.mp h
    have hbelow : ∀ d ∈ front, d.toNat < c.toNat := fun d hd => by
      have := hcross d hd c (List.mem_cons_self ..)
      omega
    have habove : ∀ d ∈ rest, c.toNat + 20 ≤ d.toNat := (List.pairwise_cons.mp hrest).1
    have hc := hn c (List.mem_cons_self ..)
    -- Of the first 46 characters nothing is asked, so the bound loses three digits for each.
    have hwritten (delta : Nat) (hd : front.length + 19 * (front.length + 1) ≤ delta) :
        3 ≤ (digits p.bias 36 delta).length + 3 * (46 - front.length) -
          3 * (46 - (front.length + 1)) := by
      rcases Nat.lt_or_ge front.length 46 with hlt | hge
      · omega
      · have := three_le_length_digits p.bias 36 (show 936 ≤ delta by omega)
        omega
    rw [List.map_cons, passes, passOver_only _ hbelow fun d hd => by have := habove d hd; omega]
    have hdelta := hwritten (p.delta + (c.toNat - n) * (p.count + 1) + front.length) (by
      have := Nat.mul_le_mul_right (p.count + 1) (show 19 ≤ c.toNat - n by omega)
      omega)
    have := ih (front ++ [c]) (n := c.toNat + 1)
      (p := ⟨0 + 1, adapt (p.delta + (c.toNat - n) * (p.count + 1) + front.length) (p.count + 1)
        (p.count = plain), p.count + 1⟩)
      (by simpa using h) (fun d hd => by have := habove d hd; omega) (by simp [hcount])
    simp only [List.append_assoc, List.singleton_append, List.length_append, List.length_cons,
      List.length_nil, Nat.zero_add] at this ⊢
    omega

/-- A label that spreads out has an ASCII form three times as long, but for its first characters. -/
theorem length_encode {label : List Char} (h : Spread label)
    (hbeyond : ∀ c ∈ label, 147 ≤ c.toNat) : 3 * label.length ≤ (encode label).length + 138 := by
  have hupTo : upTo 128 label = [] := by
    refine List.filter_eq_nil_iff.mpr fun c hc => ?_
    have := hbeyond c hc
    simp only [decide_eq_true_eq]
    omega
  have hbeyond' : beyond label = label.map Char.toNat :=
    beyond_of_spread h fun c hc => by have := hbeyond c hc; omega
  have := length_passes 0 [] label (n := 128) (p := ⟨0, 72, 0⟩) h
    (fun c hc => hbeyond c hc) rfl
  have hencode : encode label = written label := by
    change (if (upTo 128 label).isEmpty then [] else upTo 128 label ++ ['-']) ++ written label = _
    rw [hupTo]
    rfl
  rw [hencode, written, hupTo, hbeyond']
  exact this

end Punycode
end Endpoint
end RaceLink
