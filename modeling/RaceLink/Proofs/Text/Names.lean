import RaceLink.Text.Fold
import RaceLink.Text.Joiner

/-!
# What folding and composing leave

A name is folded and then composed.  Composing takes characters apart first, so it could bring a
capital letter back that folding has never seen: the one inside an accented capital.  It does not,
because folding also replaces every character with a capital inside.

* `bearers` — the characters with a capital inside, as the rows of `Fold.rows` that replace them.
* `not_capital_of_folded` — after folding and composing no capital letter is left.
* `of_mem_partsAt`, `partsAt_intercalate` — taking a text apart, and putting parts together.
* `fold_small`, `text_plain` — in ASCII, small letters and all signs stay as they are.
* `fold_ideographs`, `text_ideographs` — so do the ideographs.

The tables are finite, and what is needed of their rows is checked row by row; the recursions of
folding and composing carry it to all texts.
-/

set_option autoImplicit false

namespace RaceLink
namespace Text

/-! ## Tables -/

/-- No row of a table meets a run of code points. -/
def misses (table : List (Nat × Nat)) (low high : Nat) : Bool :=
  table.all fun r => decide (r.2 < low) || decide (high < r.1)

theorem within_eq_false {table : List (Nat × Nat)} {n low high : Nat}
    (h : misses table low high) (hlow : low ≤ n) (hhigh : n ≤ high) : within table n = false := by
  rw [within, List.any_eq_false]
  intro r hr
  have := List.all_eq_true.mp h r hr
  simp only [Bool.or_eq_true, Bool.and_eq_true, decide_eq_true_eq] at this ⊢
  omega

theorem Row.bounds {r : Row} {n : Nat} {v : List Nat} (h : r.value? n = some v) :
    r.first ≤ n ∧ n ≤ r.last := by
  unfold Row.value? at h
  split at h
  · assumption
  · cases h

theorem exists_row {table : List Row} {n : Nat} {v : List Nat} (h : lookup table n = some v) :
    ∃ r ∈ table, r.value? n = some v :=
  List.exists_of_findSome?_eq_some h

theorem lookup_ne_none {table : List Row} {r : Row} {n : Nat} (hr : r ∈ table)
    (h : r.value? n ≠ none) : lookup table n ≠ none := by
  intro hnone
  exact h (List.findSome?_eq_none_iff.mp hnone r hr)

theorem lookup_eq_none {table : List Row} {n low high : Nat}
    (h : misses (table.map fun r => (r.first, r.last)) low high) (hlow : low ≤ n)
    (hhigh : n ≤ high) : lookup table n = none := by
  rw [lookup, List.findSome?_eq_none_iff]
  intro r hr
  have := List.all_eq_true.mp h (r.first, r.last) (List.mem_map_of_mem hr)
  simp only [Bool.or_eq_true, decide_eq_true_eq] at this
  rw [Row.value?, if_neg (by omega)]

/-- The values of a row are its first ones, moved on by less than the length of the row. -/
theorem Row.mem_value {r : Row} {n m : Nat} {v : List Nat} (h : r.value? n = some v)
    (hm : m ∈ v) : ∃ k ∈ r.value, k ≤ m ∧ m ≤ k + (r.last - r.first) := by
  have hb := Row.bounds h
  unfold Row.value? at h
  rw [if_pos hb] at h
  split at h
  · cases h
    exact ⟨m, hm, by omega, by omega⟩
  · cases h
    obtain ⟨k, hk, rfl⟩ := List.mem_map.mp hm
    exact ⟨k, hk, by omega, by omega⟩
  · split at h
    · cases h
      obtain ⟨k, hk, rfl⟩ := List.mem_map.mp hm
      exact ⟨k, hk, by omega, by omega⟩
    · cases h

/-- All values that a row gives. -/
def Row.given (r : Row) : List Nat :=
  (List.range (r.last - r.first + 1)).flatMap fun k => (r.value? (r.first + k)).getD []

theorem Row.mem_given {r : Row} {n m : Nat} {v : List Nat} (h : r.value? n = some v)
    (hm : m ∈ v) : m ∈ r.given := by
  have hb := Row.bounds h
  refine List.mem_flatMap.mpr ⟨n - r.first, List.mem_range.mpr (by omega), ?_⟩
  rw [Nat.add_sub_cancel' hb.1, h]
  exact hm

/-! ## Parts of a text -/

section Parts

variable {p : Char → Bool}

theorem partsAt_cons (c : Char) (s : List Char) :
    partsAt p (c :: s) =
      if p c then [] :: partsAt p s
      else
        match partsAt p s with
        | [] => [[c]]
        | part :: rest => (c :: part) :: rest :=
  rfl

theorem partsAt_ne_nil (s : List Char) : partsAt p s ≠ [] := by
  cases s with
  | nil => simp [partsAt]
  | cons c s =>
    rw [partsAt_cons]
    split
    · simp
    · split <;> simp

/-- The parts have the characters of the text that do not separate. -/
theorem of_mem_partsAt {s part : List Char} (h : part ∈ partsAt p s) :
    ∀ c ∈ part, c ∈ s ∧ p c = false := by
  induction s generalizing part with
  | nil =>
    rw [List.mem_singleton.mp h]
    simp
  | cons a s ih =>
    intro c hc
    rw [partsAt_cons] at h
    split at h
    · rcases List.mem_cons.mp h with rfl | h
      · cases hc
      · exact ⟨List.mem_cons_of_mem _ (ih h c hc).1, (ih h c hc).2⟩
    · rename_i ha
      split at h
      · rw [List.mem_singleton.mp h, List.mem_singleton] at hc
        subst hc
        exact ⟨List.mem_cons_self .., by simpa using ha⟩
      · rename_i first rest heq
        rcases List.mem_cons.mp h with rfl | h
        · rcases List.mem_cons.mp hc with rfl | hc
          · exact ⟨List.mem_cons_self .., by simpa using ha⟩
          · have := ih (heq ▸ List.mem_cons_self ..) c hc
            exact ⟨List.mem_cons_of_mem _ this.1, this.2⟩
        · have := ih (heq ▸ List.mem_cons_of_mem _ h) c hc
          exact ⟨List.mem_cons_of_mem _ this.1, this.2⟩

/-- A part ends at the first character that separates. -/
theorem partsAt_append_cons {s : List Char} {sep : Char} (hs : ∀ c ∈ s, p c = false)
    (hsep : p sep) (t : List Char) : partsAt p (s ++ sep :: t) = s :: partsAt p t := by
  induction s with
  | nil => rw [List.nil_append, partsAt_cons, if_pos hsep]
  | cons c s ih =>
    obtain ⟨hc, hs⟩ := List.forall_mem_cons.mp hs
    rw [List.cons_append, partsAt_cons, ih hs, hc]
    rfl

theorem partsAt_clear {s : List Char} (hs : ∀ c ∈ s, p c = false) : partsAt p s = [s] := by
  induction s with
  | nil => rfl
  | cons c s ih =>
    obtain ⟨hc, hs⟩ := List.forall_mem_cons.mp hs
    rw [partsAt_cons, ih hs, hc]
    rfl

/-- Parts that are put together with separators are found again. -/
theorem partsAt_intercalate {parts : List (List Char)} {sep : Char} (hne : parts ≠ [])
    (hparts : ∀ part ∈ parts, ∀ c ∈ part, p c = false) (hsep : p sep) :
    partsAt p (List.intercalate [sep] parts) = parts := by
  induction parts with
  | nil => exact absurd rfl hne
  | cons part parts ih =>
    obtain ⟨hpart, hparts⟩ := List.forall_mem_cons.mp hparts
    cases parts with
    | nil => simpa using partsAt_clear hpart
    | cons next parts =>
      rw [List.intercalate_cons_cons, List.append_assoc, List.singleton_append,
        partsAt_append_cons hpart hsep, ih (by simp) hparts]

theorem mem_intercalate {parts : List (List Char)} {sep c : Char}
    (h : c ∈ List.intercalate [sep] parts) : c = sep ∨ ∃ part ∈ parts, c ∈ part := by
  induction parts with
  | nil => cases h
  | cons part parts ih =>
    cases parts with
    | nil => exact .inr ⟨part, List.mem_cons_self .., by simpa using h⟩
    | cons next parts =>
      rw [List.intercalate_cons_cons, List.mem_append, List.mem_append, List.mem_singleton] at h
      rcases h with (h | h) | h
      · exact .inr ⟨part, List.mem_cons_self .., h⟩
      · exact .inl h
      · rcases ih h with h | ⟨q, hq, h⟩
        · exact .inl h
        · exact .inr ⟨q, List.mem_cons_of_mem _ hq, h⟩

end Parts

/-! ## Capital letters -/

/-- Whether a code point is a capital letter of ASCII. -/
def capital (n : Nat) : Bool := decide (65 ≤ n) && decide (n ≤ 90)

/-- The characters with a capital letter inside, each with what it is folded into. -/
def bearers : List Row :=
  [.each 0xc0 0xd6 [0xe0], .each 0xd8 0xde [0xf8], .other 0x100 0x12e [0x101],
   .one 0x130 [0x69, 0x307], .other 0x134 0x136 [0x135], .other 0x139 0x13d [0x13a],
   .other 0x141 0x147 [0x142], .other 0x14a 0x176 [0x14b], .one 0x178 [0xff],
   .other 0x179 0x17d [0x17a], .other 0x1a0 0x1a4 [0x1a1], .one 0x1af [0x1b0],
   .other 0x1cd 0x1db [0x1ce], .other 0x1de 0x1ee [0x1df], .one 0x1f4 [0x1f5],
   .other 0x1f8 0x21e [0x1f9], .other 0x222 0x232 [0x223], .other 0x1e00 0x1e94 [0x1e01],
   .other 0x1ea0 0x1efe [0x1ea1]]

/-- Whether a code point is a capital letter, or has one inside. -/
def hides (n : Nat) : Bool := capital n || (lookup bearers n).isSome

/-- Long runs of code points without a capital letter and without a bearer. -/
def gaps : List (Nat × Nat) := [(0x1eff, 0x10ffff), (0x5b, 0xbf), (0x233, 0x1dff), (0x0, 0x40)]

/-- Whether a run of code points lies in one of the gaps. -/
def inGap (low high : Nat) : Bool :=
  gaps.any fun g => decide (g.1 ≤ low) && decide (high ≤ g.2)

theorem gaps_miss : gaps.all fun g =>
    misses ((65, 90) :: bearers.map fun r => (r.first, r.last)) g.1 g.2 := by
  decide +kernel

theorem hides_of_inGap {low high n : Nat} (h : inGap low high) (hlow : low ≤ n)
    (hhigh : n ≤ high) : hides n = false := by
  obtain ⟨g, hg, hin⟩ := List.any_eq_true.mp h
  simp only [Bool.and_eq_true, decide_eq_true_eq] at hin
  have hmiss := List.all_eq_true.mp gaps_miss g hg
  rw [misses, List.all_cons, Bool.and_eq_true] at hmiss
  obtain ⟨hcapital, hrows⟩ := hmiss
  simp only [Bool.or_eq_true, decide_eq_true_eq] at hcapital
  have hnone : lookup bearers n = none :=
    lookup_eq_none hrows (Nat.le_trans hin.1 hlow) (Nat.le_trans hhigh hin.2)
  simp only [hides, hnone, Option.isSome_none, Bool.or_false, capital, Bool.and_eq_false_iff,
    decide_eq_false_iff_not]
  omega

/-! ## What folding leaves -/

theorem bearers_rows : ∀ r ∈ bearers, r ∈ Fold.rows := by decide +kernel

theorem rows_clear : Fold.rows.all fun r =>
    (r.value.all fun k => inGap k (k + (r.last - r.first))) || r.given.all fun m => !hides m := by
  decide +kernel

theorem hides_of_lookup {n m : Nat} {v : List Nat} (h : lookup Fold.rows n = some v)
    (hm : m ∈ v) : hides m = false := by
  obtain ⟨r, hr, hv⟩ := exists_row h
  have := List.all_eq_true.mp rows_clear r hr
  rcases Bool.or_eq_true_iff.mp this with hgap | hgiven
  · obtain ⟨k, hk, hle, hge⟩ := Row.mem_value hv hm
    exact hides_of_inGap (List.all_eq_true.mp hgap k hk) hle hge
  · simpa using List.all_eq_true.mp hgiven m (Row.mem_given hv hm)

theorem hides_ofNat {m : Nat} (h : hides m = false) : hides (Char.ofNat m).toNat = false := by
  by_cases hm : m.isValidChar
  · rw [Char.ofNat, dif_pos hm]
    exact h
  · rw [Char.ofNat, dif_neg hm]
    rfl

theorem hides_toLower : ∀ n < 128, hides (Char.ofNat n).toLower.toNat = false := by
  decide +kernel

/-- A character that no row replaces has no capital inside. -/
theorem hides_of_lookup_eq_none {n : Nat} (h : lookup Fold.rows n = none) (hn : 128 ≤ n) :
    hides n = false := by
  have hbearers : lookup bearers n = none := by
    rw [Option.eq_none_iff_forall_ne_some]
    intro v hv
    obtain ⟨r, hr, hrow⟩ := exists_row hv
    exact lookup_ne_none (bearers_rows r hr) (by simp [hrow]) h
  simp only [hides, hbearers, Option.isSome_none, Bool.or_false, capital, Bool.and_eq_false_iff,
    decide_eq_false_iff_not]
  omega

theorem hides_of_char {c d : Char} {out : List Char} (h : Fold.char c = some out)
    (hd : d ∈ out) : hides d.toNat = false := by
  unfold Fold.char at h
  split at h
  · rename_i hc
    cases h
    rw [List.mem_singleton.mp hd]
    simpa using hides_toLower c.toNat hc
  · rename_i hc
    split at h
    · cases h
    · cases h
      obtain ⟨m, hm, rfl⟩ := List.mem_map.mp hd
      refine hides_ofNat ?_
      cases hrow : lookup Fold.rows c.toNat with
      | none =>
        rw [hrow, Option.getD_none, List.mem_singleton] at hm
        exact hm ▸ hides_of_lookup_eq_none hrow (Nat.le_of_not_lt hc)
      | some v =>
        rw [hrow, Option.getD_some] at hm
        exact hides_of_lookup hrow hm

theorem hides_of_text {s folded : List Char} (h : Fold.text s = some folded) :
    ∀ d ∈ folded, hides d.toNat = false := by
  induction s generalizing folded with
  | nil => cases h; simp
  | cons c rest ih =>
    simp only [Fold.text, Option.bind_eq_bind, Option.bind_eq_some_iff, Option.pure_def,
      Option.some.injEq] at h
    obtain ⟨first, hfirst, others, hothers, rfl⟩ := h
    intro d hd
    rcases List.mem_append.mp hd with hd | hd
    · exact hides_of_char hfirst hd
    · exact ih hothers d hd

/-! ## What composing leaves -/

namespace Compose

theorem pairs_closed : pairs.all fun r =>
    (!capital r.2.2) && (inGap r.2.1 r.2.1 || !hides r.2.1 || hides r.1) &&
      decide (128 ≤ r.1) := by
  decide +kernel

/-- The parts of a syllable have no capital inside. -/
theorem hides_of_syllable? {n a b : Nat} (h : syllable? n = some (a, b)) :
    hides a = false ∧ hides b = false := by
  have hjamo {m : Nat} (hlow : 0x1100 ≤ m) (hhigh : m ≤ 0x11ff) : hides m = false :=
    hides_of_inGap (show inGap 0x1100 0x11ff by decide) hlow hhigh
  have hwhole {m : Nat} (hlow : 0xac00 ≤ m) (hhigh : m ≤ 0xd7ff) : hides m = false :=
    hides_of_inGap (show inGap 0xac00 0xd7ff by decide) hlow hhigh
  unfold syllable? at h
  split at h
  · rename_i hn
    unfold syllables at h hn
    extract_lets i at h
    split at h
    · obtain ⟨rfl, rfl⟩ := Prod.mk.inj (Option.some.inj h)
      exact ⟨hjamo (by omega) (by omega), hjamo (by omega) (by omega)⟩
    · obtain ⟨rfl, rfl⟩ := Prod.mk.inj (Option.some.inj h)
      exact ⟨hwhole (by omega) (by omega), hjamo (by omega) (by omega)⟩
  · cases h

theorem capital_of_hides {n : Nat} (h : hides n = false) : capital n = false :=
  (Bool.or_eq_false_iff.mp h).1

/-- The parts of a character: the second is no capital, and if the first has one inside, so has the
character. -/
theorem hides_of_parts? {n a b : Nat} (h : parts? n = some (a, b)) :
    capital b = false ∧ (hides a → hides n) := by
  unfold parts? at h
  split at h
  · rename_i r hr
    have hmem := List.mem_of_find?_eq_some hr
    have heq : r.1 = n := by simpa using List.find?_some hr
    have hclosed := List.all_eq_true.mp pairs_closed r hmem
    rw [Option.some.inj h] at hclosed
    simp only [Bool.and_eq_true, Bool.or_eq_true, Bool.not_eq_true'] at hclosed
    obtain ⟨⟨hb, ha⟩, -⟩ := hclosed
    refine ⟨hb, fun hides_a => ?_⟩
    rcases ha with (ha | ha) | ha
    · rw [hides_of_inGap ha (Nat.le_refl _) (Nat.le_refl _)] at hides_a
      cases hides_a
    · rw [ha] at hides_a
      cases hides_a
    · exact heq ▸ ha
  · obtain ⟨ha, hb⟩ := hides_of_syllable? h
    exact ⟨capital_of_hides hb, fun h => by rw [ha] at h; cases h⟩

/-- A character that comes apart into a capital and marks has that capital inside. -/
theorem hides_of_apart {depth n m : Nat} (hm : m ∈ apart depth n) (h : capital m) : hides n := by
  induction depth generalizing n with
  | zero =>
    rw [apart, List.mem_singleton] at hm
    subst hm
    simp [hides, h]
  | succ depth ih =>
    rw [apart] at hm
    split at hm
    · rename_i a b hparts
      obtain ⟨hb, ha⟩ := hides_of_parts? hparts
      rcases List.mem_append.mp hm with hm | hm
      · exact ha (ih hm)
      · rw [List.mem_singleton.mp hm, hb] at h
        cases h
    · rw [List.mem_singleton.mp hm] at h
      simp [hides, h]

theorem mem_settle {n m : Nat} {before : List Nat} :
    m ∈ settle n before ↔ m = n ∨ m ∈ before := by
  induction before with
  | nil => simp [settle]
  | cons k before ih =>
    rw [settle]
    split
    · rw [List.mem_cons, ih, List.mem_cons]
      exact or_left_comm
    · simp

theorem mem_spread {m : Nat} {s : List Nat} : m ∈ spread s ↔ m ∈ s.flatMap (apart 4) := by
  have hfold (ns before : List Nat) :
      m ∈ ns.foldl (fun before n => settle n before) before ↔ m ∈ ns ∨ m ∈ before := by
    induction ns generalizing before with
    | nil => simp
    | cons n ns ih =>
      rw [List.foldl_cons, ih, mem_settle, List.mem_cons]
      exact or_left_comm.trans or_assoc.symm
  simp [spread, hfold]

/-- A composed character is not in ASCII. -/
theorem beyond_of_whole? {a b n : Nat} (h : whole? a b = some n) : 128 ≤ n := by
  unfold whole? at h
  split at h
  · rename_i r hr
    have hclosed := List.all_eq_true.mp pairs_closed r (List.mem_of_find?_eq_some hr)
    simp only [Bool.and_eq_true, decide_eq_true_eq] at hclosed
    exact Option.some.inj h ▸ hclosed.2
  · unfold syllableOf? syllables at h
    split at h
    · have := Option.some.inj h
      omega
    · split at h
      · have := Option.some.inj h
        omega
      · cases h

/-- What is put together are characters that were there, and composed ones. -/
theorem mem_join {m letter : Nat} {kept rest : List Nat} (h : m ∈ join letter kept rest) :
    m = letter ∨ m ∈ kept ∨ m ∈ rest ∨ 128 ≤ m := by
  induction rest generalizing letter kept with
  | nil =>
    rw [join, List.mem_cons, List.mem_reverse] at h
    rcases h with h | h
    · exact .inl h
    · exact .inr (.inl h)
  | cons n rest ih =>
    unfold join at h
    extract_lets reaches at h
    split at h
    · rename_i c hc
      have hwhole : whole? letter n = some c := by
        split at hc
        · exact hc
        · cases hc
      rcases ih h with rfl | h | h | h
      · exact .inr (.inr (.inr (beyond_of_whole? hwhole)))
      · exact .inr (.inl h)
      · exact .inr (.inr (.inl (List.mem_cons_of_mem _ h)))
      · exact .inr (.inr (.inr h))
    · split at h
      · rw [List.mem_cons, List.mem_append, List.mem_reverse] at h
        rcases h with h | h | h
        · exact .inl h
        · exact .inr (.inl h)
        · rcases ih h with rfl | h | h | h
          · exact .inr (.inr (.inl (List.mem_cons_self ..)))
          · cases h
          · exact .inr (.inr (.inl (List.mem_cons_of_mem _ h)))
          · exact .inr (.inr (.inr h))
      · rcases ih h with h | h | h | h
        · exact .inl h
        · rcases List.mem_cons.mp h with rfl | h
          · exact .inr (.inr (.inl (List.mem_cons_self ..)))
          · exact .inr (.inl h)
        · exact .inr (.inr (.inl (List.mem_cons_of_mem _ h)))
        · exact .inr (.inr (.inr h))

/-- A capital in a composed text was inside a character of the text. -/
theorem hides_of_mem_text {s : List Char} {c : Char} (hc : c ∈ text s) (h : capital c.toNat) :
    ∃ d ∈ s, hides d.toNat := by
  unfold text at hc
  split at hc
  · exact ⟨c, hc, by simp [hides, h]⟩
  · split at hc
    · cases hc
    · rename_i n rest hspread
      obtain ⟨m, hm, rfl⟩ := List.mem_map.mp hc
      -- A number that is no code point stands for the null character, which is no capital.
      have hcode : (Char.ofNat m).toNat = m ∧ m < 128 := by
        by_cases hvalid : m.isValidChar
        · rw [Char.ofNat, dif_pos hvalid] at h ⊢
          have : capital m := h
          simp only [capital, Bool.and_eq_true, decide_eq_true_eq] at this
          exact ⟨rfl, by omega⟩
        · rw [Char.ofNat, dif_neg hvalid] at h
          cases h
      rw [hcode.1] at h
      have hmem : m ∈ spread (s.map Char.toNat) := by
        rw [hspread, List.mem_cons]
        rcases mem_join hm with hm | hm | hm | hm
        · exact .inl hm
        · cases hm
        · exact .inr hm
        · omega
      obtain ⟨k, hk, hapart⟩ := List.mem_flatMap.mp (mem_spread.mp hmem)
      obtain ⟨d, hd, rfl⟩ := List.mem_map.mp hk
      exact ⟨d, hd, hides_of_apart hapart h⟩

end Compose

/-- No capital letter is left of a name that is folded and composed. -/
theorem not_capital_of_folded {s folded : List Char} (h : Fold.text s = some folded) :
    ∀ c ∈ Compose.text folded, capital c.toNat = false := by
  intro c hc
  cases hcapital : capital c.toNat with
  | false => rfl
  | true =>
    obtain ⟨d, hd, hhides⟩ := Compose.hides_of_mem_text hc hcapital
    rw [hides_of_text h d hd] at hhides
    cases hhides

/-! ## Small letters and signs of ASCII -/

theorem toLower_small : ∀ n < 128, capital n = false → (Char.ofNat n).toLower = Char.ofNat n := by
  decide

/-- A text of small letters and signs in ASCII stays as it is. -/
theorem fold_small {s : List Char} (h : ∀ c ∈ s, c.toNat < 128 ∧ capital c.toNat = false) :
    Fold.text s = some s := by
  induction s with
  | nil => rfl
  | cons c rest ih =>
    obtain ⟨⟨hc, hsmall⟩, hrest⟩ := List.forall_mem_cons.mp h
    have hlower : c.toLower = c := by simpa using toLower_small c.toNat hc hsmall
    simp [Fold.text, Fold.char, hc, hlower, ih hrest]

theorem text_plain {s : List Char} (h : ∀ c ∈ s, c.toNat < 128) : Compose.text s = s := by
  have hall : (s.all fun c => decide (c.toNat < 128)) = true := by simpa using h
  rw [Compose.text, if_pos hall]

/-! ## Ideographs

Most characters stay as they are, and of them the ideographs are the largest run. -/

/-- Whether a character is an ideograph of the basic block. -/
def ideograph (c : Char) : Bool := decide (0x4e00 ≤ c.toNat) && decide (c.toNat ≤ 0x9fff)

theorem bounds_of_ideograph {c : Char} (h : ideograph c) :
    0x4e00 ≤ c.toNat ∧ c.toNat ≤ 0x9fff := by
  simpa [ideograph] using h

/-- A run of code points that no table has a row for. -/
structure Missed (low high : Nat) : Prop where
  rows : misses (Fold.rows.map fun r => (r.first, r.last)) low high
  refused : misses Fold.refused low high
  wholes : misses (Compose.pairs.map fun r => (r.1, r.1)) low high
  seconds : misses (Compose.pairs.map fun r => (r.2.2, r.2.2)) low high
  classes : misses (Compose.classes.map fun r => (r.1, r.2.1)) low high
  leftwards : misses Direction.leftwards low high
  leftwardDigits : misses Direction.leftwardDigits low high
  digits : misses Direction.digits low high
  neutrals : misses Direction.neutrals low high
  marks : misses Direction.marks low high

theorem missed_ideographs : Missed 0x4e00 0x9fff := by
  have hall : ([Fold.rows.map fun r => (r.first, r.last), Fold.refused,
      Compose.pairs.map fun r => (r.1, r.1), Compose.pairs.map fun r => (r.2.2, r.2.2),
      Compose.classes.map fun r => (r.1, r.2.1), Direction.leftwards, Direction.leftwardDigits,
      Direction.digits, Direction.neutrals, Direction.marks].all
        fun table => misses table 0x4e00 0x9fff) = true := by
    decide +kernel
  simp only [List.all_cons, List.all_nil, Bool.and_true, Bool.and_eq_true] at hall
  obtain ⟨rows, refused, wholes, seconds, classes, leftwards, leftwardDigits, digits, neutrals,
    marks⟩ := hall
  exact ⟨rows, refused, wholes, seconds, classes, leftwards, leftwardDigits, digits, neutrals,
    marks⟩

theorem fold_ideographs {s : List Char} (h : ∀ c ∈ s, ideograph c) : Fold.text s = some s := by
  induction s with
  | nil => rfl
  | cons c rest ih =>
    obtain ⟨hc, hrest⟩ := List.forall_mem_cons.mp h
    obtain ⟨hlow, hhigh⟩ := bounds_of_ideograph hc
    have hchar : Fold.char c = some [c] := by
      rw [Fold.char, if_neg (by omega), within_eq_false missed_ideographs.refused hlow hhigh,
        lookup_eq_none missed_ideographs.rows hlow hhigh]
      simp
    simp [Fold.text, hchar, ih hrest]

namespace Compose

theorem classOf_ideograph {c : Char} (h : ideograph c) : classOf c.toNat = 0 := by
  obtain ⟨hlow, hhigh⟩ := bounds_of_ideograph h
  have hnone : classes.find? (fun r => decide (r.1 ≤ c.toNat) && decide (c.toNat ≤ r.2.1)) =
      none := by
    rw [List.find?_eq_none]
    intro r hr
    have := List.all_eq_true.mp missed_ideographs.classes _ (List.mem_map_of_mem hr)
    simp only [Bool.or_eq_true, Bool.and_eq_true, decide_eq_true_eq] at this ⊢
    omega
  rw [classOf, hnone]
  rfl

theorem apart_ideograph {c : Char} (h : ideograph c) : apart 4 c.toNat = [c.toNat] := by
  obtain ⟨hlow, hhigh⟩ := bounds_of_ideograph h
  have hnone : pairs.find? (fun r => decide (r.1 = c.toNat)) = none := by
    rw [List.find?_eq_none]
    intro r hr
    have := List.all_eq_true.mp missed_ideographs.wholes _ (List.mem_map_of_mem hr)
    simp only [Bool.or_eq_true, decide_eq_true_eq] at this ⊢
    omega
  have hparts : parts? c.toNat = none := by
    rw [parts?, hnone, syllable?, syllables, if_neg (by omega)]
  rw [apart, hparts]

theorem whole?_ideograph {c : Char} (a : Nat) (h : ideograph c) : whole? a c.toNat = none := by
  obtain ⟨hlow, hhigh⟩ := bounds_of_ideograph h
  have hnone : pairs.find? (fun r => decide (r.2 = (a, c.toNat))) = none := by
    rw [List.find?_eq_none]
    intro r hr
    have := List.all_eq_true.mp missed_ideographs.seconds _ (List.mem_map_of_mem hr)
    simp only [Bool.or_eq_true, decide_eq_true_eq, Prod.ext_iff] at this ⊢
    omega
  rw [whole?, hnone, syllableOf?, syllables, if_neg (by omega), if_neg (by omega)]

theorem spread_ideographs {s : List Char} (h : ∀ c ∈ s, ideograph c) :
    spread (s.map Char.toNat) = s.map Char.toNat := by
  have hapart : (s.map Char.toNat).flatMap (apart 4) = s.map Char.toNat := by
    induction s with
    | nil => rfl
    | cons c rest ih =>
      obtain ⟨hc, hrest⟩ := List.forall_mem_cons.mp h
      rw [List.map_cons, List.flatMap_cons, apart_ideograph hc, ih hrest]
      rfl
  have hsettle (before : List Nat) :
      (s.map Char.toNat).foldl (fun before n => settle n before) before =
        (s.map Char.toNat).reverse ++ before := by
    clear hapart
    induction s generalizing before with
    | nil => rfl
    | cons c rest ih =>
      obtain ⟨hc, hrest⟩ := List.forall_mem_cons.mp h
      have hput : settle c.toNat before = c.toNat :: before := by
        cases before with
        | nil => rfl
        | cons m before => rw [settle, classOf_ideograph hc, if_neg (by omega)]
      rw [List.map_cons, List.foldl_cons, hput, ih hrest]
      simp
  rw [spread, hapart, hsettle, List.append_nil, List.reverse_reverse]

theorem join_ideographs {s : List Char} (letter : Nat) (h : ∀ c ∈ s, ideograph c) :
    join letter [] (s.map Char.toNat) = letter :: s.map Char.toNat := by
  induction s generalizing letter with
  | nil => rfl
  | cons c rest ih =>
    obtain ⟨hc, hrest⟩ := List.forall_mem_cons.mp h
    simp only [List.map_cons, join, whole?_ideograph letter hc, classOf_ideograph hc, ite_self,
      if_true, ih c.toNat hrest, List.reverse_nil, List.nil_append]

theorem text_ideographs {s : List Char} (h : ∀ c ∈ s, ideograph c) : text s = s := by
  unfold text
  split
  · rfl
  · rw [spread_ideographs h]
    cases s with
    | nil => rfl
    | cons c rest =>
      rw [List.map_cons]
      change (join c.toNat [] (rest.map Char.toNat)).map Char.ofNat = c :: rest
      rw [join_ideographs _ (List.forall_mem_cons.mp h).2]
      simp [Function.comp_def]

end Compose

theorem of_ideograph {c : Char} (h : ideograph c) : Direction.of c = .rightward := by
  obtain ⟨hlow, hhigh⟩ := bounds_of_ideograph h
  simp [Direction.of, within_eq_false missed_ideographs.leftwards hlow hhigh,
    within_eq_false missed_ideographs.leftwardDigits hlow hhigh,
    within_eq_false missed_ideographs.digits hlow hhigh,
    within_eq_false missed_ideographs.neutrals hlow hhigh,
    within_eq_false missed_ideographs.marks hlow hhigh]

theorem fits_ideographs {s : List Char} (h : ∀ c ∈ s, ideograph c) : Joiner.fits s := by
  have hfrom (before : List Char) : Joiner.fitsFrom before s := by
    induction s generalizing before with
    | nil => rfl
    | cons c rest ih =>
      obtain ⟨hc, hrest⟩ := List.forall_mem_cons.mp h
      obtain ⟨hlow, -⟩ := bounds_of_ideograph hc
      have hjoiner : c ≠ '\u200c' ∧ c ≠ '\u200d' := by
        constructor <;> rintro rfl <;> revert hlow <;> decide
      simp [Joiner.fitsFrom, hjoiner, ih hrest]
  exact hfrom []

end Text
end RaceLink
