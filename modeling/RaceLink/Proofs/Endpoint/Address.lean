import RaceLink.Endpoint.Host
import RaceLink.Proofs.Json.Writing
import RaceLink.Proofs.Text.Names

/-!
# Numbers that name a host

The machine of an address may be given by a number, in forms of which the reader accepts many and
the writer uses one.  What is written is read as the same number:

* `Address4.parse_text` — four decimal bytes with dots between them.
* `Address6.parse_text` — eight hexadecimal pieces with colons between them, of which the first of
  the longest runs of zeros is left out.
-/

set_option autoImplicit false

namespace RaceLink
namespace Endpoint

open Text (partsAt hexValue? hexNumber)

/-! ## Digits -/

theorem hexValue?_digitChar : ∀ d < 16, hexValue? (Nat.digitChar d) = some d := by decide

/-- No digit is one of the signs that part a number. -/
theorem digitChar_ne : ∀ d < 16, Nat.digitChar d ≠ '.' ∧ Nat.digitChar d ≠ ':' := by decide

/-- The digits of a number in base `b`. -/
theorem mem_toDigits {b n : Nat} {c : Char} (hb : 1 < b) (hc : c ∈ Nat.toDigits b n) :
    ∃ d < b, c = Nat.digitChar d := by
  induction n using Nat.strongRecOn with
  | _ n ih =>
    rw [Nat.toDigits_eq_if hb] at hc
    split at hc
    · rename_i hlt
      exact ⟨n, hlt, List.mem_singleton.mp hc⟩
    · rename_i hge
      rcases List.mem_append.mp hc with hc | hc
      · exact ih (n / b) (Nat.div_lt_self (by omega) hb) hc
      · exact ⟨n % b, Nat.mod_lt _ (by omega), List.mem_singleton.mp hc⟩

theorem hexNumber_toDigits (n : Nat) : hexNumber (Nat.toDigits 16 n) = n := by
  induction n using Nat.strongRecOn with
  | _ n ih =>
    have hlast (d : Nat) (hd : d < 16) (high : Nat) :
        16 * high + (hexValue? (Nat.digitChar d)).getD 0 = 16 * high + d := by
      rw [hexValue?_digitChar d hd]
      rfl
    rw [Nat.toDigits_eq_if (by decide)]
    split
    · rename_i hlt
      simpa [hexNumber] using hlast n hlt 0
    · rename_i hge
      have hhigh := ih (n / 16) (Nat.div_lt_self (by omega) (by decide))
      rw [hexNumber] at hhigh ⊢
      rw [List.foldl_append, hhigh, List.foldl_cons, List.foldl_nil,
        hlast _ (Nat.mod_lt _ (by decide))]
      exact Nat.div_add_mod n 16

/-! ## Numbers of four bytes -/

namespace Address4

theorem digits_toDigits (n : Nat) : digits (Nat.toDigits 10 n) = (10, Nat.toDigits 10 n) := by
  rcases Nat.eq_zero_or_pos n with rfl | hpos
  · rfl
  · have hhead := Json.head?_toDigits hpos
    cases hdigits : Nat.toDigits 10 n with
    | nil => rfl
    | cons c ds =>
      rw [hdigits, List.head?_cons, ne_eq, Option.some.injEq] at hhead
      unfold digits
      split <;> first | rfl | (rename_i heq; exact absurd (List.cons.inj heq).1 hhead)

/-- The value of a part with one more digit. -/
def push (base : Nat) (sum : Option Nat) (c : Char) : Option Nat :=
  sum.bind fun n => (hexValue? c).bind fun d => if d < base then some (n * base + d) else none

theorem part?_eq {s : List Char} (hs : s ≠ []) :
    part? s = (digits s).2.foldl (push (digits s).1) (some 0) := by
  have hempty : s.isEmpty = false := by simpa using hs
  simp only [part?, hempty, Bool.false_eq_true, if_false]
  refine congrArg (fun f => (digits s).2.foldl f (some 0)) ?_
  funext sum c
  cases sum <;> cases hc : hexValue? c <;> simp [push, hc]

theorem part?_toDigits (n : Nat) : part? (Nat.toDigits 10 n) = some n := by
  have hfold : (Nat.toDigits 10 n).foldl (push 10) (some 0) = some n := by
    induction n using Nat.strongRecOn with
    | _ n ih =>
      rw [Nat.toDigits_eq_if (by decide)]
      split
      · rename_i hlt
        simp [push, hexValue?_digitChar n (by omega), hlt]
      · rename_i hge
        have hmod : n % 10 < 10 := Nat.mod_lt _ (by decide)
        rw [List.foldl_append, ih (n / 10) (by omega)]
        simp only [List.foldl_cons, List.foldl_nil, push, Option.bind_some,
          hexValue?_digitChar _ (Nat.lt_trans hmod (by decide : 10 < 16)), if_pos hmod,
          Option.some.injEq]
        omega
  rw [part?_eq Nat.toDigits_ne_nil, digits_toDigits]
  exact hfold

/-- A text that does not begin with a digit is no number. -/
theorem part?_eq_none {c : Char} (h : hexValue? c = none) (s : List Char) :
    part? (c :: s) = none := by
  have hnone (ds : List Char) : ds.foldl (push 10) none = none := by
    induction ds with
    | nil => rfl
    | cons d ds ih => exact ih
  have hdigits : digits (c :: s) = (10, c :: s) := by
    unfold digits
    split <;> first | rfl | (rename_i heq; rw [(List.cons.inj heq).1] at h; cases h)
  rw [part?_eq (List.cons_ne_nil c s), hdigits, List.foldl_cons, push, h]
  exact hnone s

/-- The bytes of a number, from the first on. -/
def bytes (a : UInt32) : List Nat :=
  [a.toNat / 16777216, a.toNat / 65536 % 256, a.toNat / 256 % 256, a.toNat % 256]

theorem text_eq (a : UInt32) :
    (text a).toList = List.intercalate ['.'] ((bytes a).map (Nat.toDigits 10)) := by
  have hdot : (toString ".").toList = ['.'] := rfl
  simp only [text, bytes, String.toList_append, Nat.toString_eq_ofList_toDigits,
    String.toList_ofList, hdot]
  simp [List.intercalate]

theorem partsAt_text (a : UInt32) :
    partsAt (· = '.') (text a).toList = (bytes a).map (Nat.toDigits 10) := by
  rw [text_eq]
  refine Text.partsAt_intercalate (by simp [bytes]) (fun part hpart c hc => ?_) (by simp)
  obtain ⟨n, -, rfl⟩ := List.mem_map.mp hpart
  obtain ⟨d, hd, rfl⟩ := mem_toDigits (by decide) hc
  exact decide_eq_false (digitChar_ne d (by omega)).1

theorem parts_text (a : UInt32) : parts (text a).toList = (bytes a).map (Nat.toDigits 10) := by
  have hlast : ((bytes a).map (Nat.toDigits 10)).getLast? ≠ some [] := by
    simp [bytes]
  simp only [parts, partsAt_text, if_neg hlast]

/-- The characters of a number of four bytes. -/
theorem mem_text {a : UInt32} {c : Char} (hc : c ∈ (text a).toList) :
    c = '.' ∨ ∃ d < 10, c = Nat.digitChar d := by
  rw [text_eq] at hc
  rcases Text.mem_intercalate hc with hc | ⟨part, hpart, hc⟩
  · exact .inl hc
  · obtain ⟨n, -, rfl⟩ := List.mem_map.mp hpart
    exact .inr (mem_toDigits (by decide) hc)

theorem meant_text (a : UInt32) : meant (text a).toList := by
  have hlast : ((bytes a).map (Nat.toDigits 10)).getLast? =
      some (Nat.toDigits 10 (a.toNat % 256)) := rfl
  simp [meant, parts_text, hlast, part?_toDigits]

/-- What is written is read as the same number. -/
theorem parse_text (a : UInt32) : parse (text a).toList = some a := by
  have hnumbers (ns : List Nat) : (ns.map (Nat.toDigits 10)).mapM part? = some ns := by
    induction ns with
    | nil => rfl
    | cons n ns ih => simp [part?_toDigits, ih]
  have hlt : a.toNat < 4294967296 := a.toNat_lt
  have hvalue : UInt32.ofNat
      ((256 * (256 * (256 * 0 + a.toNat / 16777216) + a.toNat / 65536 % 256) +
        a.toNat / 256 % 256) * 256 + a.toNat % 256) = a := by
    have : (256 * (256 * (256 * 0 + a.toNat / 16777216) + a.toNat / 65536 % 256) +
        a.toNat / 256 % 256) * 256 + a.toNat % 256 = a.toNat := by omega
    rw [this, UInt32.ofNat_toNat]
  rw [parse, parts_text, hnumbers]
  change assemble (bytes a).dropLast (a.toNat % 256) = some a
  have hbytes : ∀ n ∈ (bytes a).dropLast, n < 256 := by
    simp only [bytes, List.dropLast, List.mem_cons, List.not_mem_nil, or_false]
    omega
  have hroom : (bytes a).dropLast.length ≤ 3 ∧ (∀ n ∈ (bytes a).dropLast, n < 256) ∧
      a.toNat % 256 < Nat.pow 256 (4 - (bytes a).dropLast.length) :=
    ⟨Nat.le_refl 3, hbytes, Nat.mod_lt _ (by decide)⟩
  rw [assemble, if_pos hroom]
  exact congrArg some hvalue

end Address4

/-! ## Numbers of eight pieces -/

namespace Address6

/-- A piece in hexadecimal digits. -/
def pieceText (p : UInt16) : List Char := Nat.toDigits 16 p.toNat

theorem pieceText_ne_nil (p : UInt16) : pieceText p ≠ [] := Nat.toDigits_ne_nil

/-- The characters of a piece are no signs of the form. -/
theorem mem_pieceText {p : UInt16} {c : Char} (hc : c ∈ pieceText p) :
    ∃ d < 16, c = Nat.digitChar d :=
  mem_toDigits (by decide) hc

theorem ne_of_mem_pieceText {p : UInt16} {c : Char} (hc : c ∈ pieceText p) : c ≠ '.' ∧ c ≠ ':' := by
  obtain ⟨d, hd, rfl⟩ := mem_pieceText hc
  exact digitChar_ne d hd

theorem piece?_pieceText (p : UInt16) : piece? (pieceText p) = some p := by
  have hpos : (pieceText p).length ≠ 0 := by simp [pieceText_ne_nil]
  have hle : (pieceText p).length ≤ 4 :=
    (Nat.length_toDigits_le_iff (by decide) (by decide)).mpr p.toNat_lt
  have hhex : (pieceText p).all fun c => (hexValue? c).isSome := by
    rw [List.all_eq_true]
    intro c hc
    obtain ⟨d, hd, rfl⟩ := mem_pieceText hc
    simp [hexValue?_digitChar d hd]
  rw [piece?, if_neg (by omega), if_pos hhex, pieceText, hexNumber_toDigits, UInt16.ofNat_toNat]

theorem pieces?_pieceText (ps : List UInt16) : pieces? (ps.map pieceText) = some ps := by
  induction ps with
  | nil => rfl
  | cons p ps ih =>
    cases ps with
    | nil =>
      have hdot : '.' ∉ pieceText p := fun hc => (ne_of_mem_pieceText hc).1 rfl
      simp [pieces?, hdot, piece?_pieceText]
    | cons q ps =>
      simp only [List.map_cons] at ih ⊢
      simp [pieces?, piece?_pieceText, ih]

theorem run_cons_cons (p q : UInt16) (ps : List UInt16) :
    run (p :: q :: ps) = pieceText p ++ ':' :: run (q :: ps) := by
  simp [run, pieceText, List.intercalate_cons_cons]

theorem run_singleton (p : UInt16) : run [p] = pieceText p := by
  simp [run, pieceText]

/-- A text of pieces begins with the first digit of the first one. -/
theorem exists_run_cons (p : UInt16) (ps : List UInt16) :
    ∃ c s, run (p :: ps) = c :: s ∧ c ≠ ':' := by
  cases hp : pieceText p with
  | nil => exact absurd hp (pieceText_ne_nil p)
  | cons c s =>
    have hc : c ≠ ':' := (ne_of_mem_pieceText (hp ▸ List.mem_cons_self ..)).2
    cases ps with
    | nil => exact ⟨c, s, by rw [run_singleton, hp], hc⟩
    | cons q ps => exact ⟨c, s ++ ':' :: run (q :: ps), by rw [run_cons_cons, hp]; rfl, hc⟩

/-- Pieces with colons between them are read as these pieces. -/
theorem run?_run (ps : List UInt16) : run? (run ps) = some ps := by
  cases ps with
  | nil => rfl
  | cons p ps =>
    have hparts : partsAt (· = ':') (run (p :: ps)) = (p :: ps).map pieceText := by
      refine Text.partsAt_intercalate (by simp) (fun part hpart c hc => ?_) (by simp)
      obtain ⟨q, -, rfl⟩ := List.mem_map.mp hpart
      simpa using (ne_of_mem_pieceText hc).2
    have hne : (run (p :: ps)).isEmpty = false := by
      obtain ⟨c, s, hrun, -⟩ := exists_run_cons p ps
      rw [hrun]
      rfl
    simp only [run?, hne, Bool.false_eq_true, if_false, hparts, pieces?_pieceText]

/-! ### The gap -/

theorem splitGap_cons {c : Char} {s : List Char} (h : c ≠ ':' ∨ s.head? ≠ some ':') :
    splitGap (c :: s) = (splitGap s).map fun r => (c :: r.1, r.2) := by
  rw [splitGap]
  rintro rest rfl rfl
  simp at h

theorem splitGap_append {s : List Char} (hs : ∀ c ∈ s, c ≠ ':') (t : List Char) :
    splitGap (s ++ t) = (splitGap t).map fun r => (s ++ r.1, r.2) := by
  induction s with
  | nil => simp
  | cons c s ih =>
    obtain ⟨hc, hs⟩ := List.forall_mem_cons.mp hs
    rw [List.cons_append, splitGap_cons (.inl hc), ih hs, Option.map_map]
    rfl

/-- There is no gap between pieces. -/
theorem splitGap_run (ps : List UInt16) (t : List Char) :
    splitGap (run ps ++ t) = (splitGap t).map fun r => (run ps ++ r.1, r.2) := by
  induction ps with
  | nil => simp [run]
  | cons p ps ih =>
    have hp : ∀ c ∈ pieceText p, c ≠ ':' := fun c hc => (ne_of_mem_pieceText hc).2
    cases ps with
    | nil => rw [run_singleton, splitGap_append hp]
    | cons q ps =>
      obtain ⟨c, s, hrun, hc⟩ := exists_run_cons q ps
      have hhead : (run (q :: ps) ++ t).head? ≠ some ':' := by
        simpa [hrun] using hc
      rw [run_cons_cons, List.append_assoc, List.cons_append, splitGap_append hp,
        splitGap_cons (.inr hhead), ih, Option.map_map, Option.map_map]
      simp [Function.comp_def]

theorem mem_run {ps : List UInt16} {c : Char} (hc : c ∈ run ps) :
    c = ':' ∨ ∃ d < 16, c = Nat.digitChar d := by
  rcases Text.mem_intercalate hc with hc | ⟨part, hpart, hc⟩
  · exact .inl hc
  · obtain ⟨p, -, rfl⟩ := List.mem_map.mp hpart
    exact .inr (mem_pieceText hc)

theorem dot_not_mem_run (ps : List UInt16) : '.' ∉ run ps := by
  intro h
  rcases mem_run h with h | ⟨d, hd, heq⟩
  · cases h
  · exact (digitChar_ne d hd).1 heq.symm

/-- The characters of a number of eight pieces. -/
theorem mem_text {a : Address6} {c : Char} (hc : c ∈ a.text) :
    c = ':' ∨ ∃ d < 16, c = Nat.digitChar d := by
  unfold text at hc
  split at hc
  · exact mem_run hc
  · rcases List.mem_append.mp hc with hc | hc
    · rcases List.mem_append.mp hc with hc | hc
      · exact mem_run hc
      · simp at hc
        exact .inl hc
    · exact mem_run hc

theorem zeros_le (ps : List UInt16) : zeros ps ≤ ps.length := by
  induction ps with
  | nil => exact Nat.le_refl _
  | cons p ps ih =>
    rw [zeros]
    split
    · exact Nat.succ_le_succ ih
    · exact Nat.zero_le _

theorem zeros_spec (ps : List UInt16) :
    List.replicate (zeros ps) 0 ++ ps.drop (zeros ps) = ps := by
  induction ps with
  | nil => rfl
  | cons p ps ih =>
    rw [zeros]
    split
    · rename_i hp
      rw [List.replicate_succ, List.drop_succ_cons, List.cons_append, ih, hp]
    · rfl

/-- The run of zeros that is left out. -/
theorem longest_spec {start i n : Nat} {ps : List UInt16} (h : longest start ps = some (i, n)) :
    start ≤ i ∧ 2 ≤ n ∧ zeros (ps.drop (i - start)) = n := by
  induction ps generalizing start with
  | nil => cases h
  | cons p ps ih =>
    have hhere (htwo : ¬zeros (p :: ps) < 2) (heq : some (start, zeros (p :: ps)) = some (i, n)) :
        start ≤ i ∧ 2 ≤ n ∧ zeros ((p :: ps).drop (i - start)) = n := by
      obtain ⟨rfl, rfl⟩ := Prod.mk.inj (Option.some.inj heq)
      rw [Nat.sub_self, List.drop_zero]
      exact ⟨Nat.le_refl _, Nat.le_of_not_lt htwo, rfl⟩
    unfold longest at h
    extract_lets here at h
    split at h
    · rename_i j m hlater
      split at h
      · obtain ⟨rfl, rfl⟩ := Prod.mk.inj (Option.some.inj h)
        obtain ⟨hle, htwo, hzeros⟩ := ih hlater
        refine ⟨by omega, htwo, ?_⟩
        rw [show j - start = (j - (start + 1)) + 1 by omega, List.drop_succ_cons, hzeros]
      · rename_i hor
        exact hhere (fun hlt => hor (.inr hlt)) h
    · split at h
      · cases h
      · rename_i hge
        exact hhere hge h

/-- What is written is read as the same number. -/
theorem parse_text (a : Address6) : parse a.text = some a := by
  have hlength := a.length_pieces
  unfold text
  split
  · have hgap : splitGap (run a.pieces) = none := by
      simpa [splitGap] using splitGap_run a.pieces []
    simp only [parse, hgap, run?_run, dif_pos hlength]
  · rename_i i n hlongest
    obtain ⟨-, htwo, hzeros⟩ := longest_spec hlongest
    rw [Nat.sub_zero] at hzeros
    have hroom : n ≤ 8 - i := by
      have := zeros_le (a.pieces.drop i)
      rw [hzeros, List.length_drop, hlength] at this
      exact this
    have hgap : splitGap (run (a.pieces.take i) ++ [':', ':'] ++ run (a.pieces.drop (i + n))) =
        some (run (a.pieces.take i), run (a.pieces.drop (i + n))) := by
      rw [List.append_assoc, splitGap_run]
      simp [splitGap]
    have hdot : (run (a.pieces.take i)).contains '.' = false := by
      simpa using dot_not_mem_run (a.pieces.take i)
    -- The gap stands for as many zeros as were left out.
    have hpieces : a.pieces.take i ++ List.replicate n 0 ++ a.pieces.drop (i + n) = a.pieces := by
      have hsplit := zeros_spec (a.pieces.drop i)
      rw [hzeros, List.drop_drop] at hsplit
      rw [List.append_assoc, hsplit, List.take_append_drop]
    have hcount : 8 - (a.pieces.take i).length - (a.pieces.drop (i + n)).length = n := by
      rw [List.length_take, List.length_drop, hlength]
      omega
    have hless : (a.pieces.take i).length + (a.pieces.drop (i + n)).length < 8 := by omega
    simp only [parse, hgap, hdot, Bool.false_eq_true, if_false, run?_run, fill?, dif_pos hless]
    congr
    rw [hcount]
    exact hpieces

end Address6
end Endpoint
end RaceLink
