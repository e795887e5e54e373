import Mathlib
import RaceLink.Decimal.Shortest

/-!
# Reciprocals as floats

What a float is after one has been divided by a whole number.  Nothing is assumed of floating point
arithmetic: it is followed from the bits of the dividend to those of the quotient.

* `Nearest` — a whole number that is as near to a fraction as any; rounding twice is as good as
  rounding once if the first time is fine enough (`Nearest.trans`).
* `Normal` — mantissas and exponents that are packed into bits as they are (`Normal.unpack_pack`,
  `Normal.ofBits?_pack`).
* `round_short`, `round_eq`, `round_full` — what rounding makes of a mantissa of the right length,
  or of one that is a digit too long.
* `ofFloat?_reciprocal` — **the reciprocal of a whole number**.
-/

set_option autoImplicit false

namespace RaceLink
namespace Decimal

open Float.Model Float.Model.UnpackedFloat

/-! ## Nearest numbers -/

/-- A whole number that is as near to a fraction as any. -/
def Nearest (n num den : Nat) : Prop :=
  2 * (n * den) ≤ 2 * num + den ∧ 2 * num ≤ 2 * (n * den) + den

namespace Nearest

variable {n n' num den den' : Nat}

theorem floor (h : 2 * (num % den) ≤ den) : Nearest (num / den) num den := by
  have hsplit := Nat.div_add_mod' num den
  constructor <;> omega

theorem ceil (hden : 0 < den) (h : den ≤ 2 * (num % den)) : Nearest (num / den + 1) num den := by
  have hsplit := Nat.div_add_mod' num den
  have hlt := Nat.mod_lt num hden
  rw [Nearest, Nat.add_one_mul (num / den) den]
  constructor <;> omega

theorem scale {k : Nat} (hk : 0 < k) : Nearest n (num * k) (den * k) ↔ Nearest n num den := by
  have hle (a b c : Nat) : 2 * (a * k) ≤ 2 * (b * k) + c * k ↔ 2 * a ≤ 2 * b + c := by
    rw [← Nat.mul_assoc, ← Nat.mul_assoc, ← Nat.add_mul]
    exact Nat.mul_le_mul_right_iff hk
  rw [Nearest, Nearest, ← Nat.mul_assoc n den k, hle, hle]

/-- Rounding twice: the first time finely. -/
theorem trans {fine scale : Nat} (hfine : Nearest fine scale den)
    (h : Nearest n (fine * num) scale) (hsmall : den * num < scale) : Nearest n num den := by
  obtain ⟨h₁, h₂⟩ := hfine
  obtain ⟨h₃, h₄⟩ := h
  have hpos : 0 < scale := Nat.zero_lt_of_lt hsmall
  constructor
  · have : (2 * (n * den)) * scale < (2 * num + den + 1) * scale := by nlinarith
    exact Nat.lt_succ_iff.1 (Nat.lt_of_mul_lt_mul_right this)
  · have : (2 * num) * scale < (2 * (n * den) + den + 1) * scale := by nlinarith
    exact Nat.lt_succ_iff.1 (Nat.lt_of_mul_lt_mul_right this)

theorem anti (h : Nearest n num den) (h' : Nearest n' num den') (hlt : den < den') : n' ≤ n := by
  by_contra hgt
  obtain ⟨-, h₁⟩ := h
  obtain ⟨h₂, -⟩ := h'
  have : n + 1 ≤ n' := by omega
  nlinarith

end Nearest

/-! ## Packing -/

theorem finite_congr {m m' : Nat} {e e' : Int} (hm : m = m') (he : e = e') (h : 0 < m)
    (h' : 0 < m') : UnpackedFloat.finite .positive m e h = .finite .positive m' e' h' := by
  subst hm he
  rfl

/-- A mantissa and an exponent as they stand for a number that is not too small or too large. -/
structure Normal (m : Nat) (e : Int) : Prop where
  low : 2 ^ 52 ≤ m
  high : m < 2 ^ 53
  small : -1074 ≤ e
  large : e ≤ 971

namespace Normal

variable {m : Nat} {e : Int}

theorem pos (h : Normal m e) : 0 < m := Nat.lt_of_lt_of_le (by decide) h.low

theorem log2 (h : Normal m e) : m.log2 = 52 :=
  (Nat.log2_eq_iff (Nat.ne_of_gt h.pos)).2 ⟨h.low, h.high⟩

theorem exponent_toNat (h : Normal m e) :
    (BitVec.ofNat 11 (e + 1075).toNat).toNat = (e + 1075).toNat := by
  have hsmall := h.small
  have hlarge := h.large
  rw [BitVec.toNat_ofNat]
  omega

theorem pack (h : Normal m e) :
    UnpackedFloat.pack Format.binary64 (.finite .positive m e h.pos) =
      packComponents Format.binary64 .positive (BitVec.ofNat 11 (e + 1075).toNat)
        (BitVec.ofNat 52 m) := by
  have hsmall := h.small
  have hlarge := h.large
  have hbias : e + (Format.binary64.exponentBias : Int) +
      (Format.binary64.mantissaBitsWithoutImplicit : Int) = e + 1075 := by
    show e + 1023 + 52 = e + 1075
    omega
  have hfinite : ¬ 2 ^ Format.binary64.exponentBits ≤ (e + 1075).toNat + 1 := by
    show ¬ 2048 ≤ (e + 1075).toNat + 1
    omega
  rw [UnpackedFloat.pack]
  simp only [h.log2, hbias]
  rw [if_neg hfinite]
  exact if_pos rfl

/-- What was packed is unpacked as it was. -/
theorem unpack_pack (h : Normal m e) :
    UnpackedFloat.unpack Format.binary64
      (UnpackedFloat.pack Format.binary64 (.finite .positive m e h.pos)) =
      .finite .positive m e h.pos := by
  have hsmall := h.small
  have hlarge := h.large
  have hexponent := h.exponent_toNat
  have hmantissa : (1#1 ++ BitVec.ofNat 52 m).toNat = m := by
    have hlow := h.low
    have hhigh := h.high
    rw [BitVec.toNat_append, BitVec.toNat_ofNat, BitVec.toNat_ofNat,
      ← Nat.shiftLeft_add_eq_or_of_lt (Nat.mod_lt _ (by decide)), Nat.shiftLeft_eq]
    omega
  have hinfinite : BitVec.ofNat 11 (e + 1075).toNat ≠ -1#11 := fun hall => by
    have htop : (e + 1075).toNat = 2047 := hexponent.symm.trans (congrArg BitVec.toNat hall)
    omega
  have hzero : BitVec.ofNat 11 (e + 1075).toNat ≠ 0#11 := fun hnone => by
    have hbottom : (e + 1075).toNat = 0 := hexponent.symm.trans (congrArg BitVec.toNat hnone)
    omega
  rw [h.pack, UnpackedFloat.unpack]
  simp only [unpackExponent_packComponents, unpackMantissa_packComponents,
    unpackSign_packComponents, Sign.ofBitVec_toBitVec]
  rw [if_neg hinfinite, if_neg hzero]
  refine finite_congr hmantissa ?_ _ _
  rw [hexponent]
  show ((e + 1075).toNat : Int) - (1023 + 52) = e
  omega

/-- The bits of what was packed, as a number. -/
theorem toNat_pack (h : Normal m e) :
    (UnpackedFloat.pack Format.binary64 (.finite .positive m e h.pos)).toNat =
      (e + 1075).toNat * 2 ^ 52 + (m - 2 ^ 52) := by
  have hlow := h.low
  have hhigh := h.high
  have hmantissa : (BitVec.ofNat 52 m).toNat = m - 2 ^ 52 := by
    rw [BitVec.toNat_ofNat]
    omega
  rw [h.pack, packComponents]
  show (0#1 ++ BitVec.ofNat 11 (e + 1075).toNat ++ BitVec.ofNat 52 m).toNat = _
  rw [BitVec.toNat_append, BitVec.toNat_append, h.exponent_toNat, hmantissa,
    ← Nat.shiftLeft_add_eq_or_of_lt (by omega), Nat.shiftLeft_eq]
  simp

/-- It is read back as the fraction it stands for. -/
theorem ofBits?_pack (h : Normal m e) :
    ∃ halved, Binary.ofBits?
      ⟨UnpackedFloat.pack Format.binary64 (.finite .positive m e h.pos)⟩ =
        some (false, ⟨m, e, halved⟩) := by
  have hlow := h.low
  have hhigh := h.high
  have hsmall := h.small
  have hlarge := h.large
  generalize hbits : (⟨UnpackedFloat.pack Format.binary64 (.finite .positive m e h.pos)⟩ : UInt64)
    = bits
  have hnat : bits.toNat = (e + 1075).toNat * 2 ^ 52 + (m - 2 ^ 52) := by
    rw [← hbits]
    exact h.toNat_pack
  have hshift (k : UInt64) : (bits >>> k).toNat = bits.toNat / 2 ^ (k.toNat % 64) := by
    rw [UInt64.toNat_shiftRight, Nat.shiftRight_eq_div_pow]
  have hsign : ((bits >>> 63) == 1) = false := by
    rw [beq_eq_false_iff_ne]
    intro hone
    have hquotient : bits.toNat / 2 ^ 63 = 1 := (hshift 63).symm.trans (congrArg UInt64.toNat hone)
    omega
  have hbiased : ((bits >>> 52) &&& 0x7ff).toNat = (e + 1075).toNat := by
    rw [UInt64.toNat_and, hshift]
    refine (Nat.and_two_pow_sub_one_eq_mod _ 11).trans ?_
    show bits.toNat / 2 ^ 52 % 2 ^ 11 = _
    omega
  have hfraction : (bits &&& 0xfffffffffffff).toNat = m - 2 ^ 52 := by
    rw [UInt64.toNat_and]
    refine (Nat.and_two_pow_sub_one_eq_mod _ 52).trans ?_
    omega
  have hexponent : ((e + 1075).toNat : Int) - 1075 = e := by omega
  have hmantissa : m - 2 ^ 52 + Nat.pow 2 52 = m := Nat.sub_add_cancel hlow
  rw [Binary.ofBits?, hsign, hbiased, hfraction, hexponent, hmantissa,
    if_neg (by omega), if_neg (by omega)]
  exact ⟨_, rfl⟩

end Normal

/-! ## Rounding -/

theorem targetExponent_eq (m : Nat) (e : Int) :
    Format.binary64.targetExponent (Float.Model.totalExponent m e) =
      max ((m.log2 : Int) + e - 52) (-1074) := by
  show max ((m.log2 : Int) + 1 + e - 53) (-1074) = _
  congr 1
  omega

/-- A mantissa of the right length is not shifted. -/
theorem Normal.shift {m : Nat} {e : Int} (h : Normal m e) (a : Accuracy) :
    shiftToTargetExponent Format.binary64 m e a =
      (ExtendedMantissa.ofMantissaAndAccuracy m a, e) := by
  have hsmall := h.small
  have hamount : (max ((m.log2 : Int) + e - 52) (-1074) - e).toNat = 0 := by
    rw [h.log2]
    omega
  rw [shiftToTargetExponent, shiftToExponent, targetExponent_eq, hamount]
  exact congrArg (Prod.mk _) (Int.add_zero e)

/-- One that is longer by one binary digit loses that digit. -/
theorem shift_full {e : Int} (hsmall : -1074 ≤ e) (a : Accuracy) :
    shiftToTargetExponent Format.binary64 (2 ^ 53) e a =
      ((ExtendedMantissa.ofMantissaAndAccuracy (2 ^ 53) a).shiftRightOne, e + 1) := by
  have hamount : (max (((2 ^ 53 : Nat).log2 : Int) + e - 52) (-1074) - e).toNat = 1 := by
    rw [Nat.log2_two_pow]
    omega
  rw [shiftToTargetExponent, shiftToExponent, targetExponent_eq, hamount]
  rfl

theorem roundedMantissa_eq (m : Nat) (a : Accuracy) :
    (ExtendedMantissa.ofMantissaAndAccuracy m a).roundedMantissa =
      Accuracy.roundToNearestEven m a := by
  cases a with
  | exact => rfl
  | inexact o => cases o <;> rfl

/-- Rounding keeps a mantissa that stays short enough. -/
theorem round_short {m r : Nat} {e : Int} {a : Accuracy} (h : Normal m e) (h' : Normal r e)
    (hr : Accuracy.roundToNearestEven m a = r) :
    roundWithAccuracy Format.binary64 .positive m e a = .finite .positive r e h'.pos := by
  simp only [roundWithAccuracy, h.shift, roundedMantissa_eq, hr, h'.shift]
  exact dif_neg (Nat.ne_of_gt h'.pos)

theorem Normal.half {e : Int} (hsmall : -1074 ≤ e) (hlarge : e ≤ 970) :
    Normal (2 ^ 52) (e + 1) :=
  ⟨Nat.le_refl _, by decide, by omega, by omega⟩

theorem half_mul_two (e : Int) : 2 ^ 52 * 2 ^ (e + 1 - e).toNat = 2 ^ 53 := by
  rw [add_sub_cancel_left]
  rfl

/-- What rounding leads to: a mantissa that has become too long is halved. -/
theorem round_eq {q r : Nat} {e : Int} {a : Accuracy} (hq : Normal q e) (hlarge : e ≤ 970)
    (hr : Accuracy.roundToNearestEven q a = r) (hup : q ≤ r) (hstep : r ≤ q + 1) :
    ∃ (m : Nat) (e' : Int) (h : Normal m e'), e ≤ e' ∧ e' ≤ e + 1 ∧
      m * 2 ^ (e' - e).toNat = r ∧
      roundWithAccuracy Format.binary64 .positive q e a = .finite .positive m e' h.pos := by
  have hlow := hq.low
  have hhigh := hq.high
  have hsmall := hq.small
  rcases Nat.lt_or_ge r (2 ^ 53) with hshort | hlong
  · have hnormal : Normal r e := ⟨by omega, hshort, hsmall, by omega⟩
    exact ⟨r, e, hnormal, Int.le_refl e, by omega, by simp, round_short hq hnormal hr⟩
  · obtain rfl : r = 2 ^ 53 := by omega
    refine ⟨2 ^ 52, e + 1, .half hsmall hlarge, by omega, Int.le_refl _, half_mul_two e, ?_⟩
    simp only [roundWithAccuracy, hq.shift, roundedMantissa_eq, hr, shift_full hsmall]
    rfl

/-- One that is too long from the start loses a zero. -/
theorem round_full {e : Int} (hsmall : -1074 ≤ e) (hlarge : e ≤ 970) :
    ∃ (m : Nat) (e' : Int) (h : Normal m e'), e ≤ e' ∧ e' ≤ e + 1 ∧
      m * 2 ^ (e' - e).toNat = 2 ^ 53 ∧
      roundWithAccuracy Format.binary64 .positive (2 ^ 53) e .exact =
        .finite .positive m e' h.pos := by
  have hnormal : Normal (2 ^ 52) (e + 1) := .half hsmall hlarge
  have hrounded : ((ExtendedMantissa.ofMantissaAndAccuracy (2 ^ 53)
      .exact).shiftRightOne).roundedMantissa = 2 ^ 52 := rfl
  refine ⟨2 ^ 52, e + 1, hnormal, by omega, Int.le_refl _, half_mul_two e, ?_⟩
  simp only [roundWithAccuracy, shift_full hsmall, hrounded, hnormal.shift]
  rfl

/-- The quotient, or the next number, whichever is nearer. -/
theorem nearest_round (num : Nat) {den : Nat} (hden : 0 < den) :
    ∃ r, Accuracy.roundToNearestEven (num / den) (accuracyOfFraction (num % den) den) = r ∧
      Nearest r num den ∧ num / den ≤ r ∧ r ≤ num / den + 1 := by
  rw [accuracyOfFraction]
  split
  · rename_i hzero
    exact ⟨_, rfl, .floor (by omega), Nat.le_refl _, Nat.le_succ _⟩
  · cases hcompare : compare (2 * (num % den)) den with
    | lt =>
      have hless := Nat.compare_eq_lt.1 hcompare
      exact ⟨_, rfl, .floor (by omega), Nat.le_refl _, Nat.le_succ _⟩
    | gt =>
      have hmore := Nat.compare_eq_gt.1 hcompare
      exact ⟨_, rfl, .ceil hden (by omega), Nat.le_succ _, Nat.le_refl _⟩
    | eq =>
      have hhalf := Nat.compare_eq_eq.1 hcompare
      refine ⟨num / den + num / den % 2, rfl, ?_⟩
      rcases Nat.mod_two_eq_zero_or_one (num / den) with heven | hodd
      · rw [heven]
        exact ⟨.floor (by omega), Nat.le_refl _, Nat.le_succ _⟩
      · rw [hodd]
        exact ⟨.ceil hden (by omega), Nat.le_succ _, Nat.le_refl _⟩

/-! ## Reciprocals -/

theorem unpack_one :
    (1.0 : Float).toModel.unpack = .finite .positive (2 ^ 52) (-52) (by decide) := rfl

/-- A whole number of `L + 1` binary digits, brought to the length of a mantissa. -/
theorem Normal.ofNat {n L : Nat} (hlow : 2 ^ L ≤ n) (hhigh : n < 2 ^ (L + 1)) (hL : L ≤ 52) :
    Normal (n * 2 ^ (52 - L)) (L - 52) := by
  have hsplit : 2 ^ L * 2 ^ (52 - L) = 2 ^ 52 := by
    rw [← Nat.pow_add]
    congr 1
    omega
  have hnext : 2 ^ (L + 1) * 2 ^ (52 - L) = 2 ^ 53 := by
    rw [Nat.pow_succ, Nat.mul_right_comm, hsplit, ← Nat.pow_succ]
  refine ⟨?_, ?_, by omega, by omega⟩
  · rw [← hsplit]
    exact Nat.mul_le_mul_right _ hlow
  · rw [← hnext]
    exact Nat.mul_lt_mul_of_pos_right hhigh (Nat.two_pow_pos _)

/-- A whole number of at most 53 binary digits is a float as it is. -/
theorem unpack_toFloat (n : UInt64) {L : Nat} (hlow : 2 ^ L ≤ n.toNat)
    (hhigh : n.toNat < 2 ^ (L + 1)) (hL : L ≤ 52) :
    n.toFloat.toModel.unpack = .finite .positive (n.toNat * 2 ^ (52 - L)) (L - 52)
      (Normal.ofNat hlow hhigh hL).pos := by
  have hpos : 0 < n.toNat := Nat.lt_of_lt_of_le (Nat.two_pow_pos L) hlow
  have hsign : compare (n.toNat : Int) 0 = .gt := compare_gt_iff_gt.2 (by omega)
  have hlog : n.toNat.log2 = L := (Nat.log2_eq_iff (Nat.ne_of_gt hpos)).2 ⟨hlow, hhigh⟩
  have htarget : max ((L : Int) + 0 - 52) (-1074) = L - 52 := by omega
  have hamount : (0 - ((L : Int) - 52)).toNat = 52 - L := by omega
  have hexponent : 0 - ((52 - L : Nat) : Int) = L - 52 := by omega
  have hround : UnpackedFloat.ofUInt64 Format.binary64 n =
      .finite .positive (n.toNat * 2 ^ (52 - L)) (L - 52)
        (Normal.ofNat hlow hhigh hL).pos := by
    show UnpackedFloat.normalize Format.binary64 (n.toNat : Int) 0 .positive = _
    rw [UnpackedFloat.normalize, hsign]
    simp only [UnpackedFloat.round, Int.toNat_natCast, targetExponent_eq, hlog, htarget,
      decreaseExponent, hamount, hexponent, Nat.shiftLeft_eq]
    exact round_short (Normal.ofNat hlow hhigh hL) (Normal.ofNat hlow hhigh hL) rfl
  show UnpackedFloat.unpack Format.binary64
    (UnpackedFloat.pack Format.binary64 (UnpackedFloat.ofUInt64 Format.binary64 n)) = _
  rw [hround]
  exact (Normal.ofNat hlow hhigh hL).unpack_pack

/-- The quotient of one and a float, before it is rounded. -/
theorem one_div_eq {m L : Nat} (h : Normal m (L - 52)) (hL : L ≤ 52) :
    UnpackedFloat.div Format.binary64 (.finite .positive (2 ^ 52) (-52) (by decide))
      (.finite .positive m (L - 52) h.pos) =
    roundWithAccuracy Format.binary64 .positive (2 ^ 105 / m) (-(L : Int) - 53)
      (accuracyOfFraction (2 ^ 105 % m) m) := by
  have hcore : divCore Format.binary64 (2 ^ 52) (-52) m (L - 52) =
      (2 ^ 105 / m, -(L : Int) - 53, accuracyOfFraction (2 ^ 105 % m) m) := by
    have htotal : Float.Model.totalExponent (2 ^ 52) (-52) - Float.Model.totalExponent m (L - 52) =
        -(L : Int) := by
      rw [Float.Model.totalExponent, Float.Model.totalExponent, h.log2, Nat.log2_two_pow]
      omega
    have htarget : Format.binary64.targetExponent (-(L : Int)) = -L - 53 := by
      show max (-(L : Int) - 53) (-1074) = _
      omega
    have hmin : min (-52 - ((L : Int) - 52)) (-L - 53) = -L - 53 := by omega
    have hamount : (-52 - ((L : Int) - 52) - (-L - 53)).toNat = 53 := by omega
    simp only [divCore, htotal, htarget, hmin, hamount]
    rfl
  rw [UnpackedFloat.div]
  simp only [hcore]
  rfl

/-- The reciprocal of a mantissa, rounded. -/
theorem round_reciprocal {m L : Nat} (h : Normal m (L - 52)) (hL : L ≤ 52) :
    ∃ (r m' : Nat) (e : Int) (h' : Normal m' e), Nearest r (2 ^ 105) m ∧
      -(L : Int) - 53 ≤ e ∧ e ≤ -(L : Int) - 52 ∧ m' * 2 ^ (e - (-(L : Int) - 53)).toNat = r ∧
      UnpackedFloat.div Format.binary64 (.finite .positive (2 ^ 52) (-52) (by decide))
        (.finite .positive m (L - 52) h.pos) = .finite .positive m' e h'.pos := by
  have hlow := h.low
  have hhigh := h.high
  obtain ⟨r, hr, hnearest, hup, hstep⟩ := nearest_round (2 ^ 105) h.pos
  rw [one_div_eq h hL]
  rcases Nat.lt_or_ge (2 ^ 105 / m) (2 ^ 53) with hshort | hlong
  · have hquotient : Normal (2 ^ 105 / m) (-(L : Int) - 53) := by
      refine ⟨?_, hshort, by omega, by omega⟩
      rw [Nat.le_div_iff_mul_le h.pos]
      omega
    obtain ⟨m', e, h', he, he', hm', hround⟩ := round_eq hquotient (by omega) hr hup hstep
    exact ⟨r, m', e, h', hnearest, he, by omega, hm', hround⟩
  · -- then the mantissa is a power of two, and the quotient needs one digit too many
    have hm : m = 2 ^ 52 := by
      have hle := (Nat.le_div_iff_mul_le h.pos).1 hlong
      omega
    subst hm
    obtain ⟨m', e, h', he, he', hm', hround⟩ :=
      round_full (e := -(L : Int) - 53) (by omega) (by omega)
    exact ⟨r, m', e, h', hnearest, he, by omega, hm'.trans hr, hround⟩

/-- **The reciprocal of a whole number**, as a float: the nearest multiple of a power of two. -/
theorem ofFloat?_reciprocal (n : UInt64) {L : Nat} (hlow : 2 ^ L ≤ n.toNat)
    (hhigh : n.toNat < 2 ^ (L + 1)) (hL : L ≤ 52) :
    ∃ (b : Binary) (r : Nat),
      Binary.ofFloat? (1.0 / n.toFloat) = some (false, b) ∧
      Nearest r (2 ^ (L + 53)) n.toNat ∧ b.exponent ≤ 0 ∧
      b.mantissa * 2 ^ (L + 53) = r * 2 ^ (-b.exponent).toNat := by
  obtain ⟨r, m, e, h, hnearest, hmin, hmax, hm, hdiv⟩ :=
    round_reciprocal (Normal.ofNat hlow hhigh hL) hL
  obtain ⟨halved, hbits⟩ := h.ofBits?_pack
  have hnegative : e ≤ 0 := by omega
  refine ⟨⟨m, e, halved⟩, r, ?_, ?_, hnegative, ?_⟩
  · have hpacked : (1.0 / n.toFloat).toBits = ⟨UnpackedFloat.pack Format.binary64
        (UnpackedFloat.div Format.binary64 (1.0 : Float).toModel.unpack
          n.toFloat.toModel.unpack)⟩ := rfl
    rw [Binary.ofFloat?, hpacked, unpack_one, unpack_toFloat n hlow hhigh hL, hdiv]
    exact hbits
  · have hscale : 2 ^ 105 = 2 ^ (L + 53) * 2 ^ (52 - L) := by
      rw [← Nat.pow_add]
      congr 1
      omega
    rw [hscale] at hnearest
    exact (Nearest.scale (Nat.two_pow_pos _)).1 hnearest
  · show m * 2 ^ (L + 53) = r * 2 ^ (-e).toNat
    have hsplit : L + 53 = (e - (-(L : Int) - 53)).toNat + (-e).toNat := by omega
    rw [← hm, Nat.mul_assoc, ← Nat.pow_add, ← hsplit]

end Decimal
end RaceLink
