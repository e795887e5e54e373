import RaceLink.Proofs.Json.Writing
import RaceLink.Race.Lap
import RaceLink.Word

/-!
# Times as text

A time is shown as minutes, seconds and hundredths of a second.  What is finer is cut off, and
nothing else is lost: the text can be read back.

* `Lap.readClock?` — the time that a text stands for.  It is computed in words of 32 bits, and there
  is none if any step does not fit.
* `Lap.clock_parts` — the three parts of the text of a time.
* `Lap.readClock?_clock` — reading it back gives the time without what was cut off.
* `Lap.Legible`, `Lap.clock_legible` — **what the text of a time tells**, for all times.
-/

set_option autoImplicit false

namespace RaceLink
namespace Lap

open Json (decimalDigits start_decimalDigits)
open Json.Grammar (Digits decimal)
open Json.Read (Start isDigit)

/-! ## Reading a text -/

/-- The parts of a text before and behind the first mark in it, if there is one. -/
def splitOnce (mark : Char) : List Char → Option (List Char × List Char)
  | [] => none
  | c :: rest =>
    if c = mark then some ([], rest)
    else (splitOnce mark rest).map fun (before, behind) => (c :: before, behind)

/-- The word that some decimal digits stand for. -/
def digits? (ds : List Char) : Option UInt32 :=
  if !ds.isEmpty && ds.all isDigit then word32? (decimal ds) else none

/-- So many times a number of milliseconds. -/
def times? (n : UInt32) (milliseconds : Nat) : Option UInt32 := word32? (n.toNat * milliseconds)

/-- The time that a text stands for, in milliseconds. -/
def readClock? (text : String) : Option UInt32 := do
  let (minutes, rest) ← splitOnce ':' text.toList
  let (seconds, hundredths) ← splitOnce '.' rest
  let m ← times? (← digits? minutes) 60000
  let s ← times? (← digits? seconds) 1000
  let h ← times? (← digits? hundredths) 10
  let whole ← word32? (m.toNat + s.toNat)
  word32? (whole.toNat + h.toNat)

theorem splitOnce_append {mark : Char} {before : List Char} (h : mark ∉ before)
    (behind : List Char) : splitOnce mark (before ++ mark :: behind) = some (before, behind) := by
  induction before with
  | nil => exact if_pos rfl
  | cons c before ih =>
    have hne : c ≠ mark := fun heq => h (heq ▸ List.mem_cons_self)
    have hrest : mark ∉ before := fun hmem => h (List.mem_cons_of_mem _ hmem)
    rw [List.cons_append, splitOnce, if_neg hne, ih hrest]
    rfl

/-- Neither of the marks is a digit. -/
theorem mark_notMem {ds : List Char} (h : Digits ds) : ':' ∉ ds ∧ '.' ∉ ds :=
  ⟨fun hmem => absurd (h.2 _ hmem) (by decide), fun hmem => absurd (h.2 _ hmem) (by decide)⟩

theorem exists_digits {ds : List Char} (h : Digits ds) (hlt : decimal ds < UInt32.size) :
    ∃ w, digits? ds = some w ∧ w.toNat = decimal ds := by
  obtain ⟨w, hw, hvalue⟩ := exists_word32 hlt
  have hdigits : (!ds.isEmpty && ds.all isDigit) = true := by
    rw [List.isEmpty_eq_false_iff.2 h.1, List.all_eq_true.2 h.2]
    rfl
  exact ⟨w, (if_pos hdigits).trans hw, hvalue⟩

theorem exists_times {n : UInt32} {milliseconds : Nat}
    (hlt : n.toNat * milliseconds < UInt32.size) :
    ∃ w, times? n milliseconds = some w ∧ w.toNat = n.toNat * milliseconds :=
  exists_word32 hlt

/-- Three parts that stand for a word are read as that word: no step on the way leaves the range. -/
theorem readClock?_parts {text : String} {minutes seconds hundredths : List Char}
    (htext : text.toList = minutes ++ ':' :: (seconds ++ '.' :: hundredths))
    (hm : Digits minutes) (hs : Digits seconds) (hh : Digits hundredths)
    (hlt : decimal minutes * 60000 + decimal seconds * 1000 + decimal hundredths * 10 <
      UInt32.size) :
    ∃ w, readClock? text = some w ∧
      w.toNat = decimal minutes * 60000 + decimal seconds * 1000 + decimal hundredths * 10 := by
  obtain ⟨m, hmread, hmvalue⟩ := exists_digits hm (by omega)
  obtain ⟨s, hsread, hsvalue⟩ := exists_digits hs (by omega)
  obtain ⟨h, hhread, hhvalue⟩ := exists_digits hh (by omega)
  have hmlt : m.toNat * 60000 < UInt32.size := Nat.lt_of_le_of_lt (by omega) hlt
  have hslt : s.toNat * 1000 < UInt32.size := Nat.lt_of_le_of_lt (by omega) hlt
  have hhlt : h.toNat * 10 < UInt32.size := Nat.lt_of_le_of_lt (by omega) hlt
  obtain ⟨m', hm', hmtimes⟩ := exists_times hmlt
  obtain ⟨s', hs', hstimes⟩ := exists_times hslt
  obtain ⟨h', hh', hhtimes⟩ := exists_times hhlt
  obtain ⟨whole, hwhole, hsum⟩ := exists_word32 (n := m'.toNat + s'.toNat) (by omega)
  obtain ⟨w, hw, hvalue⟩ := exists_word32 (n := whole.toNat + h'.toNat) (by omega)
  refine ⟨w, ?_, by omega⟩
  rw [readClock?, htext, splitOnce_append (mark_notMem hm).1, Option.bind_eq_bind,
    Option.bind_some]
  dsimp only
  rw [splitOnce_append (mark_notMem hs).2, Option.bind_eq_bind, Option.bind_some]
  dsimp only
  -- one step after the other; a single `simp` over all of them is slow to check
  rw [hmread, Option.bind_some, hm', Option.bind_some, hsread, Option.bind_some, hs',
    Option.bind_some, hhread, Option.bind_some, hh', Option.bind_some, hwhole, Option.bind_some,
    hw]

/-! ## The text of a time -/

/-- A digit, and the number below ten that it stands for. -/
theorem digitChar_spec :
    ∀ d < 10, isDigit (Nat.digitChar d) = true ∧ (Nat.digitChar d).toNat - '0'.toNat = d := by
  decide

/-- Two digits, and the number below a hundred that they stand for. -/
theorem twoDigits_spec (n : Nat) (hn : n < 100) :
    Digits (twoDigits n) ∧ decimal (twoDigits n) = n := by
  obtain ⟨htens, htensvalue⟩ := digitChar_spec (n / 10 % 10) (Nat.mod_lt _ (by decide))
  obtain ⟨hones, honesvalue⟩ := digitChar_spec (n % 10) (Nat.mod_lt _ (by decide))
  refine ⟨⟨List.cons_ne_nil _ _, List.forall_mem_cons.2 ⟨htens, ?_⟩⟩, ?_⟩
  · exact List.forall_mem_singleton.2 hones
  · rw [decimal, twoDigits, Nat.ofDigitChars_cons, Nat.ofDigitChars_cons, Nat.ofDigitChars_nil,
      htensvalue, honesvalue]
    omega

/-- The parts of the text of a time. -/
theorem clock_parts (time : UInt32) :
    (clock time).toList = decimalDigits (time.toNat / 60000) ++ ':' ::
      (twoDigits (time.toNat / 1000 % 60) ++ '.' :: twoDigits (time.toNat % 1000 / 10)) := by
  rw [clock, String.toList_ofList, List.append_assoc]
  rfl

/-- The numbers of the parts add up to the time without what was cut off. -/
theorem decimal_parts (time : UInt32) :
    decimal (decimalDigits (time.toNat / 60000)) * 60000 +
      decimal (twoDigits (time.toNat / 1000 % 60)) * 1000 +
      decimal (twoDigits (time.toNat % 1000 / 10)) * 10 = time.toNat - time.toNat % 10 := by
  obtain ⟨-, hseconds⟩ := twoDigits_spec (time.toNat / 1000 % 60) (by omega)
  obtain ⟨-, hhundredths⟩ := twoDigits_spec (time.toNat % 1000 / 10) (by omega)
  have hminutes : decimal (decimalDigits (time.toNat / 60000)) = time.toNat / 60000 :=
    Nat.ofDigitChars_ten_toDigits
  rw [hminutes, hseconds, hhundredths]
  omega

/-- A time without what was cut off. -/
theorem toNat_cut (time : UInt32) : (time - time % 10).toNat = time.toNat - time.toNat % 10 := by
  have hle : time % 10 ≤ time := by
    rw [UInt32.le_iff_toNat_le, UInt32.toNat_mod]
    exact Nat.mod_le _ _
  rw [UInt32.toNat_sub_of_le _ _ hle, UInt32.toNat_mod]
  rfl

/-- **The text of a time can be read back**, up to what was cut off. -/
theorem readClock?_clock (time : UInt32) :
    readClock? (clock time) = some (time - time % 10) := by
  have hseconds := (twoDigits_spec (time.toNat / 1000 % 60) (by omega)).1
  have hhundredths := (twoDigits_spec (time.toNat % 1000 / 10) (by omega)).1
  have hlt : time.toNat - time.toNat % 10 < UInt32.size :=
    Nat.lt_of_le_of_lt (Nat.sub_le _ _) time.toNat_lt
  rw [← decimal_parts] at hlt
  obtain ⟨w, hread, hvalue⟩ := readClock?_parts (clock_parts time) (start_decimalDigits _).digits
    hseconds hhundredths hlt
  rw [decimal_parts, ← toNat_cut] at hvalue
  rw [hread, UInt32.toNat_inj.1 hvalue]

/-- Times have the same text exactly if they agree up to the hundredth. -/
theorem clock_eq_iff {a b : UInt32} : clock a = clock b ↔ a / 10 = b / 10 := by
  rw [← UInt32.toNat_inj, UInt32.toNat_div, UInt32.toNat_div]
  show _ ↔ a.toNat / 10 = b.toNat / 10
  constructor
  · intro hsame
    have hread : a - a % 10 = b - b % 10 :=
      Option.some_inj.1 ((readClock?_clock a).symm.trans (hsame ▸ readClock?_clock b))
    have hcut := congrArg UInt32.toNat hread
    rw [toNat_cut, toNat_cut] at hcut
    omega
  · intro hsame
    have hminutes : a.toNat / 60000 = b.toNat / 60000 := by omega
    have hseconds : a.toNat / 1000 % 60 = b.toNat / 1000 % 60 := by omega
    have hhundredths : a.toNat % 1000 / 10 = b.toNat % 1000 / 10 := by omega
    rw [← String.toList_inj, clock_parts, clock_parts, hminutes, hseconds, hhundredths]

/-! ## The law -/

/-- What the text of a time tells. -/
structure Legible (time : UInt32) : Prop where
  /-- The minutes without leading zeros, two digits for the seconds and two for the hundredths. -/
  form : ∃ minutes seconds hundredths : List Char,
    (clock time).toList = minutes ++ ':' :: (seconds ++ '.' :: hundredths) ∧
    Start minutes ∧ decimal minutes = time.toNat / 60000 ∧
    Digits seconds ∧ seconds.length = 2 ∧ decimal seconds < 60 ∧
    Digits hundredths ∧ hundredths.length = 2 ∧
    decimal minutes * 60000 + decimal seconds * 1000 + decimal hundredths * 10 =
      time.toNat - time.toNat % 10
  /-- No step of reading it back leaves the words of 32 bits. -/
  read : readClock? (clock time) = some (time - time % 10)

theorem legible (time : UInt32) : Legible time where
  form := by
    obtain ⟨hs, hsvalue⟩ := twoDigits_spec (time.toNat / 1000 % 60) (by omega)
    obtain ⟨hh, -⟩ := twoDigits_spec (time.toNat % 1000 / 10) (by omega)
    exact ⟨_, _, _, clock_parts time, start_decimalDigits _, Nat.ofDigitChars_ten_toDigits, hs, rfl,
      by omega, hh, rfl, decimal_parts time⟩
  read := readClock?_clock time

/-- **What the text of a time tells.**  It has the form of minutes, seconds and hundredths, and can
be read back up to what was cut off.  So the texts of two times are the same exactly if they agree
up to the hundredth, and what is read keeps their order. -/
theorem clock_legible (a b : UInt32) :
    Legible a ∧ (clock a = clock b ↔ a / 10 = b / 10) ∧
      ∃ ra rb, readClock? (clock a) = some ra ∧ readClock? (clock b) = some rb ∧
        (a ≤ b → ra ≤ rb) ∧ (ra < rb ↔ a / 10 < b / 10) := by
  refine ⟨legible a, clock_eq_iff, _, _, readClock?_clock a, readClock?_clock b, fun hle => ?_, ?_⟩
  · rw [UInt32.le_iff_toNat_le] at hle ⊢
    rw [toNat_cut, toNat_cut]
    omega
  · rw [UInt32.lt_iff_toNat_lt, UInt32.lt_iff_toNat_lt, toNat_cut, toNat_cut, UInt32.toNat_div,
      UInt32.toNat_div]
    show _ ↔ a.toNat / 10 < b.toNat / 10
    omega

/-- The last hundredth before a minute, and what the largest time of all is read back as. -/
example : clock 59999 = "0:59.99" ∧ readClock? "71582:47.29" = some 4294967290 := by
  decide +kernel

end Lap
end RaceLink
