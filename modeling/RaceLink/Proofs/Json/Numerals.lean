import RaceLink.Proofs.Json.Lexemes

/-!
# Reading numbers

The reader for numbers takes what the grammar says, and gives the number it stands for.  Each part
of the reader is compared with the part of a numeral that it takes: what is left behind that part
never begins with what could continue it.

* `Read.gather_append` and what follows it — digits that are gathered into a number of limited size.
* `Read.exponentPart_iff`, `Read.fractionPart_append`, `Read.number_point`, `Read.number_mark`,
  `Read.number_plain` — the parts of the reader, on the parts of a numeral.
* `Read.numeric_of_number`, `Read.number_of_numeric` — both directions for whole numerals.
-/

set_option autoImplicit false

namespace RaceLink
namespace Json
namespace Read

open Grammar
open Refusal (here past)

/-! ## Digits -/

theorem digitValue_lt {c : Char} (hc : isDigit c = true) : digitValue c < 10 := by
  rw [isDigit, Bool.and_eq_true, decide_eq_true_iff, decide_eq_true_iff] at hc
  have hle : c.toNat ≤ '9'.toNat := hc.2
  have hnine : '9'.toNat = '0'.toNat + 9 := rfl
  rw [digitValue]
  omega

/-- A text is some digits and what is behind them. -/
theorem exists_digits (s : List Char) :
    ∃ ds r, s = ds ++ r ∧ (∀ c ∈ ds, isDigit c = true) ∧ digitNext r = false := by
  induction s with
  | nil => exact ⟨[], [], rfl, by simp, rfl⟩
  | cons c s ih =>
    cases hc : isDigit c with
    | false => exact ⟨[], c :: s, rfl, by simp, hc⟩
    | true =>
      obtain ⟨ds, r, rfl, hds, hr⟩ := ih
      exact ⟨c :: ds, r, rfl, List.forall_mem_cons.2 ⟨hc, hds⟩, hr⟩

section Digits

variable {ds r : List Char}

theorem digitNext_append (hds : ∀ c ∈ ds, isDigit c = true) (hr : digitNext r = false) :
    digitNext (ds ++ r) = !ds.isEmpty := by
  cases ds with
  | nil => exact hr
  | cons c ds => exact hds c List.mem_cons_self

theorem skipDigits_append (hds : ∀ c ∈ ds, isDigit c = true) (hr : digitNext r = false) :
    skipDigits (ds ++ r) = r := by
  induction ds with
  | nil =>
    cases r with
    | nil => rfl
    | cons c r =>
      have hc : isDigit c = false := hr
      rw [List.nil_append, skipDigits, if_neg (by simp [hc])]
  | cons c ds ih =>
    obtain ⟨hc, hds⟩ := List.forall_mem_cons.1 hds
    rw [List.cons_append, skipDigits, if_pos hc]
    exact ih hds

theorem countDigits_append (hds : ∀ c ∈ ds, isDigit c = true) (hr : digitNext r = false) :
    countDigits (ds ++ r) = (ds.length, r) := by
  induction ds with
  | nil =>
    cases r with
    | nil => rfl
    | cons c r =>
      have hc : isDigit c = false := hr
      rw [List.nil_append, countDigits, if_neg (by simp [hc])]
      rfl
  | cons c ds ih =>
    obtain ⟨hc, hds⟩ := List.forall_mem_cons.1 hds
    rw [List.cons_append, countDigits, if_pos hc, ih hds]
    rfl

variable {limit : Nat}

theorem gather_cons {c : Char} (hc : isDigit c = true) (value count : Nat) (s : List Char) :
    gather limit value count (c :: s) =
      if value * 10 + digitValue c < limit then
        gather limit (value * 10 + digitValue c) (count + 1) s
      else (value, count, c :: s) := by
  rw [gather, if_pos hc]

theorem gather_first {c : Char} (hc : isDigit c = true) (hlimit : 10 ≤ limit)
    (s : List Char) : gather limit 0 0 (c :: s) = gather limit (digitValue c) 1 s := by
  have hlt := digitValue_lt hc
  rw [gather_cons hc, if_pos (by omega), Nat.zero_mul, Nat.zero_add, Nat.zero_add]

/-- Only the digits at the front of a text are gathered. -/
theorem gather_append (limit : Nat) (hds : ∀ c ∈ ds, isDigit c = true)
    (hr : digitNext r = false) (value count : Nat) :
    gather limit value count (ds ++ r) =
      ((gather limit value count ds).1, (gather limit value count ds).2.1,
        (gather limit value count ds).2.2 ++ r) := by
  induction ds generalizing value count with
  | nil =>
    cases r with
    | nil => rfl
    | cons c r =>
      have hc : isDigit c = false := hr
      simp [gather, hc]
  | cons c ds ih =>
    obtain ⟨hc, hds⟩ := List.forall_mem_cons.1 hds
    rw [List.cons_append, gather_cons hc, gather_cons hc]
    split
    · exact ih hds _ _
    · rfl

/-- What is not gathered are digits too. -/
theorem gather_rest (limit : Nat) (hds : ∀ c ∈ ds, isDigit c = true) (value count : Nat) :
    ∀ c ∈ (gather limit value count ds).2.2, isDigit c = true := by
  induction ds generalizing value count with
  | nil => simp [gather]
  | cons c ds ih =>
    obtain ⟨hc, hds'⟩ := List.forall_mem_cons.1 hds
    rw [gather_cons hc]
    split
    · exact ih hds' _ _
    · exact hds

/-- Every digit is either counted or not gathered. -/
theorem gather_count (limit : Nat) (ds : List Char) (value count : Nat) :
    (gather limit value count ds).2.1 + (gather limit value count ds).2.2.length =
      count + ds.length := by
  induction ds generalizing value count with
  | nil => rfl
  | cons c ds ih =>
    rw [gather]
    split
    · dsimp only
      split
      · rw [ih, List.length_cons]
        omega
      · rfl
    · rfl

theorem le_ofDigitChars (ds : List Char) (value : Nat) : value ≤ Nat.ofDigitChars 10 ds value := by
  induction ds generalizing value with
  | nil => exact Nat.le_of_eq Nat.ofDigitChars_nil.symm
  | cons c ds ih =>
    rw [Nat.ofDigitChars_cons]
    have := ih (10 * value + (c.toNat - '0'.toNat))
    omega

/-- All digits are gathered just if the number they make is below the limit. -/
theorem gather_eq_nil_iff (hds : ∀ c ∈ ds, isDigit c = true) {value : Nat} (hvalue : value < limit)
    (count : Nat) :
    (gather limit value count ds).2.2 = [] ↔ Nat.ofDigitChars 10 ds value < limit := by
  induction ds generalizing value count with
  | nil => simpa [gather] using hvalue
  | cons c ds ih =>
    obtain ⟨hc, hds⟩ := List.forall_mem_cons.1 hds
    rw [gather_cons hc, Nat.ofDigitChars_cons, Nat.mul_comm 10 value]
    split
    · rename_i hlt
      exact ih hds hlt _
    · rename_i hge
      have hle := le_ofDigitChars ds (value * 10 + digitValue c)
      rw [digitValue] at hge hle
      constructor
      · intro h
        cases h
      · intro h
        omega

/-- If all digits are gathered, the number they make is what comes out. -/
theorem gather_value (value count : Nat) (h : (gather limit value count ds).2.2 = []) :
    (gather limit value count ds).1 = Nat.ofDigitChars 10 ds value := by
  induction ds generalizing value count with
  | nil => rfl
  | cons c ds ih =>
    rw [gather] at h ⊢
    split at h
    · rename_i hc
      dsimp only at h
      split at h
      · rename_i hlt
        rw [if_pos hc]
        dsimp only
        rw [if_pos hlt, ih _ _ h, Nat.ofDigitChars_cons, Nat.mul_comm 10 value, digitValue]
      · cases h
    · cases h

end Digits

/-! ## Exponents -/

section Number

variable {positive : Bool} {significand : Nat} {exponent : Int} {n : Number} {r s t : List Char}

theorem realNumber_iff :
    realNumber positive significand exponent s = .ok (n, t) ↔
      (real? positive significand exponent).map .real = some n ∧ t = s := by
  rw [realNumber]
  cases real? positive significand exponent with
  | none => simp
  | some x => simp [eq_comm]

/-- The sign of an exponent, and what is behind it. -/
def exponentSign : List Char → Bool × List Char
  | '+' :: rest => (true, rest)
  | '-' :: rest => (false, rest)
  | s => (true, s)

/-- Reads the digits of an exponent. -/
def exponentDigits (positive : Bool) (significand : Nat) (exponent : Int) (up : Bool) :
    Reader Number := fun s =>
  match s with
  | [] => here .endOfValue []
  | c :: rest =>
    if isDigit c then
      let (size, _, rest) := gather exponentLimit (digitValue c) 1 rest
      if digitNext rest then
        if significand ≠ 0 ∧ up then past .numberOutOfRange rest
        else .ok (.real (if positive then 0.0 else -0.0), skipDigits rest)
      else
        realNumber positive significand (if up then exponent + size else exponent - size) rest
    else past .badNumber (c :: rest)

theorem exponentPart_eq (positive : Bool) (significand : Nat) (exponent : Int) (s : List Char) :
    exponentPart positive significand exponent s =
      exponentDigits positive significand exponent (exponentSign s).1 (exponentSign s).2 := by
  rw [exponentPart.eq_def]
  split
  rename_i up s' hsign
  split at hsign
  · cases hsign
    rfl
  · cases hsign
    rfl
  · rename_i hplus hminus
    cases hsign
    rw [exponentSign.eq_3 s hplus hminus]
    rfl

theorem exponentSign_digit {c : Char} (hc : isDigit c = true) (s : List Char) :
    exponentSign (c :: s) = (true, c :: s) := by
  rw [exponentSign]
  · rintro rest h
    cases h
    cases hc
  · rintro rest h
    cases h
    cases hc

theorem exponentSign_append {e : Exponent} (he : e.Valid) (s : List Char) :
    exponentSign (e.sign ++ (e.digits ++ s)) = (e.up, e.digits ++ s) := by
  obtain ⟨mark, sign, digits⟩ := e
  obtain ⟨-, hsign, hne, hdigits⟩ := he
  dsimp only at hsign hne hdigits ⊢
  obtain ⟨c, ds, rfl⟩ := List.exists_cons_of_ne_nil hne
  rcases hsign with rfl | rfl | rfl
  · exact exponentSign_digit (hdigits c List.mem_cons_self) _
  · rfl
  · rfl

theorem exponentPart_iff {e : Exponent} (he : e.Valid) (hr : digitNext r = false) :
    exponentPart positive significand exponent (e.sign ++ (e.digits ++ r)) = .ok (n, t) ↔
      (e.scale? positive significand exponent).map .real = some n ∧ t = r := by
  rw [exponentPart_eq, exponentSign_append he, Exponent.scale?]
  obtain ⟨hne, hdigits⟩ := he.digits
  have hall := gather_append exponentLimit hdigits hr 0 0
  have hrest := gather_rest exponentLimit hdigits 0 0
  obtain ⟨c, ds, hcs⟩ := List.exists_cons_of_ne_nil hne
  have hc : isDigit c = true := hdigits c (by rw [hcs]; exact List.mem_cons_self)
  rw [hcs, List.cons_append, gather_first hc (by decide)] at hall
  rw [hcs, List.cons_append, exponentDigits, if_pos hc, hall, ← hcs]
  generalize gather exponentLimit 0 0 e.digits = g at hrest ⊢
  obtain ⟨size, count, more⟩ := g
  dsimp only at hrest ⊢
  rw [digitNext_append hrest hr, skipDigits_append hrest hr]
  cases more with
  | nil =>
    rw [List.isEmpty_nil, if_neg (by decide), if_pos rfl]
    exact realNumber_iff
  | cons d more =>
    rw [List.isEmpty_cons, if_pos (by decide), if_neg (List.cons_ne_nil d more)]
    split
    · simp
    · simp [eq_comm]

/-- What is read as an exponent is one. -/
theorem exists_exponent {mark : Char} (hmark : mark = 'e' ∨ mark = 'E')
    (h : exponentPart positive significand exponent s = .ok (n, t)) :
    ∃ (e : Exponent) (r : List Char), e.Valid ∧ mark :: s = e.chars ++ r ∧ digitNext r = false := by
  have hdigits : ∀ {up : Bool} {s' : List Char},
      exponentDigits positive significand exponent up s' = .ok (n, t) →
      ∃ ds r, s' = ds ++ r ∧ Digits ds ∧ digitNext r = false := by
    intro up s' h
    obtain ⟨ds, r, rfl, hds, hr⟩ := exists_digits s'
    refine ⟨ds, r, rfl, ⟨?_, hds⟩, hr⟩
    rintro rfl
    cases r with
    | nil => exact absurd h here_ne_ok
    | cons c r =>
      have hc : isDigit c = false := hr
      rw [List.nil_append, exponentDigits, if_neg (by simp [hc])] at h
      exact absurd h past_ne_ok
  rw [exponentPart_eq] at h
  obtain ⟨ds, r, hs, hds, hr⟩ := hdigits h
  have hsign : ∃ sign, s = sign ++ (ds ++ r) ∧ (sign = [] ∨ sign = ['+'] ∨ sign = ['-']) := by
    rw [← hs]
    unfold exponentSign
    split
    · exact ⟨['+'], rfl, .inr (.inl rfl)⟩
    · exact ⟨['-'], rfl, .inr (.inr rfl)⟩
    · exact ⟨[], rfl, .inl rfl⟩
  obtain ⟨sign, rfl, hsign⟩ := hsign
  refine ⟨⟨mark, sign, ds⟩, r, ⟨hmark, hsign, hds⟩, ?_, hr⟩
  rw [Exponent.chars, List.cons_append, List.append_assoc]

/-! ## Parts of a number -/

/-- Whether an exponent mark comes next. -/
def markNext : List Char → Bool
  | [] => false
  | c :: _ => c = 'e' ∨ c = 'E'

theorem realEnd_mark {mark : Char} (hmark : mark = 'e' ∨ mark = 'E') :
    realEnd positive significand exponent (mark :: s) =
      exponentPart positive significand exponent s := by
  rw [realEnd, if_pos hmark]

theorem realEnd_plain (hmark : markNext s = false) :
    realEnd positive significand exponent s = realNumber positive significand exponent s := by
  cases s with
  | nil => rfl
  | cons c s => rw [realEnd, if_neg (of_decide_eq_false hmark)]

/-- The characters of an exponent that may be left out. -/
theorem realEnd_iff {e : Option Exponent} (he : ∀ x ∈ e, x.Valid) (hr : digitNext r = false)
    (hmark : e = none → markNext r = false) :
    realEnd positive significand exponent ((e.map Exponent.chars).getD [] ++ r) = .ok (n, t) ↔
      ((match e with
        | some x => x.scale? positive significand exponent
        | none => real? positive significand exponent).map .real = some n ∧ t = r) := by
  cases e with
  | none =>
    rw [Option.map_none, Option.getD_none, List.nil_append, realEnd_plain (hmark rfl)]
    exact realNumber_iff
  | some x =>
    have hx := he x rfl
    rw [Option.map_some, Option.getD_some, Exponent.chars, List.cons_append, List.append_assoc,
      realEnd_mark hx.mark]
    exact exponentPart_iff hx hr

theorem fractionPart_append {fs : List Char} (hfs : Digits fs) (hr : digitNext r = false) :
    fractionPart positive significand exponent (fs ++ r) =
      realEnd positive (gather wordLimit significand 0 fs).1
        (exponent - (gather wordLimit significand 0 fs).2.1) r := by
  have hcount := gather_count wordLimit fs significand 0
  have hrest := gather_rest wordLimit hfs.2 significand 0
  have hlength := List.length_pos_iff.2 hfs.1
  rw [fractionPart, gather_append wordLimit hfs.2 hr]
  generalize gather wordLimit significand 0 fs = g at hcount hrest ⊢
  obtain ⟨value, count, more⟩ := g
  dsimp only at hcount hrest ⊢
  rw [digitNext_append hrest hr, skipDigits_append hrest hr]
  cases more with
  | nil =>
    rw [List.isEmpty_nil, if_neg (by decide), if_neg ?_, List.nil_append]
    rw [List.length_nil] at hcount
    omega
  | cons d more => rw [List.isEmpty_cons, if_pos (by decide)]

/-- Digits that a number may begin with. -/
structure Start (ds : List Char) : Prop where
  digits : Digits ds
  zero : ds.head? = some '0' → ds = ['0']

/-- The digits before the point, up to what is behind them. -/
theorem number_start {ds : List Char} (hds : Start ds) (hr : digitNext r = false) :
    number positive (ds ++ r) =
      if (gather wordLimit 0 0 ds).2.2 = [] then numberEnd positive (gather wordLimit 0 0 ds).1 r
      else longNumber positive (gather wordLimit 0 0 ds).1
        ((gather wordLimit 0 0 ds).2.2 ++ r) := by
  obtain ⟨⟨hne, hdigits⟩, hzero⟩ := hds
  have hall := gather_append wordLimit hdigits hr 0 0
  have hrest := gather_rest wordLimit hdigits 0 0
  obtain ⟨c, ds, rfl⟩ := List.exists_cons_of_ne_nil hne
  have hc : isDigit c = true := hdigits c List.mem_cons_self
  by_cases h0 : c = '0'
  · have hds : ds = [] := (List.cons.inj (hzero (congrArg some h0))).2
    subst h0 hds
    have hg : gather wordLimit 0 0 ['0'] = (0, 1, []) := by decide
    rw [hg, if_pos rfl, List.cons_append, List.nil_append, number, if_pos rfl,
      if_neg (by simp [hr])]
  · rw [List.cons_append, gather_first hc (by decide)] at hall
    rw [List.cons_append, number, if_neg h0, if_pos hc, hall]
    generalize gather wordLimit 0 0 (c :: ds) = g at hrest ⊢
    obtain ⟨value, count, more⟩ := g
    dsimp only at hrest ⊢
    rw [digitNext_append hrest hr]
    cases more with
    | nil => rw [List.isEmpty_nil, if_neg (by decide), if_pos rfl, List.nil_append]
    | cons d more =>
      rw [List.isEmpty_cons, if_pos (by decide), if_neg (List.cons_ne_nil d more)]

theorem number_point {ds : List Char} (hds : Start ds) :
    number positive (ds ++ '.' :: s) =
      fractionPart positive (gather wordLimit 0 0 ds).1 (gather wordLimit 0 0 ds).2.2.length s := by
  rw [number_start hds rfl]
  split
  · rename_i hrest
    rw [hrest]
    rfl
  · rw [longNumber, countDigits_append (gather_rest wordLimit hds.digits.2 0 0) rfl]
    rfl

theorem number_mark {ds : List Char} (hds : Start ds) {mark : Char}
    (hmark : mark = 'e' ∨ mark = 'E') :
    number positive (ds ++ mark :: s) =
      exponentPart positive (gather wordLimit 0 0 ds).1 (gather wordLimit 0 0 ds).2.2.length s := by
  have hdigit : digitNext (mark :: s) = false := by rcases hmark with rfl | rfl <;> rfl
  rw [number_start hds hdigit]
  split
  · rename_i hrest
    rw [hrest]
    rcases hmark with rfl | rfl <;> rfl
  · rw [longNumber, countDigits_append (gather_rest wordLimit hds.digits.2 0 0) hdigit]
    rcases hmark with rfl | rfl <;> rfl

/-- A number that has neither point nor exponent. -/
theorem number_plain {ds : List Char} (hds : Start ds) (hr : digitNext r = false)
    (hmark : markNext r = false) (hpoint : r.head? ≠ some '.') :
    number positive (ds ++ r) =
      if decimal ds < wordLimit then .ok (wholeNumber positive (decimal ds), r)
      else realNumber positive (gather wordLimit 0 0 ds).1
        (gather wordLimit 0 0 ds).2.2.length r := by
  have hiff : (gather wordLimit 0 0 ds).2.2 = [] ↔ decimal ds < wordLimit :=
    gather_eq_nil_iff hds.digits.2 (by decide) 0
  rw [number_start hds hr]
  by_cases hrest : (gather wordLimit 0 0 ds).2.2 = []
  · rw [if_pos hrest, if_pos (hiff.1 hrest), gather_value 0 0 hrest, decimal]
    cases r with
    | nil => rfl
    | cons c r =>
      rw [numberEnd, if_neg (of_decide_eq_false hmark)]
      rintro rfl
      exact hpoint rfl
  · rw [if_neg hrest, if_neg (mt hiff.2 hrest), longNumber,
      countDigits_append (gather_rest wordLimit hds.digits.2 0 0) hr]
    dsimp only
    split
    · exact absurd rfl hpoint
    · exact realEnd_plain hmark

end Number

/-! ## Numerals -/

/-- Nothing before `r` goes on with a numeral. -/
structure Ends (m : Numeral) (r : List Char) : Prop where
  digit : digitNext r = false
  mark : m.exponent = none → markNext r = false
  point : m.exponent = none → m.fraction = [] → r.head? ≠ some '.'

theorem number?_of_parts {m : Numeral} (h : m.fraction ≠ [] ∨ m.exponent ≠ none) :
    m.number? = (match m.exponent with
      | some e => e.scale? (!m.negative) m.significand.1 m.significand.2
      | none => real? (!m.negative) m.significand.1 m.significand.2).map .real := by
  obtain ⟨negative, whole, fraction, exponent⟩ := m
  cases exponent with
  | some e => simp [Numeral.number?, Numeral.integer?, Numeral.real?]
  | none =>
    have hfraction : fraction ≠ [] := by simpa using h
    simp [Numeral.number?, Numeral.integer?, Numeral.real?, hfraction]

theorem number?_of_whole {m : Numeral} (hfraction : m.fraction = [])
    (hexponent : m.exponent = none) :
    m.number? =
      if decimal m.whole < wordLimit then some (wholeNumber (!m.negative) (decimal m.whole))
      else (real? (!m.negative) m.significand.1 m.significand.2).map .real := by
  obtain ⟨negative, whole, fraction, exponent⟩ := m
  dsimp only at hfraction hexponent
  subst hfraction hexponent
  have hlimit : Nat.pow 2 63 < wordLimit := by decide
  cases negative with
  | true =>
    by_cases hlt : decimal whole < wordLimit
    · by_cases hwhole : 0 < decimal whole ∧ decimal whole ≤ Nat.pow 2 63
      · simp [Numeral.number?, Numeral.integer?, wholeNumber, hlt, hwhole]
      · simp [Numeral.number?, Numeral.integer?, Numeral.real?, wholeNumber, hlt, hwhole]
    · have hwhole : ¬ (0 < decimal whole ∧ decimal whole ≤ Nat.pow 2 63) := by omega
      simp [Numeral.number?, Numeral.integer?, Numeral.real?, hlt, hwhole]
  | false =>
    by_cases hlt : decimal whole < wordLimit
    · simp [Numeral.number?, Numeral.integer?, wholeNumber, hlt]
    · simp [Numeral.number?, Numeral.integer?, Numeral.real?, hlt]

theorem number_iff {m : Numeral} (hm : m.Valid) {r t : List Char} (hr : Ends m r) {n : Number} :
    number (!m.negative) (m.unsigned ++ r) = .ok (n, t) ↔ m.number? = some n ∧ t = r := by
  have hstart : Start m.whole := ⟨hm.whole, hm.start⟩
  by_cases hfraction : m.fraction = []
  · cases hexponent : m.exponent with
    | none =>
      have hchars : m.unsigned = m.whole := by
        simp [Numeral.unsigned, Numeral.pointed, hfraction, hexponent]
      rw [hchars, number?_of_whole hfraction hexponent,
        number_plain hstart hr.digit (hr.mark hexponent) (hr.point hexponent hfraction)]
      split
      · simp [eq_comm]
      · rw [realNumber_iff, Numeral.significand, hfraction]
        simp [gather]
    | some e =>
      have he : e.Valid := hm.exponent e hexponent
      have hchars : m.unsigned ++ r = m.whole ++ e.mark :: (e.sign ++ (e.digits ++ r)) := by
        simp [Numeral.unsigned, Numeral.pointed, Exponent.chars, hfraction, hexponent]
      rw [hchars, number?_of_parts (.inr (by simp [hexponent])), number_mark hstart he.mark,
        exponentPart_iff he hr.digit, hexponent, Numeral.significand, hfraction]
      simp [gather]
  · have hchars : m.unsigned ++ r =
        m.whole ++ '.' :: (m.fraction ++ ((m.exponent.map Exponent.chars).getD [] ++ r)) := by
      rw [Numeral.unsigned, Numeral.pointed]
      · simp
      · exact hfraction
    have hdigit : digitNext ((m.exponent.map Exponent.chars).getD [] ++ r) = false := by
      cases hexponent : m.exponent with
      | none => exact hr.digit
      | some e =>
        rw [Option.map_some, Option.getD_some, Exponent.chars]
        rcases (hm.exponent e hexponent).mark with h | h
        · rw [h]
          rfl
        · rw [h]
          rfl
    rw [hchars, number?_of_parts (.inl hfraction), number_point hstart,
      fractionPart_append ⟨hfraction, hm.fraction⟩ hdigit,
      realEnd_iff hm.exponent hr.digit hr.mark, Numeral.significand]

/-- The digits at the front of what is read as a number. -/
theorem start_of_number {positive : Bool} {ds r t : List Char} {n : Number}
    (hdigits : ∀ c ∈ ds, isDigit c = true) (hr : digitNext r = false)
    (h : number positive (ds ++ r) = .ok (n, t)) : Start ds := by
  cases ds with
  | nil =>
    cases r with
    | nil => exact absurd h here_ne_ok
    | cons c r =>
      have hc : isDigit c = false := hr
      have h0 : c ≠ '0' := by rintro rfl; cases hc
      rw [List.nil_append, number, if_neg h0, if_neg (by simp [hc])] at h
      exact absurd h past_ne_ok
  | cons c ds =>
    refine ⟨⟨List.cons_ne_nil c ds, hdigits⟩, fun hzero => ?_⟩
    have h0 : c = '0' := Option.some.inj hzero
    rw [List.cons_append, number, if_pos h0,
      digitNext_append (List.forall_mem_cons.1 hdigits).2 hr] at h
    cases ds with
    | nil => rw [h0]
    | cons d ds => exact absurd h past_ne_ok

/-- The digits behind the point of what is read as a number. -/
theorem digits_of_fractionPart {positive : Bool} {significand : Nat} {exponent : Int}
    {fs r t : List Char} {n : Number} (hfs : ∀ c ∈ fs, isDigit c = true) (hr : digitNext r = false)
    (h : fractionPart positive significand exponent (fs ++ r) = .ok (n, t)) : Digits fs := by
  refine ⟨?_, hfs⟩
  rintro rfl
  rw [fractionPart, gather_append wordLimit hfs hr] at h
  simp only [gather, List.nil_append, hr, Bool.false_eq_true, if_false, if_true] at h
  cases r with
  | nil => exact absurd h here_ne_ok
  | cons c r => exact absurd h past_ne_ok

/-- An exponent, or none, with nothing behind it that goes on with it. -/
structure Tail (e : Option Exponent) (s r : List Char) : Prop where
  valid : ∀ x ∈ e, x.Valid
  chars : s = (e.map Exponent.chars).getD [] ++ r
  digit : digitNext r = false
  mark : e = none → markNext r = false

/-- What is read behind the digits of a number is an exponent, if there is a mark at all. -/
theorem exists_tail {positive : Bool} {significand : Nat} {exponent : Int} {s t : List Char}
    {n : Number} (hs : digitNext s = false)
    (h : markNext s = true → realEnd positive significand exponent s = .ok (n, t)) :
    ∃ e r, Tail e s r := by
  cases hmark : markNext s with
  | false => exact ⟨none, s, by simp, rfl, hs, fun _ => hmark⟩
  | true =>
    cases s with
    | nil => cases hmark
    | cons mark s =>
      have hchar : mark = 'e' ∨ mark = 'E' := of_decide_eq_true hmark
      have hpart := (realEnd_mark hchar).symm.trans (h hmark)
      obtain ⟨e, r, he, hchars, hr⟩ := exists_exponent hchar hpart
      exact ⟨some e, r, by simpa using he, hchars, hr, nofun⟩

/-- What is read as a number is a numeral that ends there. -/
theorem exists_numeral {positive : Bool} {s t : List Char} {n : Number}
    (h : number positive s = .ok (n, t)) :
    ∃ (m : Numeral) (r : List Char), m.Valid ∧ m.negative = !positive ∧ s = m.unsigned ++ r ∧
      Ends m r := by
  obtain ⟨ds, u, rfl, hdigits, hu⟩ := exists_digits s
  have hstart := start_of_number hdigits hu h
  by_cases hpoint : u.head? = some '.'
  · obtain ⟨v, rfl⟩ := List.head?_eq_some_iff.1 hpoint
    rw [number_point hstart] at h
    obtain ⟨fs, w, rfl, hfs, hw⟩ := exists_digits v
    have hfraction := digits_of_fractionPart hfs hw h
    rw [fractionPart_append hfraction hw] at h
    obtain ⟨e, r, he, rfl, hr, hmark⟩ := exists_tail hw fun _ => h
    refine ⟨⟨!positive, ds, fs, e⟩, r, ⟨hstart.digits, hstart.zero, hfs, he⟩, rfl, ?_,
      hr, hmark, fun _ hnil => absurd hnil hfraction.1⟩
    rw [Numeral.unsigned, Numeral.pointed]
    · simp
    · exact hfraction.1
  · have hend : markNext u = true → realEnd positive (gather wordLimit 0 0 ds).1
        (gather wordLimit 0 0 ds).2.2.length u = .ok (n, t) := by
      intro hmark
      cases u with
      | nil => cases hmark
      | cons mark u =>
        have hchar : mark = 'e' ∨ mark = 'E' := of_decide_eq_true hmark
        exact (realEnd_mark hchar).trans ((number_mark hstart hchar).symm.trans h)
    obtain ⟨e, r, he, rfl, hr, hmark⟩ := exists_tail hu hend
    refine ⟨⟨!positive, ds, [], e⟩, r, ⟨hstart.digits, hstart.zero, by simp, he⟩, rfl, ?_,
      hr, hmark, ?_⟩
    · simp [Numeral.unsigned, Numeral.pointed]
    · rintro rfl -
      exact hpoint

/-- A number without sign is an integer just if it is written in digits only. -/
theorem numeric_natural_iff {s r : List Char} {k : Nat} :
    Numeric s (.natural k) r ↔
      k < wordLimit ∧ ∃ ds, Start ds ∧ decimal ds = k ∧ s = ds ++ r := by
  constructor
  · rintro ⟨m, hm, hvalue, rfl⟩
    have hreal : ∀ o : Option Float, o.map Number.real ≠ some (.natural k) := by
      rintro (_ | x) h
      · cases h
      · cases h
    by_cases hfraction : m.fraction = []
    · cases hexponent : m.exponent with
      | some e =>
        rw [number?_of_parts (.inr (by simp [hexponent]))] at hvalue
        exact absurd hvalue (hreal _)
      | none =>
        rw [number?_of_whole hfraction hexponent] at hvalue
        split at hvalue
        · rename_i hlt
          rw [wholeNumber] at hvalue
          split at hvalue
          · rename_i hsign
            cases hvalue
            refine ⟨hlt, m.whole, ⟨hm.whole, hm.start⟩, rfl, ?_⟩
            rw [Numeral.chars, if_neg (by simpa using hsign), Numeral.unsigned, hfraction,
              hexponent]
            simp [Numeral.pointed]
          · split at hvalue
            · cases hvalue
            · cases hvalue
        · exact absurd hvalue (hreal _)
    · rw [number?_of_parts (.inl hfraction)] at hvalue
      exact absurd hvalue (hreal _)
  · rintro ⟨hk, ds, hds, rfl, rfl⟩
    refine ⟨⟨false, ds, [], none⟩, ⟨hds.digits, hds.zero, by simp, by simp⟩, ?_, ?_⟩
    · simp [Numeral.number?, Numeral.integer?, hk]
    · simp [Numeral.chars, Numeral.unsigned, Numeral.pointed]

/-- What is read as a number is one, up to what is left. -/
theorem numeral_of_number {positive : Bool} {s t : List Char} {n : Number}
    (h : number positive s = .ok (n, t)) :
    ∃ m : Numeral, m.Valid ∧ m.negative = !positive ∧ m.number? = some n ∧ s = m.unsigned ++ t := by
  obtain ⟨m, r, hm, hsign, rfl, hr⟩ := exists_numeral h
  rw [show positive = !m.negative by simp [hsign], number_iff hm hr] at h
  exact ⟨m, hm, hsign, h.1, by rw [h.2]⟩

/-- What is read behind a minus is a number together with it. -/
theorem numeric_of_minus {s t : List Char} {n : Number} (h : number false s = .ok (n, t)) :
    Numeric ('-' :: s) n t := by
  obtain ⟨m, hm, hsign, hvalue, rfl⟩ := numeral_of_number h
  refine ⟨m, hm, hvalue, ?_⟩
  rw [Numeral.chars, if_pos (by simp [hsign]), List.cons_append]

theorem numeric_of_plus {s t : List Char} {n : Number} (h : number true s = .ok (n, t)) :
    Numeric s n t := by
  obtain ⟨m, hm, hsign, hvalue, rfl⟩ := numeral_of_number h
  refine ⟨m, hm, hvalue, ?_⟩
  rw [Numeral.chars, if_neg (by simp [hsign])]

/-- A number is read to its end, if nothing behind it goes on with it. -/
theorem number_of_numeric {s t : List Char} {n : Number} (h : Numeric s n t)
    (hdigit : digitNext t = false) (hmark : markNext t = false) (hpoint : t.head? ≠ some '.') :
    (∃ u, s = '-' :: u ∧ number false u = .ok (n, t)) ∨
      (digitNext s = true ∧ number true s = .ok (n, t)) := by
  obtain ⟨m, hm, hvalue, rfl⟩ := h
  have hread := (number_iff hm ⟨hdigit, fun _ => hmark, fun _ _ => hpoint⟩).2 ⟨hvalue, rfl⟩
  cases hsign : m.negative with
  | true =>
    rw [hsign] at hread
    exact .inl ⟨m.unsigned ++ t, by rw [Numeral.chars, if_pos hsign, List.cons_append], hread⟩
  | false =>
    rw [hsign] at hread
    rw [Numeral.chars, if_neg (by simp [hsign])]
    refine .inr ⟨?_, hread⟩
    obtain ⟨c, ds, hwhole⟩ := List.exists_cons_of_ne_nil hm.whole.1
    rw [Numeral.unsigned, hwhole]
    exact hm.whole.2 c (by rw [hwhole]; exact List.mem_cons_self)

end Read
end Json
end RaceLink
