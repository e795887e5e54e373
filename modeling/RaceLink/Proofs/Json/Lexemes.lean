import RaceLink.Proofs.Json.Grammar

/-!
# Reading blanks, words and strings

The readers for the smallest parts of a text take exactly what the grammar says.

* `Read.skipBlanks_eq` — blanks before a part do not matter.
* `Read.word_iff`, `Read.quad_iff`, `Read.escape_iff` — words and escapes.
* `Read.quoted_iff` — strings: the steps that are allowed are enough for any of them.
-/

set_option autoImplicit false

namespace RaceLink
namespace Json
namespace Read

open Grammar
open Refusal (here past)

/-- A computation of two parts succeeds if both of them do. -/
theorem bind_eq_ok {ε α β : Type} {x : Except ε α} {f : α → Except ε β} {b : β} :
    x >>= f = .ok b ↔ ∃ a, x = .ok a ∧ f a = .ok b := by
  constructor
  · intro h
    cases x with
    | error e => cases h
    | ok a => exact ⟨a, rfl, h⟩
  · rintro ⟨a, rfl, hf⟩
    exact hf

theorem map_eq_ok {ε α β : Type} {x : Except ε α} {g : α → β} {b : β} :
    x.map g = .ok b ↔ ∃ a, x = .ok a ∧ g a = b := by
  cases x with
  | error e => exact ⟨nofun, nofun⟩
  | ok a => simp [Except.map]

@[simp] theorem here_ne_ok {α : Type} {issue : Issue} {s : List Char} {a : α} :
    here issue s ≠ .ok a := by
  intro h
  cases h

@[simp] theorem past_ne_ok {α : Type} {issue : Issue} {s : List Char} {a : α} :
    past issue s ≠ .ok a := by
  intro h
  cases h

/-! ## Blanks and words -/

theorem blanks_skipBlanks (s : List Char) : Blanks s (skipBlanks s) := by
  induction s with
  | nil => exact .none
  | cons c s ih =>
    rw [skipBlanks]
    split
    · rename_i hblank
      exact .more hblank ih
    · exact .none

/-- Blanks before a part do not matter. -/
theorem skipBlanks_eq {s r : List Char} (h : Blanks s r) : skipBlanks s = skipBlanks r := by
  induction h with
  | none => rfl
  | more blank rest ih => rw [skipBlanks, if_pos blank, ih]

/-- What does not begin with a blank is left as it is. -/
theorem skipBlanks_cons {c : Char} (hc : isBlank c = false) (s : List Char) :
    skipBlanks (c :: s) = c :: s := by
  rw [skipBlanks, if_neg (by simp [hc])]

theorem word_iff {w s r : List Char} : word w s = .ok ((), r) ↔ s = w ++ r := by
  induction w generalizing s with
  | nil => simp [word]
  | cons c w ih =>
    cases s with
    | nil => simp [word]
    | cons d s =>
      rw [word, List.cons_append, List.cons.injEq]
      split
      · rename_i hd
        rw [ih]
        simp [hd]
      · rename_i hd
        simp [hd]

/-! ## Strings -/

theorem quad_iff {s r : List Char} {n : Nat} : quad s = .ok (n, r) ↔ Quad s n r := by
  constructor
  · intro h
    unfold quad at h
    split at h
    · split at h
      · rename_i ha hb hc hd
        cases h
        exact .digits ha hb hc hd
      · cases h
    · split at h
      · exact absurd h here_ne_ok
      · cases h
  · rintro ⟨ha, hb, hc, hd⟩
    simp only [quad, ha, hb, hc, hd]

theorem require_iff {c : Char} {issue : Issue} {s r : List Char} :
    require c issue s = .ok ((), r) ↔ s = c :: r := by
  cases s with
  | nil => simp [require]
  | cons d s =>
    rw [require, List.cons.injEq]
    split
    · rename_i hd
      simp [hd]
    · rename_i hd
      simp [hd]

theorem unicodeEscape_iff {s r : List Char} {c : Char} :
    unicodeEscape s = .ok (c, r) ↔ Escape ('u' :: s) c r := by
  have hletter : shortEscape? 'u' = none := rfl
  constructor
  · intro h
    obtain ⟨⟨high, s'⟩, hhigh, h⟩ := bind_eq_ok.1 h
    have hquad := quad_iff.1 hhigh
    dsimp only at h
    split at h
    · cases h
    · rename_i hlone
      split at h
      · rename_i hpair
        obtain ⟨⟨⟨⟩, t⟩, hslash, h⟩ := bind_eq_ok.1 h
        obtain ⟨⟨⟨⟩, t'⟩, hu, h⟩ := bind_eq_ok.1 h
        obtain ⟨⟨low, t''⟩, hlow, h⟩ := bind_eq_ok.1 h
        dsimp only at h hu hlow
        split at h
        · rename_i hisLow
          obtain ⟨rfl, rfl⟩ := Prod.mk.inj (Except.ok.inj h)
          rw [require_iff.1 hslash, require_iff.1 hu] at hquad
          exact .pair hquad hpair (quad_iff.1 hlow) hisLow
        · cases h
      · rename_i hpair
        cases h
        exact .single hquad (by omega)
  · intro h
    cases h with
    | short letter => rw [hletter] at letter; cases letter
    | @single n _ _ hquad whole =>
      refine bind_eq_ok.2 ⟨_, quad_iff.2 hquad, ?_⟩
      dsimp only
      rw [if_neg (by omega), if_neg (by omega)]
    | pair first isHigh second isLow =>
      refine bind_eq_ok.2 ⟨_, quad_iff.2 first, ?_⟩
      dsimp only
      rw [if_neg (by omega), if_pos isHigh]
      refine bind_eq_ok.2 ⟨_, require_iff.2 rfl, ?_⟩
      refine bind_eq_ok.2 ⟨_, require_iff.2 rfl, ?_⟩
      refine bind_eq_ok.2 ⟨_, quad_iff.2 second, ?_⟩
      dsimp only
      rw [if_pos isLow]

theorem escape_iff {s r : List Char} {c : Char} : escape s = .ok (c, r) ↔ Escape s c r := by
  cases s with
  | nil => exact ⟨(absurd · here_ne_ok), fun h => nomatch h⟩
  | cons d s =>
    rw [escape]
    cases hletter : shortEscape? d with
    | some c' =>
      constructor
      · intro h
        cases h
        exact .short hletter
      · intro h
        cases h with
        | short letter =>
          rw [hletter] at letter
          cases letter
          rfl
        | single _ _ => cases hletter
        | pair _ _ _ _ => cases hletter
    | none =>
      dsimp only
      split
      · rename_i hu
        rw [hu]
        exact unicodeEscape_iff
      · rename_i hu
        constructor
        · intro h
          cases h
        · intro h
          cases h with
          | short letter =>
            rw [hletter] at letter
            cases letter
          | single _ _ => exact absurd rfl hu
          | pair _ _ _ _ => exact absurd rfl hu

theorem length_quad {s r : List Char} {n : Nat} (h : Quad s n r) : r.length < s.length := by
  cases h with
  | digits _ _ _ _ => simp only [List.length_cons]; omega

theorem length_escape {s r : List Char} {c : Char} (h : Escape s c r) : r.length < s.length := by
  cases h with
  | short letter => exact Nat.lt_succ_self _
  | single hquad whole => exact Nat.lt_succ_of_lt (length_quad hquad)
  | pair first isHigh second isLow =>
    have h1 := length_quad first
    have h2 := length_quad second
    simp only [List.length_cons] at h1 ⊢
    omega

theorem length_quoted {s cs r : List Char} (h : Quoted s cs r) : r.length < s.length := by
  induction h with
  | close => exact Nat.lt_succ_self _
  | plain _ _ _ _ ih => exact Nat.lt_succ_of_lt ih
  | escape esc _ ih => exact Nat.lt_succ_of_lt (Nat.lt_trans ih (length_escape esc))

theorem quoted_of_quotedWithin {steps : Nat} {s cs r : List Char}
    (h : quotedWithin steps s = .ok (cs, r)) : Quoted s cs r := by
  induction steps generalizing s cs with
  | zero => cases h
  | succ steps ih =>
    cases s with
    | nil => cases h
    | cons c s =>
      rw [quotedWithin] at h
      split at h
      · rename_i hc
        cases h
        rw [hc]
        exact .close
      · rename_i hquote
        split at h
        · rename_i hc
          obtain ⟨⟨d, t⟩, hesc, h⟩ := bind_eq_ok.1 h
          obtain ⟨⟨ds, t'⟩, hrest, h⟩ := bind_eq_ok.1 h
          cases h
          rw [hc]
          exact .escape (escape_iff.1 hesc) (ih hrest)
        · rename_i hslash
          split at h
          · cases h
          · rename_i hcontrol
            obtain ⟨⟨ds, t⟩, hrest, h⟩ := bind_eq_ok.1 h
            cases h
            exact .plain hquote hslash (Nat.le_of_not_lt hcontrol) (ih hrest)

/-- As many steps as there are characters are enough for a string. -/
theorem quotedWithin_of_quoted {s cs r : List Char} (h : Quoted s cs r) :
    ∀ {steps : Nat}, s.length < steps → quotedWithin steps s = .ok (cs, r) := by
  induction h with
  | close =>
    rintro (_ | steps) hsteps
    · exact absurd hsteps (Nat.not_lt_zero _)
    · rw [quotedWithin, if_pos rfl]
  | plain noQuote noEscape noControl rest ih =>
    rintro (_ | steps) hsteps
    · exact absurd hsteps (Nat.not_lt_zero _)
    · rw [quotedWithin, if_neg noQuote, if_neg noEscape, if_neg (Nat.not_lt_of_le noControl)]
      exact bind_eq_ok.2 ⟨_, ih (Nat.lt_of_succ_lt_succ hsteps), rfl⟩
  | escape esc rest ih =>
    rintro (_ | steps) hsteps
    · exact absurd hsteps (Nat.not_lt_zero _)
    · rw [quotedWithin, if_neg (by decide), if_pos rfl]
      refine bind_eq_ok.2 ⟨_, escape_iff.2 esc, bind_eq_ok.2 ⟨_, ih ?_, rfl⟩⟩
      exact Nat.lt_trans (length_escape esc) (Nat.lt_of_succ_lt_succ hsteps)

/-- Strings are read as the grammar says. -/
theorem quoted_iff {s r : List Char} {t : String} :
    quoted s = .ok (t, r) ↔ ∃ cs, Quoted s cs r ∧ t = String.ofList cs := by
  constructor
  · intro h
    obtain ⟨⟨cs, s'⟩, hwithin, h⟩ := bind_eq_ok.1 h
    cases h
    exact ⟨cs, quoted_of_quotedWithin hwithin, rfl⟩
  · rintro ⟨cs, hquoted, rfl⟩
    exact bind_eq_ok.2 ⟨_, quotedWithin_of_quoted hquoted (Nat.lt_succ_self _), rfl⟩

end Read
end Json
end RaceLink
