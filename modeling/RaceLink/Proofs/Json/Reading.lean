import RaceLink.Proofs.Json.Numerals

/-!
# Reading texts

A text is read just if the grammar has it, and the tree that comes out is the one it stands for.

* `Read.Reads` — a reader takes the values of a grammar, as long as what follows them is what can
  follow a value.
* `Read.Reads.items_iff`, `Read.Reads.members_iff` — arrays and objects, for any reader of what
  they hold: as many steps as there are characters are enough.
* `Read.reads_tree` — values, by induction on how many brackets may be open.
* `document_eq_ok` — whole texts; so none of them stands for two trees.
-/

set_option autoImplicit false

namespace RaceLink
namespace Json
namespace Read

open Grammar
open Refusal (here past)

/-! ## Blanks -/

/-- Before a part that begins with no blank stand its blanks and nothing else. -/
theorem blanks_iff {s t : List Char} {c : Char} (hc : isBlank c = false) :
    Blanks s (c :: t) ↔ skipBlanks s = c :: t := by
  constructor
  · intro h
    rw [skipBlanks_eq h, skipBlanks_cons hc]
  · intro h
    rw [← h]
    exact blanks_skipBlanks s

theorem length_blanks {s t : List Char} (h : Blanks s t) : t.length ≤ s.length := by
  induction h with
  | none => exact Nat.le_refl _
  | more _ _ ih => exact Nat.le_succ_of_le ih

/-! ## What follows a value -/

/-- What can follow a value: nothing, a blank, a comma or a closing bracket. -/
def Follows (r : List Char) : Prop :=
  ∀ c ∈ r.head?, isBlank c = true ∨ c = ',' ∨ c = ']' ∨ c = '\x7d'

theorem Follows.of_blanks {s r : List Char} (h : Blanks s r) (hr : Follows r) : Follows s := by
  cases h with
  | none => exact hr
  | more blank rest =>
    intro c hc
    cases hc
    exact .inl blank

/-- What can follow a value does not go on with a number. -/
theorem Follows.ends {r : List Char} (h : Follows r) :
    digitNext r = false ∧ markNext r = false ∧ r.head? ≠ some '.' := by
  cases r with
  | nil => exact ⟨rfl, rfl, nofun⟩
  | cons c r =>
    rcases h c rfl with hblank | rfl | rfl | rfl
    · simp only [isBlank, Bool.or_eq_true, beq_iff_eq] at hblank
      rcases hblank with ((rfl | rfl) | rfl) | rfl <;> exact ⟨rfl, rfl, by simp⟩
    · exact ⟨rfl, rfl, by simp⟩
    · exact ⟨rfl, rfl, by simp⟩
    · exact ⟨rfl, rfl, by simp⟩

/-! ## Between the parts -/

theorem hasItem_false {first : Bool} {s t : List Char} :
    hasItem first s = .ok (false, t) ↔ ∃ r, t = ']' :: r ∧ Blanks s (']' :: r) := by
  rw [hasItem]
  constructor
  · intro h
    split at h
    · exact absurd h here_ne_ok
    · rename_i c rest hs
      split at h
      · rename_i hc
        cases h
        exact ⟨rest, by rw [hc], (blanks_iff rfl).2 (by rw [hs, hc])⟩
      · split at h
        · cases h
        · split at h
          · split at h
            · exact absurd h here_ne_ok
            · split at h
              · exact absurd h past_ne_ok
              · cases h
          · exact absurd h past_ne_ok
  · rintro ⟨r, rfl, hs⟩
    rw [(blanks_iff rfl).1 hs]
    rfl

theorem hasItem_true {first : Bool} {s t : List Char} :
    hasItem first s = .ok (true, t) ↔
      ∃ u, Comma first s u ∧ skipBlanks u = t ∧ ∃ c r, t = c :: r ∧ c ≠ ']' := by
  rw [hasItem]
  constructor
  · intro h
    split at h
    · exact absurd h here_ne_ok
    · rename_i c rest hs
      split at h
      · cases h
      · rename_i hc
        split at h
        · rename_i hfirst
          cases h
          rw [hfirst]
          exact ⟨s, .first, hs, c, rest, rfl, hc⟩
        · rename_i hfirst
          rw [Bool.not_eq_true] at hfirst
          split at h
          · rename_i hcomma
            split at h
            · exact absurd h here_ne_ok
            · rename_i d rest' hrest
              split at h
              · exact absurd h past_ne_ok
              · rename_i hd
                cases h
                rw [hfirst]
                exact ⟨rest, .next ((blanks_iff rfl).2 (by rw [hs, hcomma])), hrest, d, rest', rfl,
                  hd⟩
          · exact absurd h past_ne_ok
  · rintro ⟨u, hcomma, hu, c, r, rfl, hc⟩
    cases hcomma with
    | first => rw [hu]; exact if_neg hc
    | next blanks =>
      rw [(blanks_iff rfl).1 blanks]
      simp only [Char.reduceEq, if_false, Bool.false_eq_true, if_true, hu, hc]

theorem hasMember_false {first : Bool} {s t : List Char} :
    hasMember first s = .ok (false, t) ↔ ∃ r, t = '\x7d' :: r ∧ Blanks s ('\x7d' :: r) := by
  rw [hasMember]
  constructor
  · intro h
    split at h
    · exact absurd h here_ne_ok
    · rename_i c rest hs
      split at h
      · rename_i hc
        cases h
        exact ⟨rest, by rw [hc], (blanks_iff rfl).2 (by rw [hs, hc])⟩
      · split at h
        · split at h
          · cases h
          · exact absurd h past_ne_ok
        · split at h
          · split at h
            · exact absurd h here_ne_ok
            · split at h
              · cases h
              · split at h
                · exact absurd h past_ne_ok
                · exact absurd h past_ne_ok
          · exact absurd h past_ne_ok
  · rintro ⟨r, rfl, hs⟩
    rw [(blanks_iff rfl).1 hs]
    rfl

theorem hasMember_true {first : Bool} {s t : List Char} :
    hasMember first s = .ok (true, t) ↔ ∃ u, Comma first s u ∧ Blanks u ('"' :: t) := by
  rw [hasMember]
  constructor
  · intro h
    split at h
    · exact absurd h here_ne_ok
    · rename_i c rest hs
      split at h
      · cases h
      · split at h
        · rename_i hfirst
          split at h
          · rename_i hquote
            cases h
            rw [hfirst]
            exact ⟨s, .first, (blanks_iff rfl).2 (by rw [hs, hquote])⟩
          · exact absurd h past_ne_ok
        · rename_i hfirst
          rw [Bool.not_eq_true] at hfirst
          split at h
          · rename_i hcomma
            split at h
            · exact absurd h here_ne_ok
            · rename_i d rest' hrest
              split at h
              · rename_i hquote
                cases h
                rw [hfirst]
                exact ⟨rest, .next ((blanks_iff rfl).2 (by rw [hs, hcomma])),
                  (blanks_iff rfl).2 (by rw [hrest, hquote])⟩
              · split at h
                · exact absurd h past_ne_ok
                · exact absurd h past_ne_ok
          · exact absurd h past_ne_ok
  · rintro ⟨u, hcomma, hu⟩
    have hquote := (blanks_iff rfl).1 hu
    cases hcomma with
    | first => rw [hquote]; rfl
    | next blanks =>
      rw [(blanks_iff rfl).1 blanks]
      simp only [Char.reduceEq, if_false, Bool.false_eq_true, if_true, hquote]

theorem colon_iff {s t : List Char} : colon s = .ok ((), t) ↔ Blanks s (':' :: t) := by
  rw [colon, blanks_iff rfl]
  cases skipBlanks s with
  | nil => simp
  | cons c rest =>
    by_cases hc : c = ':'
    · simp [hc]
    · simp [hc]

theorem finished_iff {s : List Char} : finished s = .ok () ↔ Blanks s [] := by
  rw [finished]
  constructor
  · intro h
    split at h
    · rename_i hs
      rw [← hs]
      exact blanks_skipBlanks s
    · exact absurd h past_ne_ok
  · intro h
    rw [skipBlanks_eq h]
    rfl

/-! ## Arrays and objects -/

theorem length_comma {first : Bool} {s t : List Char} (h : Comma first s t) :
    t.length ≤ s.length := by
  cases h with
  | first => exact Nat.le_refl _
  | next blanks => exact Nat.le_of_succ_le (length_blanks blanks)

theorem follows_of_comma {s t : List Char} (h : Comma false s t) : Follows s := by
  cases h with
  | next blanks => exact .of_blanks blanks fun c hc => by cases hc; exact .inr (.inl rfl)

/-- A reader takes the values of a grammar, up to what can follow a value. -/
structure Reads (item : Reader Json) (W : List Char → Json → List Char → Prop) : Prop where
  sound : ∀ {s v r}, item s = .ok (v, r) → W s v r
  complete : ∀ {s v r}, W s v r → Follows r → item s = .ok (v, r)
  /-- Blanks before a value make no difference to it. -/
  blanks : ∀ {s t v r}, Blanks s t → (W s v r ↔ W t v r)
  /-- No value begins like the end of an array. -/
  start : ∀ {s v r}, W s v r → ∃ c t, skipBlanks s = c :: t ∧ c ≠ ']'
  shorter : ∀ {s v r}, W s v r → r.length < s.length

section Brackets

variable {item : Reader Json} {W : List Char → Json → List Char → Prop} {s r : List Char}

theorem follows_of_items {vs : List Json} (h : Items W false s vs r) : Follows s := by
  cases h with
  | close blanks => exact .of_blanks blanks fun c hc => by cases hc; exact .inr (.inr (.inl rfl))
  | next comma _ _ => exact follows_of_comma comma

theorem follows_of_members {ms : List (String × Json)} (h : Members W false s ms r) :
    Follows s := by
  cases h with
  | close blanks => exact .of_blanks blanks fun c hc => by cases hc; exact .inr (.inr (.inr rfl))
  | next comma _ _ _ _ _ => exact follows_of_comma comma

theorem length_items (h : Reads item W) {first : Bool} {vs : List Json}
    (hitems : Items W first s vs r) : r.length < s.length := by
  induction hitems with
  | close blanks => exact length_blanks blanks
  | next comma item _ ih =>
    exact Nat.lt_of_lt_of_le (Nat.lt_trans ih (h.shorter item)) (length_comma comma)

theorem length_member (h : Reads item W) {first : Bool} {t u x y z cs : List Char} {v : Json}
    (comma : Comma first s t) (quote : Blanks t ('"' :: u)) (name : Quoted u cs x)
    (colon : Blanks x (':' :: y)) (value : W y v z) : z.length < s.length := by
  have hvalue := h.shorter value
  have hcolon := length_blanks colon
  have hname := length_quoted name
  have hquote := length_blanks quote
  have hcomma := length_comma comma
  simp only [List.length_cons] at hcolon hquote
  omega

theorem length_members (h : Reads item W) {first : Bool} {ms : List (String × Json)}
    (hmembers : Members W first s ms r) : r.length < s.length := by
  induction hmembers with
  | close blanks => exact length_blanks blanks
  | next comma quote name colon value _ ih =>
    exact Nat.lt_trans ih (length_member h comma quote name colon value)

theorem Reads.items_of_itemsWithin (h : Reads item W) {steps : Nat} {first : Bool}
    {vs : List Json} (hread : itemsWithin item steps first s = .ok (vs, r)) :
    Items W first s vs r := by
  induction steps generalizing first s vs with
  | zero => exact absurd hread here_ne_ok
  | succ steps ih =>
    obtain ⟨⟨more, t⟩, hmore, hread⟩ := bind_eq_ok.1 hread
    cases more with
    | false =>
      obtain ⟨u, rfl, hblanks⟩ := hasItem_false.1 hmore
      cases hread
      exact .close hblanks
    | true =>
      obtain ⟨u, hcomma, rfl, -⟩ := hasItem_true.1 hmore
      obtain ⟨⟨v, x⟩, hv, hread⟩ := bind_eq_ok.1 hread
      obtain ⟨⟨vs, y⟩, hvs, hread⟩ := bind_eq_ok.1 hread
      cases hread
      exact .next hcomma ((h.blanks (blanks_skipBlanks u)).2 (h.sound hv)) (ih hvs)

theorem Reads.itemsWithin_of_items (h : Reads item W) {first : Bool} {vs : List Json}
    (hitems : Items W first s vs r) :
    ∀ {steps : Nat}, s.length < steps → itemsWithin item steps first s = .ok (vs, r) := by
  induction hitems with
  | close blanks =>
    rintro (_ | steps) hsteps
    · exact absurd hsteps (Nat.not_lt_zero _)
    · exact bind_eq_ok.2 ⟨_, hasItem_false.2 ⟨_, rfl, blanks⟩, rfl⟩
  | @next first s t u r v vs comma value rest ih =>
    rintro (_ | steps) hsteps
    · exact absurd hsteps (Nat.not_lt_zero _)
    · have hread := h.complete ((h.blanks (blanks_skipBlanks t)).1 value) (follows_of_items rest)
      have hshort : u.length < steps :=
        Nat.lt_of_lt_of_le (Nat.lt_of_lt_of_le (h.shorter value) (length_comma comma))
          (Nat.le_of_lt_succ hsteps)
      refine bind_eq_ok.2 ⟨_, hasItem_true.2 ⟨t, comma, rfl, h.start value⟩, ?_⟩
      exact bind_eq_ok.2 ⟨_, hread, bind_eq_ok.2 ⟨_, ih hshort, rfl⟩⟩

/-- Arrays are read as the grammar says. -/
theorem Reads.items_iff (h : Reads item W) {vs : List Json} :
    items item s = .ok (vs, r) ↔ Items W true s vs r :=
  ⟨h.items_of_itemsWithin, fun hitems => h.itemsWithin_of_items hitems (Nat.lt_succ_self _)⟩

theorem Reads.members_of_membersWithin (h : Reads item W) {steps : Nat} {first : Bool}
    {ms : List (String × Json)} (hread : membersWithin item steps first s = .ok (ms, r)) :
    Members W first s ms r := by
  induction steps generalizing first s ms with
  | zero => exact absurd hread here_ne_ok
  | succ steps ih =>
    obtain ⟨⟨more, t⟩, hmore, hread⟩ := bind_eq_ok.1 hread
    cases more with
    | false =>
      obtain ⟨u, rfl, hblanks⟩ := hasMember_false.1 hmore
      cases hread
      exact .close hblanks
    | true =>
      obtain ⟨u, hcomma, hquote⟩ := hasMember_true.1 hmore
      obtain ⟨⟨name, x⟩, hname, hread⟩ := bind_eq_ok.1 hread
      obtain ⟨⟨⟨⟩, y⟩, hcolon, hread⟩ := bind_eq_ok.1 hread
      obtain ⟨⟨v, z⟩, hv, hread⟩ := bind_eq_ok.1 hread
      obtain ⟨⟨ms, w⟩, hms, hread⟩ := bind_eq_ok.1 hread
      obtain ⟨cs, hquoted, rfl⟩ := quoted_iff.1 hname
      cases hread
      exact .next hcomma hquote hquoted (colon_iff.1 hcolon) (h.sound hv) (ih hms)

theorem Reads.membersWithin_of_members (h : Reads item W) {first : Bool}
    {ms : List (String × Json)} (hmembers : Members W first s ms r) :
    ∀ {steps : Nat}, s.length < steps → membersWithin item steps first s = .ok (ms, r) := by
  induction hmembers with
  | close blanks =>
    rintro (_ | steps) hsteps
    · exact absurd hsteps (Nat.not_lt_zero _)
    · exact bind_eq_ok.2 ⟨_, hasMember_false.2 ⟨_, rfl, blanks⟩, rfl⟩
  | @next first s t u x y z cs r v ms comma quote name colon value rest ih =>
    rintro (_ | steps) hsteps
    · exact absurd hsteps (Nat.not_lt_zero _)
    · have hshort : z.length < steps :=
        Nat.lt_of_lt_of_le (length_member h comma quote name colon value) (Nat.le_of_lt_succ hsteps)
      refine bind_eq_ok.2 ⟨_, hasMember_true.2 ⟨t, comma, quote⟩, ?_⟩
      refine bind_eq_ok.2 ⟨_, quoted_iff.2 ⟨cs, name, rfl⟩, ?_⟩
      refine bind_eq_ok.2 ⟨_, colon_iff.2 colon, ?_⟩
      refine bind_eq_ok.2 ⟨_, h.complete value (follows_of_members rest), ?_⟩
      exact bind_eq_ok.2 ⟨_, ih hshort, rfl⟩

/-- Objects are read as the grammar says. -/
theorem Reads.members_iff (h : Reads item W) {ms : List (String × Json)} :
    members item s = .ok (ms, r) ↔ Members W true s ms r :=
  ⟨h.members_of_membersWithin, fun hmembers =>
    h.membersWithin_of_members hmembers (Nat.lt_succ_self _)⟩

end Brackets

/-! ## Values -/

theorem isBlank_of_isDigit {c : Char} (hc : isDigit c = true) : isBlank c = false := by
  rw [Bool.eq_false_iff]
  intro hblank
  simp only [isBlank, Bool.or_eq_true, beq_iff_eq] at hblank
  rcases hblank with ((rfl | rfl) | rfl) | rfl <;> cases hc

theorem numeric_start {s r : List Char} {n : Number} (h : Numeric s n r) :
    ∃ c t, s = c :: t ∧ (c = '-' ∨ isDigit c = true) ∧ r.length ≤ t.length := by
  obtain ⟨m, hm, -, rfl⟩ := h
  obtain ⟨c, ds, hwhole⟩ := List.exists_cons_of_ne_nil hm.whole.1
  have hc : isDigit c = true := hm.whole.2 c (by rw [hwhole]; exact List.mem_cons_self)
  rw [Numeral.chars, Numeral.unsigned, hwhole]
  split
  · exact ⟨'-', _, rfl, .inl rfl, by simp; omega⟩
  · exact ⟨c, _, rfl, .inr hc, by simp; omega⟩

/-- A value without brackets begins with neither a blank nor the end of an array. -/
theorem scalar_start {s r : List Char} {v : Json} (h : Scalar s v r) :
    ∃ c t, s = c :: t ∧ isBlank c = false ∧ c ≠ ']' ∧ r.length ≤ t.length := by
  cases h with
  | null => exact ⟨_, _, rfl, rfl, by decide, by simp; omega⟩
  | yes => exact ⟨_, _, rfl, rfl, by decide, by simp; omega⟩
  | no => exact ⟨_, _, rfl, rfl, by decide, by simp; omega⟩
  | number number =>
    obtain ⟨c, t, rfl, hc, hlength⟩ := numeric_start number
    refine ⟨c, t, rfl, ?_, ?_, hlength⟩
    · rcases hc with rfl | hc
      · rfl
      · exact isBlank_of_isDigit hc
    · rintro rfl
      rcases hc with hc | hc <;> cases hc
  | text quoted => exact ⟨_, _, rfl, rfl, by decide, Nat.le_of_lt (length_quoted quoted)⟩

section Scalars

variable {bracketed : Char → Reader Json} {s r : List Char} {v : Json}

theorem of_scalarOr (h : scalarOr bracketed s = .ok (v, r)) :
    Scalar (skipBlanks s) v r ∨
      ∃ c t, (c = '[' ∨ c = '\x7b') ∧ skipBlanks s = c :: t ∧
        bracketed c (c :: t) = .ok (v, r) := by
  unfold scalarOr at h
  split at h
  · exact absurd h here_ne_ok
  · rename_i t hs
    obtain ⟨⟨⟨⟩, u⟩, hword, h⟩ := bind_eq_ok.1 h
    cases h
    rw [hs, word_iff.1 hword]
    exact .inl .null
  · rename_i t hs
    obtain ⟨⟨⟨⟩, u⟩, hword, h⟩ := bind_eq_ok.1 h
    cases h
    rw [hs, word_iff.1 hword]
    exact .inl .yes
  · rename_i t hs
    obtain ⟨⟨⟨⟩, u⟩, hword, h⟩ := bind_eq_ok.1 h
    cases h
    rw [hs, word_iff.1 hword]
    exact .inl .no
  · rename_i t hs
    obtain ⟨⟨n, u⟩, hnumber, h⟩ := bind_eq_ok.1 h
    cases h
    rw [hs]
    exact .inl (.number (numeric_of_minus hnumber))
  · rename_i t hs
    obtain ⟨⟨text, u⟩, hquoted, h⟩ := bind_eq_ok.1 h
    obtain ⟨cs, hcs, rfl⟩ := quoted_iff.1 hquoted
    cases h
    rw [hs]
    exact .inl (.text hcs)
  · rename_i c t _ _ _ _ _ hs
    split at h
    · obtain ⟨⟨n, u⟩, hnumber, h⟩ := bind_eq_ok.1 h
      cases h
      rw [hs]
      exact .inl (.number (numeric_of_plus hnumber))
    · split at h
      · rename_i hc
        exact .inr ⟨c, t, hc, hs, h⟩
      · exact absurd h past_ne_ok

theorem scalarOr_bracket {c : Char} {t : List Char} (hc : c = '[' ∨ c = '\x7b')
    (hs : skipBlanks s = c :: t) : scalarOr bracketed s = bracketed c (c :: t) := by
  unfold scalarOr
  rw [hs]
  rcases hc with rfl | rfl <;> rfl

theorem scalarOr_digit {c : Char} {t : List Char} (hc : isDigit c = true)
    (hs : skipBlanks s = c :: t) {n : Number} (h : number true (c :: t) = .ok (n, r)) :
    scalarOr bracketed s = .ok (.number n, r) := by
  unfold scalarOr
  rw [hs]
  split
  · rename_i hnil
    cases hnil
  all_goals
    rename_i hcons
    cases hcons
  any_goals cases hc
  rw [if_pos hc]
  exact bind_eq_ok.2 ⟨_, h, rfl⟩

/-- A value without brackets is read, if what follows it does not go on with it. -/
theorem scalarOr_of_scalar (h : Scalar (skipBlanks s) v r) (hr : Follows r) :
    scalarOr bracketed s = .ok (v, r) := by
  generalize hs : skipBlanks s = t at h
  cases h with
  | null =>
    unfold scalarOr
    rw [hs]
    exact bind_eq_ok.2 ⟨_, word_iff.2 rfl, rfl⟩
  | yes =>
    unfold scalarOr
    rw [hs]
    exact bind_eq_ok.2 ⟨_, word_iff.2 rfl, rfl⟩
  | no =>
    unfold scalarOr
    rw [hs]
    exact bind_eq_ok.2 ⟨_, word_iff.2 rfl, rfl⟩
  | text quoted =>
    unfold scalarOr
    rw [hs]
    exact bind_eq_ok.2 ⟨_, quoted_iff.2 ⟨_, quoted, rfl⟩, rfl⟩
  | number number =>
    obtain ⟨hdigit, hmark, hpoint⟩ := hr.ends
    rcases number_of_numeric number hdigit hmark hpoint with ⟨u, rfl, hread⟩ | ⟨hnext, hread⟩
    · unfold scalarOr
      rw [hs]
      exact bind_eq_ok.2 ⟨_, hread, rfl⟩
    · cases t with
      | nil => cases hnext
      | cons c t => exact scalarOr_digit hnext hs hread

end Scalars

/-- Whether a reader takes what the grammar has may be told without the blanks at the front. -/
theorem reads_of_core {item : Reader Json} {C : List Char → Json → List Char → Prop}
    (start : ∀ {s v r}, C s v r →
      ∃ c t, s = c :: t ∧ isBlank c = false ∧ c ≠ ']' ∧ r.length ≤ t.length)
    (sound : ∀ {s v r}, item s = .ok (v, r) → C (skipBlanks s) v r)
    (complete : ∀ {s v r}, C (skipBlanks s) v r → Follows r → item s = .ok (v, r)) :
    Reads item fun s v r => ∃ t, Blanks s t ∧ C t v r := by
  have hcore : ∀ {s v r}, (∃ t, Blanks s t ∧ C t v r) ↔ C (skipBlanks s) v r := by
    intro s v r
    constructor
    · rintro ⟨t, hblanks, ht⟩
      obtain ⟨c, u, rfl, hc, -⟩ := start ht
      rwa [(blanks_iff hc).1 hblanks]
    · intro h
      exact ⟨_, blanks_skipBlanks s, h⟩
  constructor
  case sound => exact fun h => hcore.2 (sound h)
  case complete => exact fun h hr => complete (hcore.1 h) hr
  case blanks =>
    intro s t v r hst
    rw [hcore, hcore, skipBlanks_eq hst]
  case start =>
    intro s v r h
    obtain ⟨c, t, hs, -, hc, -⟩ := start (hcore.1 h)
    exact ⟨c, t, hs, hc⟩
  case shorter =>
    rintro s v r ⟨t, hblanks, ht⟩
    obtain ⟨c, u, rfl, -, -, hlength⟩ := start ht
    exact Nat.lt_of_lt_of_le (Nat.lt_succ_of_le hlength) (length_blanks hblanks)

/-- Values are read as the grammar says, with any limit to the brackets that are open. -/
theorem reads_tree (depth : Nat) : Reads (tree depth) (Value depth) := by
  induction depth with
  | zero =>
    refine reads_of_core scalar_start ?_ scalarOr_of_scalar
    intro s v r h
    rcases of_scalarOr h with hscalar | ⟨c, t, -, -, hdeep⟩
    · exact hscalar
    · exact absurd hdeep past_ne_ok
  | succ depth ih =>
    refine reads_of_core ?_ ?_ ?_
    · intro s v r h
      cases h with
      | scalar scalar => exact scalar_start scalar
      | array items =>
        exact ⟨_, _, rfl, rfl, by decide, Nat.le_of_lt (length_items ih items)⟩
      | object members =>
        exact ⟨_, _, rfl, rfl, by decide, Nat.le_of_lt (length_members ih members)⟩
    · intro s v r h
      rcases of_scalarOr h with hscalar | ⟨c, t, hc, hs, hread⟩
      · exact .scalar hscalar
      · rw [hs]
        rcases hc with rfl | rfl
        · obtain ⟨⟨vs, u⟩, hitems, hread⟩ := bind_eq_ok.1 hread
          cases hread
          exact .array (ih.items_iff.1 hitems)
        · obtain ⟨⟨ms, u⟩, hmembers, hread⟩ := bind_eq_ok.1 hread
          cases hread
          exact .object (ih.members_iff.1 hmembers)
    · intro s v r h hr
      generalize hs : skipBlanks s = t at h
      cases h with
      | scalar scalar =>
        rw [← hs] at scalar
        exact scalarOr_of_scalar scalar hr
      | array items =>
        exact (scalarOr_bracket (.inl rfl) hs).trans
          (bind_eq_ok.2 ⟨_, ih.items_iff.2 items, rfl⟩)
      | object members =>
        exact (scalarOr_bracket (.inr rfl) hs).trans
          (bind_eq_ok.2 ⟨_, ih.members_iff.2 members, rfl⟩)

end Read

/-- Whole texts are read as the grammar says. -/
theorem document_eq_ok {text : List Char} {v : Json} :
    document text = .ok v ↔ Grammar.Document text v := by
  have hreads := Read.reads_tree Read.deepest
  constructor
  · intro h
    obtain ⟨⟨w, r⟩, hread, h⟩ := Read.bind_eq_ok.1 h
    obtain ⟨⟨⟩, hfinished, h⟩ := Read.bind_eq_ok.1 h
    cases h
    exact ⟨r, hreads.sound hread, Read.finished_iff.1 hfinished⟩
  · rintro ⟨r, hvalue, hblanks⟩
    have hread := hreads.complete hvalue (.of_blanks hblanks nofun)
    exact Read.bind_eq_ok.2 ⟨_, hread, Read.bind_eq_ok.2 ⟨_, Read.finished_iff.2 hblanks, rfl⟩⟩

/-- No text stands for two trees. -/
theorem Grammar.Document.unique {text : List Char} {v w : Json} (hv : Document text v)
    (hw : Document text w) : v = w :=
  Except.ok.inj ((document_eq_ok.2 hv).symm.trans (document_eq_ok.2 hw))

end Json
end RaceLink
