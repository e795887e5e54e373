import RaceLink.Json.Choice
import RaceLink.Json.Printer
import RaceLink.Proofs.Json.Reading

/-!
# What is written is read back

The text of a tree is in the grammar, and the readers take from it what was put into it: whole
trees, and records field by field.

* `Plain`, `document_render` — trees without reals: the tree of such a text is the one that was
  written.
* `Read.Takes` — a reader takes a value off the front of what follows.
* `Read.takes_kind` — the values of fields.
* `Fills`, `Read.takes_record` — a record, from members that fill its fields one after the other.
* `Read.takes_bare`, `Read.takes_payload` — choices.
* `RoundTrips` — the values of a type, from the texts that are written for them.
-/

set_option autoImplicit false

namespace RaceLink
namespace Json

open Grammar
open Record (Kind Slot Layout Word)
open Read (Start Follows isDigit hexValue? shortEscape? wordLimit number_plain numeric_natural_iff)

/-! ## Numbers -/

/-- Only zero begins with a zero. -/
theorem head?_toDigits {n : Nat} (hn : 0 < n) : (Nat.toDigits 10 n).head? ≠ some '0' := by
  induction n using Nat.strongRecOn with
  | ind n ih =>
    by_cases hlt : n < 10
    · have hdigit : ∀ k < 10, 0 < k → Nat.digitChar k ≠ '0' := by decide
      rw [Nat.toDigits_of_lt_base hlt, List.head?_cons]
      exact fun hzero => hdigit n hlt hn (Option.some_inj.1 hzero)
    · have hge : 10 ≤ n := Nat.not_lt.1 hlt
      have hpos : 0 < n / 10 := Nat.div_pos hge (by decide)
      rw [Nat.toDigits_of_base_le (by decide) hge, List.head?_append]
      cases hhead : (Nat.toDigits 10 (n / 10)).head? with
      | none => exact absurd (List.head?_eq_none_iff.1 hhead) Nat.toDigits_ne_nil
      | some c =>
        rw [Option.some_or, ← hhead]
        exact ih (n / 10) (Nat.div_lt_self hn (by decide)) hpos

theorem start_decimalDigits (n : Nat) : Start (decimalDigits n) where
  digits := by
    refine ⟨Nat.toDigits_ne_nil, fun c hc => ?_⟩
    have hdigit := Nat.isDigit_of_mem_toDigits (by decide) (by decide) hc
    rw [Char.isDigit, Bool.and_eq_true, decide_eq_true_eq, decide_eq_true_eq] at hdigit
    rw [isDigit, Bool.and_eq_true, decide_eq_true_eq, decide_eq_true_eq]
    exact hdigit
  zero := fun hzero => by
    rcases Nat.eq_zero_or_pos n with rfl | hpos
    · rfl
    · exact absurd hzero (head?_toDigits hpos)

theorem numeric_natural {n : Nat} (hn : n < wordLimit) (r : List Char) :
    Numeric (decimalDigits n ++ r) (.natural n) r :=
  numeric_natural_iff.2 ⟨hn, _, start_decimalDigits n, Nat.ofDigitChars_ten_toDigits, rfl⟩

theorem numeric_negative {n : Nat} (hpos : 0 < n) (hle : n ≤ Nat.pow 2 63) (r : List Char) :
    Numeric ('-' :: decimalDigits n ++ r) (.negative n) r := by
  have hstart := start_decimalDigits n
  have hvalue : decimal (decimalDigits n) = n := Nat.ofDigitChars_ten_toDigits
  refine ⟨⟨true, decimalDigits n, [], none⟩, ⟨hstart.digits, hstart.zero, by simp, by simp⟩, ?_, ?_⟩
  · simp [Numeral.number?, Numeral.integer?, hvalue, hpos, hle]
  · simp [Numeral.chars, Numeral.unsigned, Numeral.pointed]

/-! ## Strings -/

/-- A control character is written with its number. -/
theorem escape_control {c : Char} (hc : c.toNat < 0x20) (r : List Char) :
    Escape ('u' :: '0' :: '0' :: hexDigit (c.toNat / 16) :: hexDigit (c.toNat % 16) :: r) c r := by
  have hhex : ∀ k < 16, hexValue? (hexDigit k) = some k := by decide
  have hquad : Quad ('0' :: '0' :: hexDigit (c.toNat / 16) :: hexDigit (c.toNat % 16) :: r)
      (((0 * 16 + 0) * 16 + c.toNat / 16) * 16 + c.toNat % 16) r :=
    .digits rfl rfl (hhex _ (by omega)) (hhex _ (by omega))
  have hnumber : ((0 * 16 + 0) * 16 + c.toNat / 16) * 16 + c.toNat % 16 = c.toNat := by omega
  rw [hnumber] at hquad
  have hescape := Escape.single hquad (by omega)
  rwa [Char.ofNat_toNat] at hescape

/-- A character comes back from what is written for it. -/
theorem quoted_escaped {s cs r : List Char} (h : Quoted s cs r) (c : Char) :
    Quoted (escaped c ++ s) (c :: cs) r := by
  have hshort : ∀ d, shortEscape? d = some c → Quoted ('\\' :: d :: s) (c :: cs) r :=
    fun _ hd => .escape (.short hd) h
  by_cases hquote : c = '"'
  · rw [escaped, if_pos hquote]
    exact hshort '"' (congrArg some hquote.symm)
  by_cases hslash : c = '\\'
  · rw [escaped, if_neg hquote, if_pos hslash]
    exact hshort '\\' (congrArg some hslash.symm)
  rw [escaped, if_neg hquote, if_neg hslash]
  split
  · exact hshort 'b' (congrArg some ‹c = _›.symm)
  split
  · exact hshort 't' (congrArg some ‹c = _›.symm)
  split
  · exact hshort 'n' (congrArg some ‹c = _›.symm)
  split
  · exact hshort 'f' (congrArg some ‹c = _›.symm)
  split
  · exact hshort 'r' (congrArg some ‹c = _›.symm)
  split
  · rename_i hcontrol
    exact .escape (escape_control hcontrol s) h
  · rename_i hcontrol
    exact .plain hquote hslash (Nat.not_lt.1 hcontrol) h

/-- A string comes back from what is written between its quotes. -/
theorem quoted_flatMap (cs r : List Char) : Quoted (cs.flatMap escaped ++ '"' :: r) cs r := by
  induction cs with
  | nil => exact .close
  | cons c cs ih =>
    rw [List.flatMap_cons, List.append_assoc]
    exact quoted_escaped ih c

/-! ## Trees -/

/-- A tree without reals whose numbers fit, with at most so many brackets open at once. -/
inductive Plain : Nat → Json → Prop
  | null {depth : Nat} : Plain depth .null
  | flag {depth : Nat} (b : Bool) : Plain depth (.flag b)
  | natural {depth n : Nat} (fits : n < wordLimit) : Plain depth (.number (.natural n))
  | negative {depth n : Nat} (pos : 0 < n) (fits : n ≤ Nat.pow 2 63) :
      Plain depth (.number (.negative n))
  | text {depth : Nat} (s : String) : Plain depth (.text s)
  | array {depth : Nat} {vs : List Json} (items : ∀ v ∈ vs, Plain depth v) :
      Plain (depth + 1) (.array vs)
  | object {depth : Nat} {ms : List (String × Json)} (members : ∀ m ∈ ms, Plain depth m.2) :
      Plain (depth + 1) (.object ms)

/-! ### Commas -/

/-- The comma that is written before every item and member but the first. -/
def comma (first : Bool) : List Char := if first then [] else [',']

/-- What is written for items, with a comma before them unless they are the first ones. -/
def itemsFrom : Bool → List Json → List Char
  | _, [] => [']']
  | first, v :: vs => comma first ++ (chars v ++ itemsFrom false vs)

/-- What is written for members, with a comma before them unless they are the first ones. -/
def membersFrom : Bool → List (String × Json) → List Char
  | _, [] => ['\x7d']
  | first, (n, v) :: ms =>
    comma first ++ (quotedChars n ++ ':' :: (chars v ++ membersFrom false ms))

theorem itemChars_eq (vs : List Json) : itemChars vs = itemsFrom true vs := by
  induction vs with
  | nil => rw [itemChars, itemsFrom]
  | cons v vs ih =>
    cases vs with
    | nil => rw [itemChars, itemsFrom, itemsFrom, comma, if_pos rfl, List.nil_append]
    | cons w ws =>
      rw [itemChars, ih, itemsFrom, comma, if_pos rfl, List.nil_append]
      · rfl
      · exact nofun

theorem memberChars_eq (ms : List (String × Json)) : memberChars ms = membersFrom true ms := by
  induction ms with
  | nil => rw [memberChars, membersFrom]
  | cons m ms ih =>
    obtain ⟨n, v⟩ := m
    cases ms with
    | nil =>
      rw [memberChars, membersFrom, membersFrom, comma, if_pos rfl, List.nil_append,
        List.append_assoc, List.cons_append]
    | cons w ws =>
      rw [memberChars, ih, membersFrom, comma, if_pos rfl, List.nil_append, List.append_assoc,
        List.cons_append]
      · rfl
      · exact nofun

theorem comma_append (first : Bool) (s : List Char) : Comma first (comma first ++ s) s := by
  cases first with
  | true => exact .first
  | false => exact .next .none

theorem follows_itemsFrom (vs : List Json) (r : List Char) : Follows (itemsFrom false vs ++ r) := by
  cases vs with
  | nil => exact fun c hc => by cases hc; exact .inr (.inr (.inl rfl))
  | cons v vs => exact fun c hc => by cases hc; exact .inr (.inl rfl)

theorem follows_membersFrom (ms : List (String × Json)) (r : List Char) :
    Follows (membersFrom false ms ++ r) := by
  cases ms with
  | nil => exact fun c hc => by cases hc; exact .inr (.inr (.inr rfl))
  | cons m ms => exact fun c hc => by cases hc; exact .inr (.inl rfl)

/-- Where a member begins: its comma, its name and its colon, and then its value. -/
theorem membersFrom_cons (first : Bool) (n : String) (v : Json) (ms : List (String × Json))
    (r : List Char) : membersFrom first ((n, v) :: ms) ++ r =
      comma first ++ '"' :: (n.toList.flatMap escaped ++ '"' :: ':' ::
        (chars v ++ (membersFrom false ms ++ r))) := by
  rw [membersFrom, quotedChars]
  simp only [List.append_assoc, List.cons_append, List.nil_append]

/-! ### Trees are in the grammar -/

section Brackets

variable {W : List Char → Json → List Char → Prop}

theorem items_itemsFrom {vs : List Json} (h : ∀ v ∈ vs, ∀ r, Follows r → W (chars v ++ r) v r)
    (first : Bool) (r : List Char) : Items W first (itemsFrom first vs ++ r) vs r := by
  induction vs generalizing first with
  | nil => exact .close .none
  | cons v vs ih =>
    rw [itemsFrom, List.append_assoc, List.append_assoc]
    exact .next (comma_append first _) (h v List.mem_cons_self _ (follows_itemsFrom vs r))
      (ih (fun u hu => h u (List.mem_cons_of_mem v hu)) false)

theorem members_membersFrom {ms : List (String × Json)}
    (h : ∀ m ∈ ms, ∀ r, Follows r → W (chars m.2 ++ r) m.2 r) (first : Bool) (r : List Char) :
    Members W first (membersFrom first ms ++ r) ms r := by
  induction ms generalizing first with
  | nil => exact .close .none
  | cons m ms ih =>
    obtain ⟨n, v⟩ := m
    have hrest := ih (fun m hm => h m (List.mem_cons_of_mem _ hm)) false
    have hvalue := h (n, v) List.mem_cons_self _ (follows_membersFrom ms r)
    have hmember := Members.next (comma_append first _) .none (quoted_flatMap n.toList _) .none
      hvalue hrest
    rw [String.ofList_toList] at hmember
    rw [membersFrom_cons]
    exact hmember

end Brackets

/-- What is written for a tree without brackets is a scalar. -/
theorem value_scalar {depth : Nat} {s r : List Char} {v : Json} (h : Scalar s v r) :
    Value depth s v r := by
  cases depth with
  | zero => exact ⟨s, .none, h⟩
  | succ depth => exact ⟨s, .none, .scalar h⟩

/-- What is written for a tree is one of its texts. -/
theorem value_chars {depth : Nat} {v : Json} (h : Plain depth v) :
    ∀ r, Follows r → Value depth (chars v ++ r) v r := by
  induction h with
  | null => exact fun r _ => value_scalar (by rw [chars]; exact .null)
  | flag b =>
    intro r _
    cases b with
    | true => exact value_scalar (by rw [chars]; exact .yes)
    | false => exact value_scalar (by rw [chars]; exact .no)
  | natural fits =>
    intro r _
    rw [chars, numberChars]
    exact value_scalar (.number (numeric_natural fits r))
  | negative pos fits =>
    intro r _
    rw [chars, numberChars]
    exact value_scalar (.number (numeric_negative pos fits r))
  | text s =>
    intro r _
    have hquoted := Scalar.text (quoted_flatMap s.toList r)
    rw [String.ofList_toList] at hquoted
    rw [chars, quotedChars, List.cons_append, List.append_assoc]
    exact value_scalar hquoted
  | array items ih =>
    intro r _
    rw [chars, itemChars_eq]
    exact ⟨_, .none, .array (items_itemsFrom ih true r)⟩
  | object members ih =>
    intro r _
    rw [chars, memberChars_eq]
    exact ⟨_, .none, .object (members_membersFrom ih true r)⟩

/-- **A tree is read back from its text.** -/
theorem document_render {v : Json} (h : Plain Read.deepest v) :
    document v.render.toList = .ok v := by
  rw [document_eq_ok, render, String.toList_ofList]
  have hvalue := value_chars h [] nofun
  rw [List.append_nil] at hvalue
  exact ⟨[], hvalue, .none⟩

/-- A quote, a backslash, a line feed and a bell are escaped, each in its own way. -/
example : (text "\"\\\n\x07").render = "\"\\\"\\\\\\n\\u0007\"" := rfl

/-! ## Readers -/

namespace Read

/-- A reader takes what was written for a value, whatever may follow it. -/
def Takes {α : Type} (reader : Reader α) (written : List Char) (a : α) : Prop :=
  ∀ r, Follows r → reader (written ++ r) = .ok (a, r)

theorem takes_tree {depth : Nat} {v : Json} (h : Plain depth v) :
    Takes (tree depth) (chars v) v :=
  fun r hr => (reads_tree depth).complete (value_chars h r hr) hr

/-- A whole text holds one value and nothing else. -/
theorem whole_of_takes {α : Type} {reader : Reader α} {v : Json} {a : α}
    (h : Takes reader (chars v) a) : whole reader v.render.toList = .ok a := by
  have hread := h [] nofun
  rw [List.append_nil] at hread
  rw [render, String.toList_ofList]
  exact bind_eq_ok.2 ⟨_, hread, rfl⟩

/-- A string is read back. -/
theorem quoted_chars (s : String) (r : List Char) :
    quoted (s.toList.flatMap escaped ++ '"' :: r) = .ok (s, r) :=
  quoted_iff.2 ⟨_, quoted_flatMap s.toList r, String.ofList_toList.symm⟩

/-! ### Values of fields -/

/-- A digit begins neither a word nor a string. -/
theorem wholeWord_digit {w : Word} {c : Char} {t : List Char} (hc : isDigit c = true) :
    wholeWord w (c :: t) = (do
      let (n, s) ← number true (c :: t)
      checked (wordOf w n) s) := by
  unfold wholeWord
  rw [skipBlanks_cons (isBlank_of_isDigit hc)]
  split
  · rename_i hcons
    cases hcons
    cases hc
  · rename_i hcons
    cases hcons
    rw [if_pos hc]
  · rename_i hnil
    cases hnil

theorem takes_wholeWord {w : Word} {n : Nat} (hfits : w.fits n = true) (hn : n < wordLimit) :
    Takes (wholeWord w) (decimalDigits n) n := by
  intro r hr
  obtain ⟨hdigit, hmark, hpoint⟩ := hr.ends
  have hstart := start_decimalDigits n
  have hvalue : decimal (decimalDigits n) = n := Nat.ofDigitChars_ten_toDigits
  have hread : number true (decimalDigits n ++ r) = _ := number_plain hstart hdigit hmark hpoint
  rw [hvalue, if_pos hn] at hread
  obtain ⟨c, ds, hds⟩ := List.exists_cons_of_ne_nil hstart.digits.1
  have hc : isDigit c = true := hstart.digits.2 c (hds ▸ List.mem_cons_self)
  rw [hds, List.cons_append] at hread ⊢
  rw [wholeWord_digit hc]
  refine bind_eq_ok.2 ⟨_, hread, ?_⟩
  show checked (if w.fits n then _ else _) r = _
  rw [if_pos hfits]
  rfl

theorem takes_boolean (b : Bool) : Takes boolean (chars (.flag b)) b := by
  intro r _
  cases b with
  | true =>
    rw [chars]
    exact bind_eq_ok.2 ⟨_, word_iff.2 rfl, rfl⟩
  | false =>
    rw [chars]
    exact bind_eq_ok.2 ⟨_, word_iff.2 rfl, rfl⟩

theorem takes_string (expected s : String) : Takes (string expected) (quotedChars s) s := by
  intro r _
  rw [quotedChars, List.cons_append, List.append_assoc]
  exact quoted_chars s r

end Read

/-- The tree that is written for the value of a field. -/
def kindTree : (k : Kind) → k.Value → Json
  | .word _, n => .number (.natural n)
  | .flag, b => .flag b
  | .text, s => .text s
  | .optionalWord _, none => .null
  | .optionalWord _, some n => .number (.natural n)

/-- Whether a value is one that a field of its kind can have. -/
def KindFits : (k : Kind) → k.Value → Prop
  | .word w, n => w.fits n = true ∧ n < wordLimit
  | .flag, _ => True
  | .text, _ => True
  | .optionalWord w, o => ∀ n ∈ o, w.fits n = true ∧ n < wordLimit

namespace Read

theorem takes_kind {k : Kind} {x : k.Value} (h : KindFits k x) :
    Takes (kind k) (chars (kindTree k x)) x := by
  cases k with
  | word w =>
    show Takes (wholeWord w) (chars (.number (.natural x))) x
    rw [chars, numberChars]
    exact takes_wholeWord h.1 h.2
  | flag => exact takes_boolean x
  | text =>
    show Takes (string _) (chars (.text x)) x
    rw [chars]
    exact takes_string _ x
  | optionalWord w =>
    intro r hr
    cases x with
    | none =>
      show kind (.optionalWord w) (chars .null ++ r) = _
      rw [chars]
      exact bind_eq_ok.2 ⟨_, word_iff.2 rfl, rfl⟩
    | some n =>
      obtain ⟨hfits, hn⟩ := h n rfl
      have hread := takes_wholeWord hfits hn r hr
      show kind (.optionalWord w) (chars (.number (.natural n)) ++ r) = _
      rw [chars, numberChars]
      obtain ⟨c, ds, hds⟩ := List.exists_cons_of_ne_nil (start_decimalDigits n).digits.1
      have hc : isDigit c = true := (start_decimalDigits n).digits.2 c (hds ▸ List.mem_cons_self)
      rw [hds, List.cons_append] at hread ⊢
      simp only [kind]
      rw [skipBlanks_cons (isBlank_of_isDigit hc)]
      split
      · rename_i hcons
        cases hcons
        cases hc
      · exact bind_eq_ok.2 ⟨_, hread, rfl⟩

end Read

/-! ### Records -/

section Records

variable {σ α : Type} {l : Layout σ α}

/-- Members that fill fields of a draft one after the other. -/
inductive Fills (l : Layout σ α) : σ → List (String × Json) → σ → Prop
  | none {d : σ} : Fills l d [] d
  | next {d d' : σ} {ms : List (String × Json)} {name : String} {f : Slot σ} {x : f.kind.Value}
      (field : l.field? name = some f) (empty : f.filled d = false) (fits : KindFits f.kind x)
      (rest : Fills l (f.put d x) ms d') : Fills l d ((name, kindTree f.kind x) :: ms) d'

namespace Read

theorem hasMember_membersFrom (first : Bool) (s : List Char) :
    hasMember first (comma first ++ '"' :: s) = .ok (true, s) :=
  hasMember_true.2 ⟨_, comma_append first _, .none⟩

/-- As many steps as there are members are enough to read them. -/
theorem fieldsWithin_of_fills {d d' : σ} {ms : List (String × Json)} (h : Fills l d ms d')
    (first : Bool) {steps : Nat} (hsteps : ms.length < steps) (r : List Char) :
    fieldsWithin l steps first d (membersFrom first ms ++ r) = .ok (d', '\x7d' :: r) := by
  induction h generalizing first steps with
  | none =>
    obtain ⟨steps, rfl⟩ := Nat.exists_eq_succ_of_ne_zero (Nat.ne_of_gt hsteps)
    rw [fieldsWithin, membersFrom]
    exact bind_eq_ok.2 ⟨_, hasMember_false.2 ⟨r, rfl, .none⟩, rfl⟩
  | @next d d' ms name f x field empty fits rest ih =>
    obtain ⟨steps, rfl⟩ := Nat.exists_eq_succ_of_ne_zero (Nat.ne_of_gt (Nat.zero_lt_of_lt hsteps))
    rw [fieldsWithin, membersFrom_cons]
    refine bind_eq_ok.2 ⟨_, hasMember_membersFrom first _, ?_⟩
    refine bind_eq_ok.2 ⟨_, quoted_chars name _, ?_⟩
    dsimp only
    rw [field]
    dsimp only
    rw [if_neg (by simp [empty])]
    refine bind_eq_ok.2 ⟨_, colon_iff.2 .none, ?_⟩
    refine bind_eq_ok.2 ⟨_, takes_kind fits _ (follows_membersFrom ms r), ?_⟩
    exact ih false (Nat.lt_of_succ_lt_succ hsteps)

theorem length_membersFrom (first : Bool) (ms : List (String × Json)) :
    ms.length < (membersFrom first ms).length := by
  induction ms generalizing first with
  | nil => exact Nat.zero_lt_one
  | cons m ms ih =>
    have hrest := ih false
    simp only [membersFrom, List.length_append, List.length_cons]
    omega

/-- A record is read from members that fill its fields. -/
theorem takes_record {d : σ} {ms : List (String × Json)} {a : α} (h : Fills l l.blank ms d)
    (hfinish : l.finish d = .ok a) : Takes (record l) (chars (.object ms)) a := by
  intro r _
  rw [chars, memberChars_eq, List.cons_append]
  have hlength := length_membersFrom true ms
  have hsteps : ms.length < (membersFrom true ms ++ r).length + 1 := by
    rw [List.length_append]
    omega
  refine bind_eq_ok.2 ⟨_, fieldsWithin_of_fills h true hsteps r, ?_⟩
  show checked (l.finish d) r = _
  rw [hfinish]
  rfl

end Read

theorem kindOf_kindTree {k : Kind} {x : k.Value} (h : KindFits k x) :
    kindOf k (kindTree k x) = .ok x := by
  cases k with
  | word w => exact if_pos h.1
  | flag => rfl
  | text => rfl
  | optionalWord w =>
    cases x with
    | none => rfl
    | some n =>
      have hword : wordOf w (.natural n) = .ok n := if_pos (h n rfl).1
      show (wordOf w (.natural n)).map some = _
      rw [hword]
      rfl

/-- Read from a tree, the same members fill the same fields. -/
theorem foldlM_of_fills {d d' : σ} {ms : List (String × Json)} (h : Fills l d ms d') :
    ms.foldlM (takeMember l) d = .ok d' := by
  induction h with
  | none => rfl
  | @next d d' ms name f x field empty fits rest ih =>
    have htake : takeMember l d (name, kindTree f.kind x) = .ok (f.put d x) := by
      rw [takeMember]
      dsimp only
      rw [field]
      dsimp only
      rw [if_neg (by simp [empty]), kindOf_kindTree fits]
      rfl
    rw [List.foldlM_cons, htake]
    exact ih

theorem ofMembers_of_fills {d : σ} {ms : List (String × Json)} {a : α} (h : Fills l l.blank ms d)
    (hfinish : l.finish d = .ok a) : ofMembers l ms = .ok a := by
  rw [ofMembers, foldlM_of_fills h]
  exact hfinish

end Records

/-! ### Choices -/

namespace Read

section Choices

variable {α : Type} {known : List String} {bare : String → Except Refusal α}
  {payload : String → Reader α} {name : String} {a : α}

theorem variant_chars (hname : known.contains name = true) (r : List Char) :
    variant known (quotedChars name ++ r) = .ok (name, r) := by
  rw [quotedChars, List.cons_append, List.append_assoc]
  refine bind_eq_ok.2 ⟨_, quoted_chars name r, ?_⟩
  show checked (knownVariant known name) r = _
  rw [knownVariant, if_pos hname]
  rfl

/-- An alternative without a payload is read from its name. -/
theorem takes_bare (hname : known.contains name = true) (hbare : bare name = .ok a) :
    Takes (choice known bare payload) (chars (.text name)) a := by
  intro r _
  rw [chars]
  refine bind_eq_ok.2 ⟨_, variant_chars hname r, ?_⟩
  exact bind_eq_ok.2 ⟨_, hbare, rfl⟩

/-- An alternative with a payload is read from an object with one member. -/
theorem takes_payload {v : Json} (hname : known.contains name = true)
    (hpayload : Takes (payload name) (chars v) a) :
    Takes (choice known bare payload) (chars (.object [(name, v)])) a := by
  intro r _
  rw [chars, memberChars, List.cons_append, List.append_assoc, List.append_assoc, List.cons_append]
  refine bind_eq_ok.2 ⟨_, variant_chars hname _, ?_⟩
  refine bind_eq_ok.2 ⟨_, colon_iff.2 .none, ?_⟩
  refine bind_eq_ok.2 ⟨_, hpayload _ (follows_membersFrom [] r), ?_⟩
  rfl

end Choices

end Read

/-- Every value is read back from the text that is written for it. -/
def RoundTrips {α : Type} (reader : Reader α) (write : α → Json) : Prop :=
  ∀ a, Read.whole reader (write a).render.toList = .ok a

/-- No two values have the same text, if each of them is read back. -/
theorem RoundTrips.injective {α : Type} {reader : Reader α} {write : α → Json}
    (h : RoundTrips reader write) : Function.Injective fun a => (write a).render := by
  intro a b hab
  have hread : (Except.ok a : Except Refusal α) = .ok b := by
    rw [← h a, ← h b]
    exact congrArg (fun t : String => Read.whole reader t.toList) hab
  exact Except.ok.inj hread

end Json
end RaceLink
