import RaceLink.Endpoint.Domain
import RaceLink.Proofs.Endpoint.Punycode
import RaceLink.Proofs.Text.Names

/-!
# The ASCII form of an ASCII form

The ASCII form of a name is itself a name, and asking for its ASCII form again gives the form back.
There is one exception.  Punycode is read up to one length and labels are written up to another, and
a label that is short enough to be written can get too long to be read.

* `Domain.overlong` — whether a name has a label that is too long to be read.
* `Domain.Settled` — what is known of the characters of an ASCII form.
* `Domain.label?_asked` — one label: read again it says the same, unless it is too long.
* `Domain.ascii_again` — the same for names.
* `Domain.overlong_ideographs` — names that are too long exist.
-/

set_option autoImplicit false

namespace RaceLink
namespace Endpoint
namespace Domain

open Text (capital partsAt)

/-- Whether a label is the ASCII form of something, but longer than what is read of such a form. -/
def tooLong (label : List Char) : Bool :=
  marker.isPrefixOf label && decide (longestRead < (label.drop marker.length).length)

/-- Whether a name has a label that is too long to be read. -/
def overlong (name : List Char) : Bool := (partsAt (· = '.') name).any tooLong

/-- A character that an ASCII form may have. -/
structure Settled (c : Char) : Prop where
  plain : c.toNat < 128
  small : capital c.toNat = false
  allowed : forbidden c = false

instance (c : Char) : Decidable (Settled c) :=
  decidable_of_iff (c.toNat < 128 ∧ capital c.toNat = false ∧ forbidden c = false)
    ⟨fun h => ⟨h.1, h.2.1, h.2.2⟩, fun h => ⟨h.plain, h.small, h.allowed⟩⟩

/-! ## Labels -/

theorem settled_digit (d : Nat) (hd : d < 36) :
    Settled (Punycode.digit d) ∧ Punycode.digit d ≠ '.' := by
  interval_cases d <;> decide

/-- What a folded and composed name is made of, between its dots. -/
structure Small (s : List Char) : Prop where
  small : ∀ c ∈ s, capital c.toNat = false
  dots : ∀ c ∈ s, c ≠ '.'

theorem settled_marker : ∀ c ∈ marker, Settled c ∧ c ≠ '.' := by
  have hall : (marker.all fun c => decide (Settled c ∧ c ≠ '.')) = true := by decide
  exact fun c hc => of_decide_eq_true (List.all_eq_true.mp hall c hc)

/-- What a label that can be part of a name is: an ASCII form that can be read, a text in ASCII, or
a text that is written in Punycode. -/
theorem label?_cases {s : List Char} {l : Label} (h : label? s = some l) :
    s.any forbidden = false ∧
      ((∃ written, s = marker ++ written ∧ written.length ≤ longestRead ∧
          Punycode.decode written = some l.said ∧ l.asked = s) ∨
        (marker.isPrefixOf s = false ∧ plain s ∧ l.asked = s) ∨
        (plain s = false ∧ sound s ∧ l = ⟨s, marker ++ Punycode.encode s⟩)) := by
  unfold label? at h
  split at h
  · cases h
  · rename_i hallowed
    refine ⟨by simpa using hallowed, ?_⟩
    split at h
    · rename_i hmarker
      obtain ⟨written, rfl⟩ := List.isPrefixOf_iff_prefix.mp hmarker
      simp only [List.drop_left] at h
      split at h
      · rename_i hlength
        split at h
        · rename_i said hdecode
          split at h
          · cases h
            exact .inl ⟨written, rfl, hlength, hdecode, rfl⟩
          · cases h
        · cases h
      · cases h
    · rename_i hmarker
      split at h
      · rename_i hplain
        cases h
        exact .inr (.inl ⟨Bool.eq_false_iff.mpr hmarker, hplain, rfl⟩)
      · rename_i hplain
        split at h
        · rename_i hsound
          cases h
          exact .inr (.inr ⟨by simpa using hplain, (Bool.and_eq_true_iff.mp hsound).1, rfl⟩)
        · cases h

/-- Whether a label has been read from a part of a folded and composed name. -/
def Read (l : Label) : Prop := ∃ s, Small s ∧ label? s = some l

theorem settled_asked {l : Label} (h : Read l) : ∀ c ∈ l.asked, Settled c ∧ c ≠ '.' := by
  obtain ⟨s, hs, h⟩ := h
  obtain ⟨hallowed, hcases⟩ := label?_cases h
  have hown (c : Char) (hc : c ∈ s) (hplain : c.toNat < 128) : Settled c ∧ c ≠ '.' :=
    ⟨⟨hplain, hs.small c hc, by simpa using List.any_eq_false.mp hallowed c hc⟩, hs.dots c hc⟩
  intro c hc
  rcases hcases with ⟨written, rfl, -, hdecode, hasked⟩ | ⟨-, hplain, hasked⟩ | ⟨-, -, rfl⟩
  · rw [hasked] at hc
    rcases List.mem_append.mp hc with hmarker | hwritten
    · exact settled_marker c hmarker
    · exact hown c hc (Punycode.plain_of_decode hdecode c hwritten)
  · rw [hasked] at hc
    exact hown c hc (by simpa using List.all_eq_true.mp hplain c hc)
  · rcases List.mem_append.mp hc with hmarker | hencode
    · exact settled_marker c hmarker
    · rcases Punycode.mem_encode hencode with ⟨hc, hplain⟩ | rfl | ⟨d, hd, rfl⟩
      · exact hown c hc hplain
      · decide
      · exact settled_digit d hd

/-- A label that is read again says the same, unless it is too long to be read. -/
theorem label?_asked {l : Label} (h : Read l) :
    label? l.asked = if tooLong l.asked then none else some l := by
  have hsettled := settled_asked h
  obtain ⟨s, -, h⟩ := h
  have hallowed : l.asked.any forbidden = false := by
    rw [List.any_eq_false]
    intro c hc
    simp [(hsettled c hc).1.allowed]
  obtain ⟨-, hcases⟩ := label?_cases h
  rcases hcases with ⟨written, rfl, hlength, -, hasked⟩ | ⟨hmarker, -, hasked⟩ |
    ⟨hplain, hsound, rfl⟩
  · have hshort : tooLong (marker ++ written) = false := by
      simp [tooLong, hlength]
    rw [hasked, h, hshort]
    rfl
  · have hshort : tooLong s = false := by
      simp [tooLong, hmarker]
    rw [hasked, h, hshort]
    rfl
  -- What was written says the label again, and the label is as sound as before.
  · have hmarker : marker.isPrefixOf (marker ++ Punycode.encode s) := by simp
    unfold label? tooLong
    rw [hallowed, hmarker]
    simp only [List.drop_left, Punycode.decode_encode, hplain, hsound]
    rcases Nat.lt_or_ge longestRead (Punycode.encode s).length with hlong | hshort
    · simp [hlong, Nat.not_le.mpr hlong]
    · simp [hshort, Nat.not_lt.mpr hshort]

/-! ## Names -/

/-- All labels of a name have been read. -/
theorem read_of_mapM {parts : List (List Char)} {labels : List Label}
    (hs : ∀ s ∈ parts, Small s) (h : parts.mapM label? = some labels) :
    (∀ l ∈ labels, Read l) ∧ labels.length = parts.length := by
  induction parts generalizing labels with
  | nil =>
    cases h
    simp
  | cons s parts ih =>
    obtain ⟨hsmall, hparts⟩ := List.forall_mem_cons.mp hs
    simp only [List.mapM_cons, Option.bind_eq_bind, Option.bind_eq_some_iff, Option.pure_def,
      Option.some.injEq] at h
    obtain ⟨l, hl, rest, hrest, rfl⟩ := h
    obtain ⟨hread, hlength⟩ := ih hparts hrest
    exact ⟨List.forall_mem_cons.mpr ⟨⟨s, hsmall, hl⟩, hread⟩, by simp [hlength]⟩

/-- Labels that are read again say the same, unless one is too long. -/
theorem mapM_asked {labels : List Label} (h : ∀ l ∈ labels, Read l) :
    (labels.map Label.asked).mapM label? =
      if (labels.map Label.asked).any tooLong then none else some labels := by
  induction labels with
  | nil => rfl
  | cons l labels ih =>
    obtain ⟨hl, hlabels⟩ := List.forall_mem_cons.mp h
    rw [List.map_cons, List.mapM_cons, label?_asked hl, ih hlabels, List.any_cons]
    cases tooLong l.asked <;> cases (labels.map Label.asked).any tooLong <;> rfl

/-- What an ASCII form is made from. -/
theorem ascii_cases {name a : List Char} (h : ascii name = some a) :
    ∃ labels : List Label, (∀ l ∈ labels, Read l) ∧ labels ≠ [] ∧ steady labels ∧
      a = List.intercalate ['.'] (labels.map Label.asked) := by
  unfold ascii at h
  simp only [Option.bind_eq_bind, Option.bind_eq_some_iff] at h
  obtain ⟨folded, hfolded, labels, hlabels, h⟩ := h
  obtain ⟨hread, hlength⟩ := read_of_mapM (fun s hs =>
    ⟨fun c hc => Text.not_capital_of_folded hfolded c (Text.of_mem_partsAt hs c hc).1,
      fun c hc => of_decide_eq_false (Text.of_mem_partsAt hs c hc).2⟩) hlabels
  split at h
  · rename_i hsteady
    refine ⟨labels, hread, ?_, hsteady, (Option.some.inj h).symm⟩
    rintro rfl
    exact Text.partsAt_ne_nil _ (List.length_eq_zero_iff.mp hlength.symm)
  · cases h

/-- The characters of an ASCII form. -/
theorem settled_ascii {name a : List Char} (h : ascii name = some a) : ∀ c ∈ a, Settled c := by
  obtain ⟨labels, hread, -, -, rfl⟩ := ascii_cases h
  intro c hc
  rcases Text.mem_intercalate hc with rfl | ⟨asked, hasked, hc⟩
  · decide
  · obtain ⟨l, hl, rfl⟩ := List.mem_map.mp hasked
    exact (settled_asked (hread l hl) c hc).1

/-- The ASCII form of an ASCII form is that form, unless it has a label that is too long. -/
theorem ascii_again {name a : List Char} (h : ascii name = some a) :
    ascii a = if overlong a then none else some a := by
  have hsettled := settled_ascii h
  obtain ⟨labels, hread, hne, hsteady, rfl⟩ := ascii_cases h
  have hparts : partsAt (· = '.') (List.intercalate ['.'] (labels.map Label.asked)) =
      labels.map Label.asked := by
    refine Text.partsAt_intercalate (by simpa using hne) (fun asked hasked c hc => ?_) (by simp)
    obtain ⟨l, hl, rfl⟩ := List.mem_map.mp hasked
    exact decide_eq_false (settled_asked (hread l hl) c hc).2
  unfold ascii overlong
  rw [Text.fold_small fun c hc => ⟨(hsettled c hc).plain, (hsettled c hc).small⟩]
  simp only [Option.bind_eq_bind, Option.bind_some]
  rw [Text.text_plain fun c hc => (hsettled c hc).plain, hparts, mapM_asked hread]
  split
  · rfl
  · simp only [Option.bind_some, hsteady, if_true]

/-! ## Labels that get too long

Ideographs that lie far apart take three digits each, so a label of some seven hundred of them is
written but not read. -/

section Ideographs

variable {s : List Char}

theorem ne_of_ideograph {c d : Char} (h : Text.ideograph c) (hd : d.toNat < 128) : c ≠ d := by
  obtain ⟨hlow, -⟩ := Text.bounds_of_ideograph h
  rintro rfl
  omega

theorem plain_of_forbidden {c : Char} (h : forbidden c) : c.toNat < 128 := by
  simp only [forbidden, Bool.or_eq_true, decide_eq_true_eq, List.contains_iff_mem] at h
  rcases h with (h | rfl) | h
  · omega
  · decide
  · have hall : (['%', '#', '/', ':', '<', '>', '?', '@', '[', '\\', ']', '^', '|'].all
        fun d => decide (d.toNat < 128)) = true := by decide
    exact of_decide_eq_true (List.all_eq_true.mp hall c h)

theorem label?_ideographs (h : ∀ c ∈ s, Text.ideograph c) (hne : s ≠ [])
    (hlength : s.length ≤ longestWritten) :
    label? s = some ⟨s, marker ++ Punycode.encode s⟩ := by
  have hbeyond (c : Char) (hc : c ∈ s) : ¬c.toNat < 128 := by
    have := Text.bounds_of_ideograph (h c hc)
    omega
  have hallowed : s.any forbidden = false :=
    List.any_eq_false.mpr fun c hc hforbidden => hbeyond c hc (plain_of_forbidden hforbidden)
  obtain ⟨c, rest, rfl⟩ := List.exists_cons_of_ne_nil hne
  have hc := hbeyond c (List.mem_cons_self ..)
  have hmarker : marker.isPrefixOf (c :: rest) = false := by
    refine Bool.eq_false_iff.mpr fun hprefix => ?_
    have hx : 'x' ∈ c :: rest := (List.isPrefixOf_iff_prefix.mp hprefix).subset (by decide)
    exact hbeyond 'x' hx (by decide)
  have hplain : plain (c :: rest) = false := by simp [plain, hc]
  have hsound : sound (c :: rest) := by
    simp [sound, Text.fold_ideographs h, Text.Compose.text_ideographs h, Text.fits_ideographs h,
      isMark, Text.of_ideograph (h c (List.mem_cons_self ..))]
  rw [label?, hallowed, hmarker, hplain, hsound, decide_eq_true hlength]
  rfl

theorem steady_ideographs (h : ∀ c ∈ s, Text.ideograph c) (asked : List Char) :
    steady [⟨s, asked⟩] := by
  have hmixes : Text.Direction.mixes s = false := by
    rw [Text.Direction.mixes, List.any_eq_false]
    intro c hc
    simp [Text.of_ideograph (h c hc)]
  simp [steady, hmixes]

theorem ascii_ideographs (h : ∀ c ∈ s, Text.ideograph c) (hne : s ≠ [])
    (hlength : s.length ≤ longestWritten) : ascii s = some (marker ++ Punycode.encode s) := by
  have hparts : partsAt (· = '.') s = [s] := Text.partsAt_clear fun c hc =>
    decide_eq_false (ne_of_ideograph (h c hc) (by decide))
  rw [ascii, Text.fold_ideographs h]
  simp only [Option.bind_eq_bind, Option.bind_some, Text.Compose.text_ideographs h, hparts,
    List.mapM_cons, List.mapM_nil, label?_ideographs h hne hlength, Option.pure_def,
    if_pos (steady_ideographs h _)]
  simp

/-- A name of one label has no parts. -/
theorem partsAt_ascii_ideographs (h : ∀ c ∈ s, Text.ideograph c) (hne : s ≠ [])
    (hlength : s.length ≤ longestWritten) :
    partsAt (· = '.') (marker ++ Punycode.encode s) = [marker ++ Punycode.encode s] := by
  have hsmall : Small s :=
    ⟨fun c hc => by
      have := Text.bounds_of_ideograph (h c hc)
      simp [capital]
      omega, fun c hc => ne_of_ideograph (h c hc) (by decide)⟩
  refine Text.partsAt_clear fun c hc => decide_eq_false ?_
  exact (settled_asked ⟨s, hsmall, label?_ideographs h hne hlength⟩ c hc).2

theorem overlong_ideographs (h : ∀ c ∈ s, Text.ideograph c) (hspread : Punycode.Spread s)
    (hlong : 713 ≤ s.length) (hlength : s.length ≤ longestWritten) :
    overlong (marker ++ Punycode.encode s) := by
  have hne : s ≠ [] := by
    rintro rfl
    simp at hlong
  have hencode := Punycode.length_encode hspread fun c hc => by
    have := Text.bounds_of_ideograph (h c hc)
    omega
  have hread : longestRead < (Punycode.encode s).length := by
    unfold longestRead
    omega
  rw [overlong, partsAt_ascii_ideographs h hne hlength]
  simp [tooLong, hread]

end Ideographs

end Domain
end Endpoint
end RaceLink
