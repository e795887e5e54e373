import RaceLink.Proofs.Endpoint.Address
import RaceLink.Proofs.Endpoint.Domain

/-!
# Hosts as they are written

A host has many texts and is written in one of them.  That text is read as the same host again,
whatever the text was that the host was first read from, except for names with a label that is too
long to be read.

* `Host.Settled` — what is known of a host that has been read.
* `Host.parse_text` — reading what is written.
-/

set_option autoImplicit false

namespace RaceLink
namespace Endpoint

theorem Percent.decode_clear {s : List Char} (h : '%' ∉ s) : Percent.decode s = some s := by
  have hcontains : s.contains '%' = false := by simpa using h
  rw [Percent.decode, hcontains]
  rfl

namespace Domain

/-! ## Names that are numbers -/

theorem settled_digitChar : ∀ d < 10, Settled (Nat.digitChar d) := by decide

theorem digitChar_ne_x : ∀ d < 10, Nat.digitChar d ≠ 'x' := by decide

/-- A label of small letters and digits stays as it is. -/
theorem label?_settled {s : List Char} (h : ∀ c ∈ s, Settled c)
    (hmarker : marker.isPrefixOf s = false) : label? s = some ⟨s, s⟩ := by
  have hallowed : s.any forbidden = false := by
    rw [List.any_eq_false]
    intro c hc
    simp [(h c hc).allowed]
  have hplain : plain s := by
    rw [plain, List.all_eq_true]
    exact fun c hc => decide_eq_true (h c hc).plain
  simp [label?, hallowed, hmarker, hplain]

theorem mixes_plain {s : List Char} (h : ∀ c ∈ s, c.toNat < 128) :
    Text.Direction.mixes s = false := by
  rw [Text.Direction.mixes, List.any_eq_false]
  intro c hc
  have := h c hc
  simp only [Bool.and_eq_true, decide_eq_true_eq]
  omega

theorem settled_toDigits {n : Nat} {c : Char} (hc : c ∈ Nat.toDigits 10 n) : Settled c := by
  obtain ⟨d, hd, rfl⟩ := mem_toDigits (by decide) hc
  exact settled_digitChar d hd

/-- A label that is a number. -/
def numeral (n : Nat) : Label := ⟨Nat.toDigits 10 n, Nat.toDigits 10 n⟩

theorem label?_toDigits (n : Nat) : label? (Nat.toDigits 10 n) = some (numeral n) := by
  refine label?_settled (fun c hc => settled_toDigits hc) (Bool.eq_false_iff.mpr fun hmarker => ?_)
  have hx : 'x' ∈ Nat.toDigits 10 n :=
    (List.isPrefixOf_iff_prefix.mp hmarker).subset (by decide)
  obtain ⟨d, hd, heq⟩ := mem_toDigits (by decide) hx
  exact digitChar_ne_x d hd heq.symm

theorem mapM_toDigits (ns : List Nat) :
    (ns.map (Nat.toDigits 10)).mapM label? = some (ns.map numeral) := by
  induction ns with
  | nil => rfl
  | cons n ns ih => simp [label?_toDigits, ih]

theorem steady_numerals (ns : List Nat) : steady (ns.map numeral) := by
  have hmixes : (ns.map numeral).any (fun l => Text.Direction.mixes l.said) = false := by
    rw [List.any_eq_false]
    intro l hl
    obtain ⟨n, -, rfl⟩ := List.mem_map.mp hl
    exact Bool.not_eq_true _ ▸ mixes_plain fun c hc => (settled_toDigits hc).plain
  rw [steady, hmixes]
  rfl

/-- A number of four bytes is its own ASCII form. -/
theorem ascii_number (a : UInt32) :
    ascii (Address4.text a).toList = some (Address4.text a).toList := by
  have hsettled : ∀ c ∈ (Address4.text a).toList, Settled c := by
    intro c hc
    rcases Address4.mem_text hc with rfl | ⟨d, hd, rfl⟩
    · decide
    · exact settled_digitChar d hd
  unfold ascii
  rw [Text.fold_small fun c hc => ⟨(hsettled c hc).plain, (hsettled c hc).small⟩]
  simp only [Option.bind_eq_bind, Option.bind_some]
  rw [Text.text_plain fun c hc => (hsettled c hc).plain, Address4.partsAt_text, mapM_toDigits,
    Option.bind_some, if_pos (steady_numerals _), List.map_map, Address4.text_eq]
  rfl

end Domain

namespace Host

/-- Whether the name of a host has a label that is too long to be read. -/
def overlong : Host → Bool
  | domain name => Domain.overlong name.toList
  | four _ => false
  | six _ => false

/-- What is known of a host that has been read: its name is an ASCII form, and no number. -/
def Settled : Host → Prop
  | domain name =>
    name.toList ≠ [] ∧ (∀ c ∈ name.toList, Domain.Settled c) ∧
      Address4.meant name.toList = false ∧
      Domain.ascii name.toList =
        if Domain.overlong name.toList then none else some name.toList
  | four _ => True
  | six _ => True

theorem settled_of_parse {s : List Char} {host : Host} (h : parse s = .ok host) :
    host.Settled := by
  unfold parse at h
  split at h
  · unfold bracketed at h
    extract_lets inner at h
    split at h
    · split at h
      · cases h
        trivial
      · cases h
    · cases h
  · split at h
    · cases h
    · rename_i name hname
      obtain ⟨text, -, hascii⟩ := Option.bind_eq_some_iff.mp hname
      split at h
      · cases h
      · rename_i hne
        split at h
        · split at h
          · cases h
            trivial
          · cases h
        · rename_i hmeant
          cases h
          simp only [Settled, String.toList_ofList]
          exact ⟨by simpa using hne, Domain.settled_ascii hascii, by simpa using hmeant,
            Domain.ascii_again hascii⟩

/-- What is written is read as the same host, unless a label of its name is too long. -/
theorem parse_text {host : Host} (h : host.Settled) :
    parse host.text.toList = if host.overlong then .error .badDomain else .ok host := by
  cases host with
  | domain name =>
    obtain ⟨hne, hsettled, hmeant, hascii⟩ := h
    have hnot (c : Char) (hc : Domain.forbidden c) : c ∉ name.toList := by
      intro hmem
      rw [(hsettled c hmem).allowed] at hc
      cases hc
    have hbracket : name.toList.head? ≠ some '[' := fun heq =>
      hnot '[' (by decide) (List.mem_of_mem_head? heq)
    have hempty : name.toList.isEmpty = false := by simpa using hne
    simp only [parse, text, if_neg hbracket, Percent.decode_clear (hnot '%' (by decide)),
      Option.bind_some, hascii, overlong]
    by_cases hlong : Domain.overlong name.toList
    · simp [hlong]
    · simp [hlong, hempty, hmeant]
  | four a =>
    have hnot (c : Char) (hc : c ≠ '.' ∧ ∀ d < 10, Nat.digitChar d ≠ c) :
        c ∉ (Address4.text a).toList := by
      intro hmem
      rcases Address4.mem_text hmem with rfl | ⟨d, hd, rfl⟩
      · exact hc.1 rfl
      · exact hc.2 d hd rfl
    have hbracket : (Address4.text a).toList.head? ≠ some '[' := fun heq =>
      hnot '[' (by decide) (List.mem_of_mem_head? heq)
    have hempty : (Address4.text a).toList.isEmpty = false := by
      have := Address4.meant_text a
      cases hlist : (Address4.text a).toList with
      | nil => rw [hlist] at this; cases this
      | cons c s => rfl
    simp [parse, text, if_neg hbracket, Percent.decode_clear (hnot '%' (by decide)),
      Domain.ascii_number, hempty, Address4.meant_text, Address4.parse_text, overlong]
  | six a =>
    have hlast : ('[' :: (a.text ++ [']'])).getLast? = some ']' := by
      rw [← List.cons_append, List.getLast?_concat]
    simp [parse, text, bracketed, hlast, Address6.parse_text, overlong]

/-- A name of ideographs that lie far apart is read, but not read again. -/
theorem parse_ideographs {s : List Char} (h : ∀ c ∈ s, Text.ideograph c)
    (hspread : Punycode.Spread s) (hlong : 713 ≤ s.length)
    (hlength : s.length ≤ Domain.longestWritten) :
    ∃ host, parse s = .ok host ∧ host.overlong := by
  have hne : s ≠ [] := by
    rintro rfl
    simp at hlong
  have hbracket : s.head? ≠ some '[' := fun heq =>
    Domain.ne_of_ideograph (h '[' (List.mem_of_mem_head? heq)) (d := '[') (by decide) rfl
  have hpercent : '%' ∉ s := fun hmem =>
    Domain.ne_of_ideograph (h '%' hmem) (d := '%') (by decide) rfl
  have hparts := Domain.partsAt_ascii_ideographs h hne hlength
  have hmeant : Address4.meant (Domain.marker ++ Punycode.encode s) = false := by
    have hpart : Address4.parts (Domain.marker ++ Punycode.encode s) =
        [Domain.marker ++ Punycode.encode s] := by
      simp only [Address4.parts, hparts]
      exact if_neg (by simp [Domain.marker])
    have hnumber : Address4.part? (Domain.marker ++ Punycode.encode s) = none :=
      Address4.part?_eq_none (by decide) _
    have hdigits : (Domain.marker ++ Punycode.encode s).all Char.isDigit = false :=
      Bool.and_eq_false_iff.mpr (.inl (by decide))
    simp [Address4.meant, hpart, hnumber, hdigits]
  refine ⟨domain (String.ofList (Domain.marker ++ Punycode.encode s)), ?_, ?_⟩
  · have hempty : (Domain.marker ++ Punycode.encode s).isEmpty = false := rfl
    simp only [parse, if_neg hbracket, Percent.decode_clear hpercent, Option.bind_some,
      Domain.ascii_ideographs h hne hlength, hempty, hmeant, Bool.false_eq_true, if_false]
  · rw [overlong, String.toList_ofList]
    exact Domain.overlong_ideographs h hspread hlong hlength

end Host
end Endpoint
end RaceLink
