import Mathlib.Data.Fintype.Basic
import Mathlib.Tactic.FinCases
import RaceLink.Proofs.Json.Reading
import RaceLink.Proofs.Json.Records
import RaceLink.Race.Frame

/-!
# Which texts are frames

A text is a frame just if the grammar of JSON has it as an object whose members tell one, each by
the last value of its name.  Nothing else in the text matters.

* `Frame.TellsStatus`, `Frame.TellsLap`, `Frame.TellsNumber`, `Frame.IsLap` — what the payloads of
  frames look like as they are written.
* `Frame.Told` — members that tell a frame.
* `Frame.decode_told` — which texts are decoded, and to what.
-/

set_option autoImplicit false

namespace RaceLink

namespace Json

/-- A number of thirty-two bits as it must be written: without sign, point or exponent. -/
def word (n : UInt32) : Json := .number (.natural n.toNat)

end Json

/-! ## What drafts hold -/

/-- What the slots of a report hold. -/
def Status.view : Status.layout.View where
  get
    | ⟨0, _⟩ => Status.Draft.current
    | ⟨1, _⟩ => Status.Draft.peak
    | ⟨2, _⟩ => Status.Draft.lapCount
    | ⟨3, _⟩ => Status.Draft.crossing
  filled := fun (i : Fin 4) d => by fin_cases i <;> rfl
  get_blank := fun (i : Fin 4) => by fin_cases i <;> rfl
  get_put := fun (i : Fin 4) d x => by fin_cases i <;> rfl
  get_put_of_ne := fun (i j : Fin 4) hij d x => by
    fin_cases i <;> fin_cases j <;> first | rfl | exact absurd rfl hij
  ext := by
    rintro ⟨c, p, l, x⟩ ⟨c', p', l', x'⟩ h
    have hc : c = c' := h ⟨0, by decide⟩
    have hp : p = p' := h ⟨1, by decide⟩
    have hl : l = l' := h ⟨2, by decide⟩
    have hx : x = x' := h ⟨3, by decide⟩
    rw [hc, hp, hl, hx]
  distinct := by decide
  unclosed := rfl

/-- What the slots of a lap hold. -/
def Lap.view : Lap.layout.View where
  get
    | ⟨0, _⟩ => Lap.Draft.time
    | ⟨1, _⟩ => Lap.Draft.peak
  filled := fun (i : Fin 2) d => by fin_cases i <;> rfl
  get_blank := fun (i : Fin 2) => by fin_cases i <;> rfl
  get_put := fun (i : Fin 2) d x => by fin_cases i <;> rfl
  get_put_of_ne := fun (i j : Fin 2) hij d x => by
    fin_cases i <;> fin_cases j <;> first | rfl | exact absurd rfl hij
  ext := by
    rintro ⟨t, p⟩ ⟨t', p'⟩ h
    have ht : t = t' := h ⟨0, by decide⟩
    have hp : p = p' := h ⟨1, by decide⟩
    rw [ht, hp]
  distinct := by decide
  unclosed := rfl

/-- What the slots of a numbered lap hold. -/
def Frame.lapView : Frame.lapLayout.View where
  get
    | ⟨0, _⟩ => fun d => d.lap.time
    | ⟨1, _⟩ => fun d => d.lap.peak
    | ⟨2, _⟩ => Frame.LapDraft.number
  filled := fun (i : Fin 3) d => by fin_cases i <;> rfl
  get_blank := fun (i : Fin 3) => by fin_cases i <;> rfl
  get_put := fun (i : Fin 3) d x => by fin_cases i <;> rfl
  get_put_of_ne := fun (i j : Fin 3) hij d x => by
    fin_cases i <;> fin_cases j <;> first | rfl | exact absurd rfl hij
  ext := by
    rintro ⟨⟨t, p⟩, n⟩ ⟨⟨t', p'⟩, n'⟩ h
    have ht : t = t' := h ⟨0, by decide⟩
    have hp : p = p' := h ⟨1, by decide⟩
    have hn : n = n' := h ⟨2, by decide⟩
    rw [ht, hp, hn]
  distinct := by decide
  unclosed := rfl

/-- What the slot of a flag holds. -/
def RaceFlag.view : RaceFlag.layout.View where
  get
    | ⟨0, _⟩ => RaceFlag.Draft.active
  filled := fun (i : Fin 1) d => by fin_cases i; rfl
  get_blank := fun (i : Fin 1) => by fin_cases i; rfl
  get_put := fun (i : Fin 1) d x => by fin_cases i; rfl
  get_put_of_ne := fun (i j : Fin 1) hij d x => absurd (Subsingleton.elim j i) hij
  ext := by
    rintro ⟨b⟩ ⟨b'⟩ h
    have hb : b = b' := h ⟨0, by decide⟩
    rw [hb]
  distinct := by decide
  unclosed := rfl

namespace Frame

open Json (Taken last? member? under word canonical taken_one taken_two taken_absent)
open Json.Read (bind_eq_ok map_eq_ok)
open Record (Kind Layout)

/-! ## Payloads as they are written -/

/-- Members that tell a report; what is left out is zero. -/
structure TellsStatus (ms : List (String × Json)) (s : Status) : Prop where
  current : last? "current_rssi" ms = some (word s.current) ∨
    last? "current_rssi" ms = none ∧ s.current = 0
  peak : last? "peak_rssi" ms = some (word s.peak) ∨ last? "peak_rssi" ms = none ∧ s.peak = 0
  lapCount : last? "lap_count" ms = some (word s.lapCount) ∨
    last? "lap_count" ms = none ∧ s.lapCount = 0
  crossing : last? "crossing" ms = some (.flag s.crossing) ∨
    last? "crossing" ms = none ∧ s.crossing = false

/-- Members that tell a lap.  The peak stands under just one of its two names. -/
structure TellsLap (ms : List (String × Json)) (l : Lap) : Prop where
  time : last? "lap_time_ms" ms = some (word l.time)
  peak : last? "rssi_peak" ms = some (word l.peak) ∧ last? "peak_rssi" ms = none ∨
    last? "rssi_peak" ms = none ∧ last? "peak_rssi" ms = some (word l.peak)

/-- What may stand for the number of a lap; nothing, null and zero all say that there is none. -/
inductive TellsNumber : Option Json → Option UInt32 → Prop
  | absent : TellsNumber none none
  | null : TellsNumber (some .null) none
  | zero : TellsNumber (some (word 0)) none
  | place {n : UInt32} (positive : 0 < n) : TellsNumber (some (word n)) (some n)

/-- A lap of a list: an object that tells it, or its two numbers in order. -/
inductive IsLap : Json → Lap → Prop
  | named {ms : List (String × Json)} {l : Lap} (tells : TellsLap ms l) : IsLap (.object ms) l
  | listed {l : Lap} : IsLap (.array [word l.time, word l.peak]) l

/-- What the members beside the type must be to tell a frame. -/
def Tells (ms : List (String × Json)) : Frame → Prop
  | .status s => TellsStatus ms s
  | .lap l number => TellsLap ms l ∧ TellsNumber (last? "lap_number" ms) number
  | .laps ls => ∃ vs, last? "laps" ms = some (.array vs) ∧ List.Forall₂ IsLap vs ls
  | .flag r => last? "active" ms = some (.flag r.active)
  | .unknown k => k ∉ ["status", "lap", "laps", "race_state"]

/-- Members that tell a frame. -/
structure Told (ms : List (String × Json)) (f : Frame) : Prop where
  type : last? "type" ms = some (.text f.kind)
  payload : Tells ms f

/-! ## Values of fields -/

section Values

variable {v : Json} {o : Option Json}

theorem kindOf_word {n : Nat} :
    Json.kindOf (.word .u32) v = .ok n ↔ ∃ m : UInt32, v = word m ∧ n = m.toNat := by
  constructor
  · intro h
    match v, h with
    | .number (.natural k), h =>
      rw [Json.kindOf, Json.wordOf] at h
      split at h
      · rename_i hfits
        cases h
        refine ⟨UInt32.ofNat n, ?_⟩
        have hlt : n < 2 ^ 32 := of_decide_eq_true hfits
        have hn : (UInt32.ofNat n).toNat = n := UInt32.toNat_ofNat_of_lt' hlt
        rw [word, hn]
        exact ⟨rfl, rfl⟩
      · cases h
  · rintro ⟨m, rfl, rfl⟩
    have hfits : Record.Word.u32.fits m.toNat = true := decide_eq_true m.toNat_lt
    rw [word, Json.kindOf, Json.wordOf, if_pos hfits]

theorem kindOf_flag {b : Bool} : Json.kindOf .flag v = .ok b ↔ v = .flag b := by
  constructor
  · intro h
    match v, h with
    | .flag _, h =>
      cases h
      rfl
  · rintro rfl
    rfl

theorem kindOf_optionalWord {n : Option Nat} :
    Json.kindOf (.optionalWord .u32) v = .ok n ↔
      v = .null ∧ n = none ∨ ∃ m : UInt32, v = word m ∧ n = some m.toNat := by
  constructor
  · intro h
    match v, h with
    | .null, h =>
      cases h
      exact .inl ⟨rfl, rfl⟩
    | .number k, h =>
      have h : (Json.kindOf (.word .u32) (.number k)).map some = .ok n := h
      cases hk : Json.kindOf (.word .u32) (.number k) with
      | error e =>
        rw [hk] at h
        cases h
      | ok j =>
        rw [hk] at h
        obtain ⟨m, hm, rfl⟩ := kindOf_word.1 hk
        cases h
        exact .inr ⟨m, hm, rfl⟩
  · rintro (⟨rfl, rfl⟩ | ⟨m, rfl, rfl⟩)
    · rfl
    · show (Json.kindOf (.word .u32) (word m)).map some = _
      rw [kindOf_word.2 ⟨m, rfl, rfl⟩]
      rfl

theorem taken_word {n : Nat} :
    Taken (.word .u32) none (o.toList ++ []) (some n) ↔
      ∃ m : UInt32, o = some (word m) ∧ n = m.toNat := by
  rw [taken_one]
  constructor
  · rintro (⟨-, h⟩ | ⟨v, y, rfl, hv, hy⟩)
    · cases h
    · cases hy
      obtain ⟨m, rfl, rfl⟩ := kindOf_word.1 hv
      exact ⟨m, rfl, rfl⟩
  · rintro ⟨m, rfl, rfl⟩
    exact .inr ⟨word m, m.toNat, rfl, kindOf_word.2 ⟨m, rfl, rfl⟩, rfl⟩

theorem taken_word_of_two {o' : Option Json} {n : Nat} :
    Taken (.word .u32) none (o.toList ++ o'.toList) (some n) ↔
      ∃ m : UInt32, (o = some (word m) ∧ o' = none ∨ o = none ∧ o' = some (word m)) ∧
        n = m.toNat := by
  rw [taken_two]
  constructor
  · rintro ⟨v, hone, hv⟩
    obtain ⟨m, rfl, rfl⟩ := kindOf_word.1 hv
    exact ⟨m, hone, rfl⟩
  · rintro ⟨m, hone, rfl⟩
    exact ⟨word m, hone, kindOf_word.2 ⟨m, rfl, rfl⟩⟩

theorem taken_flag {b : Bool} :
    Taken .flag none (o.toList ++ []) (some b) ↔ o = some (.flag b) := by
  rw [taken_one]
  constructor
  · rintro (⟨-, h⟩ | ⟨v, y, rfl, hv, hy⟩)
    · cases h
    · cases hy
      rw [kindOf_flag.1 hv]
  · rintro rfl
    exact .inr ⟨.flag b, b, rfl, rfl, rfl⟩

/-- A word that may be left out, where zero stands for nothing. -/
theorem word_or_zero {n : UInt32} :
    (∃ x, Taken (.word .u32) none (o.toList ++ []) x ∧ UInt32.ofNat (x.getD 0) = n) ↔
      o = some (word n) ∨ o = none ∧ n = 0 := by
  constructor
  · rintro ⟨x, htaken, rfl⟩
    cases x with
    | none => exact .inr ⟨taken_absent.1 htaken, rfl⟩
    | some k =>
      obtain ⟨m, rfl, rfl⟩ := taken_word.1 htaken
      rw [Option.getD_some, UInt32.ofNat_toNat]
      exact .inl rfl
  · rintro (rfl | ⟨rfl, rfl⟩)
    · exact ⟨some n.toNat, taken_word.2 ⟨n, rfl, rfl⟩, UInt32.ofNat_toNat⟩
    · exact ⟨none, taken_absent.2 rfl, rfl⟩

theorem flag_or_false {b : Bool} :
    (∃ x, Taken .flag none (o.toList ++ []) x ∧ x.getD false = b) ↔
      o = some (.flag b) ∨ o = none ∧ b = false := by
  constructor
  · rintro ⟨x, htaken, rfl⟩
    cases x with
    | none => exact .inr ⟨taken_absent.1 htaken, rfl⟩
    | some b => exact .inl (taken_flag.1 htaken)
  · rintro (rfl | ⟨rfl, rfl⟩)
    · exact ⟨some b, taken_flag.2 rfl, rfl⟩
    · exact ⟨none, taken_absent.2 rfl, rfl⟩

/-- The number that is kept of one that was read. -/
theorem kept_number (m : UInt32) :
    ((some m.toNat).filter (0 < ·)).map UInt32.ofNat = if 0 < m then some m else none := by
  rw [Option.filter_some]
  by_cases hm : 0 < m
  · have hpos : 0 < m.toNat := UInt32.lt_iff_toNat_lt.1 hm
    rw [if_pos hm, if_pos (decide_eq_true hpos), Option.map_some, UInt32.ofNat_toNat]
  · have hzero : ¬ 0 < m.toNat := fun hpos => hm (UInt32.lt_iff_toNat_lt.2 hpos)
    rw [if_neg hm, if_neg (by simpa using hzero), Option.map_none]

theorem number_or_none {number : Option UInt32} :
    (∃ x : Option (Option Nat), Taken (.optionalWord .u32) none (o.toList ++ []) x ∧
        ((x.getD none).filter (0 < ·)).map UInt32.ofNat = number) ↔ TellsNumber o number := by
  constructor
  · rintro ⟨x, htaken, rfl⟩
    rcases taken_one.1 htaken with ⟨rfl, rfl⟩ | ⟨v, y, rfl, hv, rfl⟩
    · exact .absent
    · rcases kindOf_optionalWord.1 hv with ⟨rfl, rfl⟩ | ⟨m, rfl, rfl⟩
      · exact .null
      · rw [Option.getD_some, kept_number]
        split
        · rename_i hm
          exact .place hm
        · rename_i hm
          have hzero : m = 0 := UInt32.le_zero_iff.1 (UInt32.not_lt.1 hm)
          rw [hzero]
          exact .zero
  · intro h
    have hword : ∀ m : UInt32, Taken (.optionalWord .u32) none ((some (word m)).toList ++ [])
        (some (some m.toNat)) := fun m =>
      taken_one.2 (.inr ⟨_, _, rfl, kindOf_optionalWord.2 (.inr ⟨m, rfl, rfl⟩), rfl⟩)
    cases h with
    | absent => exact ⟨none, taken_absent.2 rfl, rfl⟩
    | null => exact ⟨some none, taken_one.2 (.inr ⟨.null, none, rfl, rfl, rfl⟩), rfl⟩
    | zero => exact ⟨some (some 0), hword 0, rfl⟩
    | @place n positive =>
      refine ⟨some (some n.toNat), hword n, ?_⟩
      rw [Option.getD_some, kept_number, if_pos positive]

end Values

/-! ## Records -/

/-- Members of different names under which stands what was written last, but for the type. -/
structure Stands (ms written : List (String × Json)) : Prop where
  nodup : (ms.map (·.1)).Nodup
  look : ∀ name, name ≠ "type" → member? name ms = (last? name written).map canonical

theorem stands_arrange (written : List (String × Json)) :
    Stands (Json.arrange (Json.canonicalMembers written)) written :=
  ⟨Json.nodup_arrange _, fun name _ => Json.member?_canonicalMembers name written⟩

theorem Stands.untyped {ms written : List (String × Json)} (h : Stands ms written) :
    Stands (ms.filter (·.1 != "type")) written := by
  refine ⟨?_, ?_⟩
  · exact h.nodup.sublist (List.filter_sublist.map _)
  · intro name hname
    rw [Json.member?_filter hname, h.look name hname]

section Records

variable {ms written : List (String × Json)}

theorem ofMembers_iff {σ α : Type} {l : Layout σ α} (view : l.View)
    (htype : ∀ i, (l.fields.get i).answersTo "type" = false) (h : Stands ms written) {r : α} :
    Json.ofMembers l ms = .ok r ↔
      ∃ d, (∀ i, Taken (l.fields.get i).kind none (under (l.fields.get i) (last? · written))
        (view.get i d)) ∧ l.finish d = .ok r := by
  refine Json.ofMembers_iff view h.nodup fun i name hname => h.look name ?_
  rintro rfl
  rw [htype i] at hname
  cases hname

theorem ofMembers_status (h : Stands ms written) {s : Status} :
    Json.ofMembers Status.layout ms = .ok s ↔ TellsStatus written s := by
  rw [ofMembers_iff Status.view (by decide) h]
  constructor
  · rintro ⟨d, htaken, hfinish⟩
    cases hfinish
    constructor
    case current => exact word_or_zero.1 ⟨d.current, htaken ⟨0, by decide⟩, rfl⟩
    case peak => exact word_or_zero.1 ⟨d.peak, htaken ⟨1, by decide⟩, rfl⟩
    case lapCount => exact word_or_zero.1 ⟨d.lapCount, htaken ⟨2, by decide⟩, rfl⟩
    case crossing => exact flag_or_false.1 ⟨d.crossing, htaken ⟨3, by decide⟩, rfl⟩
  · intro htells
    obtain ⟨c, hc, hc'⟩ := word_or_zero.2 htells.current
    obtain ⟨p, hp, hp'⟩ := word_or_zero.2 htells.peak
    obtain ⟨l, hl, hl'⟩ := word_or_zero.2 htells.lapCount
    obtain ⟨x, hx, hx'⟩ := flag_or_false.2 htells.crossing
    refine ⟨⟨c, p, l, x⟩, fun (i : Fin 4) => ?_, ?_⟩
    · fin_cases i
      · exact hc
      · exact hp
      · exact hl
      · exact hx
    · show Except.ok (Status.finish ⟨c, p, l, x⟩) = _
      rw [Status.finish, hc', hp', hl', hx']

theorem ofMembers_flag (h : Stands ms written) {r : RaceFlag} :
    Json.ofMembers RaceFlag.layout ms = .ok r ↔ last? "active" written = some (.flag r.active) := by
  rw [ofMembers_iff RaceFlag.view (by decide) h]
  constructor
  · rintro ⟨⟨_ | b⟩, htaken, hfinish⟩
    · cases hfinish
    · cases hfinish
      exact taken_flag.1 (htaken ⟨0, by decide⟩)
  · intro hactive
    refine ⟨⟨some r.active⟩, fun (i : Fin 1) => ?_, rfl⟩
    fin_cases i
    exact taken_flag.2 hactive

/-- A lap is told just if both of its slots were filled with its numbers. -/
theorem tellsLap_iff {l : Lap} :
    TellsLap written l ↔
      Taken (.word .u32) none ((last? "lap_time_ms" written).toList ++ []) (some l.time.toNat) ∧
      Taken (.word .u32) none
        ((last? "rssi_peak" written).toList ++ (last? "peak_rssi" written).toList)
        (some l.peak.toNat) := by
  rw [taken_word, taken_word_of_two]
  constructor
  · rintro ⟨htime, hpeak⟩
    exact ⟨⟨l.time, htime, rfl⟩, l.peak, hpeak, rfl⟩
  · rintro ⟨⟨t, htime, ht⟩, p, hpeak, hp⟩
    rw [← UInt32.toNat_inj.1 ht] at htime
    rw [← UInt32.toNat_inj.1 hp] at hpeak
    exact ⟨htime, hpeak⟩

/-- The slots of a lap, in any draft that has them. -/
theorem finish_lap {d : Lap.Draft} {l : Lap}
    (htime : Taken (.word .u32) none ((last? "lap_time_ms" written).toList ++ []) d.time)
    (hpeak : Taken (.word .u32) none
      ((last? "rssi_peak" written).toList ++ (last? "peak_rssi" written).toList) d.peak)
    (hfinish : Lap.finish d = .ok l) : TellsLap written l := by
  obtain ⟨_ | t, _ | p⟩ := d
  · cases hfinish
  · cases hfinish
  · cases hfinish
  · cases hfinish
    obtain ⟨t, ht, rfl⟩ := taken_word.1 htime
    obtain ⟨p, hp, rfl⟩ := taken_word_of_two.1 hpeak
    rw [UInt32.ofNat_toNat, UInt32.ofNat_toNat]
    exact ⟨ht, hp⟩

theorem finish_ofNat (l : Lap) : Lap.finish ⟨some l.time.toNat, some l.peak.toNat⟩ = .ok l := by
  show Except.ok (⟨UInt32.ofNat l.time.toNat, UInt32.ofNat l.peak.toNat⟩ : Lap) = _
  rw [UInt32.ofNat_toNat, UInt32.ofNat_toNat]

theorem ofMembers_lap (h : Stands ms written) {l : Lap} :
    Json.ofMembers Lap.layout ms = .ok l ↔ TellsLap written l := by
  rw [ofMembers_iff Lap.view (by decide) h]
  constructor
  · rintro ⟨d, htaken, hfinish⟩
    exact finish_lap (htaken ⟨0, by decide⟩) (htaken ⟨1, by decide⟩) hfinish
  · intro htells
    obtain ⟨htime, hpeak⟩ := tellsLap_iff.1 htells
    refine ⟨⟨some l.time.toNat, some l.peak.toNat⟩, fun (i : Fin 2) => ?_, finish_ofNat l⟩
    fin_cases i
    · exact htime
    · exact hpeak

theorem ofMembers_numbered (h : Stands ms written) {f : Frame} :
    Json.ofMembers lapLayout ms = .ok f ↔
      ∃ l number, f = .lap l number ∧ TellsLap written l ∧
        TellsNumber (last? "lap_number" written) number := by
  rw [ofMembers_iff lapView (by decide) h]
  constructor
  · rintro ⟨d, htaken, hfinish⟩
    obtain ⟨l, hl, hf⟩ := bind_eq_ok.1 hfinish
    cases hf
    exact ⟨l, _, rfl, finish_lap (htaken ⟨0, by decide⟩) (htaken ⟨1, by decide⟩) hl,
      number_or_none.1 ⟨d.number, htaken ⟨2, by decide⟩, rfl⟩⟩
  · rintro ⟨l, number, rfl, htells, hnumber⟩
    obtain ⟨htime, hpeak⟩ := tellsLap_iff.1 htells
    obtain ⟨n, hn, hkept⟩ := number_or_none.2 hnumber
    refine ⟨⟨⟨some l.time.toNat, some l.peak.toNat⟩, n⟩, fun (i : Fin 3) => ?_, ?_⟩
    · fin_cases i
      · exact htime
      · exact hpeak
      · exact hn
    · refine bind_eq_ok.2 ⟨l, finish_ofNat l, ?_⟩
      rw [← hkept]

end Records

/-! ## Lists of laps -/

theorem ofItems_lap {vs : List Json} {surplus : Record.Mismatch} {l : Lap} :
    Json.ofItems Lap.layout surplus vs = .ok l ↔ vs = [word l.time, word l.peak] := by
  constructor
  · intro h
    obtain ⟨⟨d, rest⟩, htake, h⟩ := bind_eq_ok.1 h
    obtain ⟨l', hfinish, h⟩ := bind_eq_ok.1 h
    split at h
    · rename_i hrest
      cases h
      match vs, htake with
      | [_], htake =>
        obtain ⟨t, -, htake⟩ := bind_eq_ok.1 htake
        cases htake
      | v :: w :: ws, htake =>
        obtain ⟨t, ht, htake⟩ := bind_eq_ok.1 htake
        obtain ⟨p, hp, htake⟩ := bind_eq_ok.1 htake
        cases htake
        cases hfinish
        obtain ⟨m, rfl, rfl⟩ := kindOf_word.1 ht
        obtain ⟨n, rfl, rfl⟩ := kindOf_word.1 hp
        rw [UInt32.ofNat_toNat, UInt32.ofNat_toNat, List.isEmpty_iff.1 hrest]
    · cases h
  · rintro rfl
    have htime := kindOf_word.2 ⟨l.time, rfl, rfl⟩
    have hpeak := kindOf_word.2 ⟨l.peak, rfl, rfl⟩
    refine bind_eq_ok.2 ⟨(⟨some l.time.toNat, some l.peak.toNat⟩, []), ?_, ?_⟩
    · exact bind_eq_ok.2 ⟨_, htime, bind_eq_ok.2 ⟨_, hpeak, rfl⟩⟩
    · exact bind_eq_ok.2 ⟨l, finish_ofNat l, rfl⟩

theorem canonical_eq_word {v : Json} {n : UInt32} : canonical v = word n ↔ v = word n :=
  Json.canonical_eq_scalar nofun nofun

theorem ofTree_eq_ok {σ α : Type} {l : Layout σ α} {v : Json} {r : α}
    (h : Json.ofTree l v = .ok r) : (∃ ms, v = .object ms) ∨ ∃ vs, v = .array vs := by
  match v, h with
  | .object ms, _ => exact .inl ⟨ms, rfl⟩
  | .array vs, _ => exact .inr ⟨vs, rfl⟩

/-- A lap of a list is read from the canonical form of what tells it. -/
theorem ofTree_lap {v : Json} {l : Lap} :
    Json.ofTree Lap.layout (canonical v) = .ok l ↔ IsLap v l := by
  constructor
  · intro h
    rcases ofTree_eq_ok h with ⟨ms, hms⟩ | ⟨vs, hvs⟩
    · rw [hms] at h
      obtain ⟨written, rfl, rfl⟩ := Json.canonical_eq_object.1 hms
      exact .named ((ofMembers_lap (stands_arrange written)).1 h)
    · rw [hvs, Json.ofTree, ofItems_lap] at h
      obtain ⟨vs, rfl, rfl⟩ := Json.canonical_eq_array.1 hvs
      rw [Json.canonicalItems_eq_map] at h
      obtain ⟨v, vs, rfl, hv, h⟩ := List.map_eq_cons_iff.1 h
      obtain ⟨w, vs, rfl, hw, h⟩ := List.map_eq_cons_iff.1 h
      rw [canonical_eq_word.1 hv, canonical_eq_word.1 hw, List.map_eq_nil_iff.1 h]
      exact .listed
  · intro h
    cases h with
    | @named ms _ tells =>
      rw [canonical]
      exact (ofMembers_lap (stands_arrange ms)).2 tells
    | listed =>
      rw [canonical, Json.ofTree, ofItems_lap, Json.canonicalItems_eq_map, List.map_cons,
        List.map_cons, List.map_nil, canonical_eq_word.2 rfl, canonical_eq_word.2 rfl]

theorem lapList_iff {vs : List Json} {ls : List Lap} :
    lapList (Json.canonicalItems vs) = .ok ls ↔ List.Forall₂ IsLap vs ls := by
  induction vs generalizing ls with
  | nil =>
    rw [Json.canonicalItems, lapList, List.forall₂_nil_left_iff]
    exact ⟨fun h => by cases h; rfl, fun h => by rw [h]⟩
  | cons v vs ih =>
    rw [Json.canonicalItems, lapList, List.forall₂_cons_left_iff]
    constructor
    · intro h
      obtain ⟨l, hl, h⟩ := bind_eq_ok.1 h
      obtain ⟨ls', hls, h⟩ := bind_eq_ok.1 h
      cases h
      exact ⟨l, ls', ofTree_lap.1 hl, ih.1 hls, rfl⟩
    · rintro ⟨l, ls', hl, hls, rfl⟩
      exact bind_eq_ok.2 ⟨l, ofTree_lap.2 hl, bind_eq_ok.2 ⟨ls', ih.2 hls, rfl⟩⟩

theorem lapsOf_iff {ms written : List (String × Json)} (h : Stands ms written) {f : Frame} :
    lapsOf ms = .ok f ↔
      ∃ ls, f = .laps ls ∧ ∃ vs, last? "laps" written = some (.array vs) ∧
        List.Forall₂ IsLap vs ls := by
  rw [lapsOf, h.look "laps" (by decide)]
  constructor
  · intro h
    split at h
    · cases h
    · rename_i ws hws
      obtain ⟨v, hv, hcanonical⟩ := Option.map_eq_some_iff.1 hws
      obtain ⟨vs, rfl, rfl⟩ := Json.canonical_eq_array.1 hcanonical
      obtain ⟨ls, hls, rfl⟩ := map_eq_ok.1 h
      exact ⟨ls, rfl, vs, hv, lapList_iff.1 hls⟩
    · cases h
  · rintro ⟨ls, rfl, vs, hlast, hls⟩
    rw [hlast, Option.map_some, canonical]
    exact map_eq_ok.2 ⟨ls, lapList_iff.2 hls, rfl⟩

/-! ## Frames -/

section Payload

variable {ms written : List (String × Json)} {k : String} {f : Frame}

theorem tells_of_ofMembers (h : Stands ms written) (hf : ofMembers k ms = .ok f) :
    f.kind = k ∧ Tells written f := by
  rw [ofMembers] at hf
  split at hf
  · rename_i hk
    obtain ⟨s, hs, rfl⟩ := map_eq_ok.1 hf
    exact ⟨hk.symm, (ofMembers_status h).1 hs⟩
  · rename_i hstatus
    split at hf
    · rename_i hk
      obtain ⟨l, number, rfl, hl, hnumber⟩ := (ofMembers_numbered h).1 hf
      exact ⟨hk.symm, hl, hnumber⟩
    · rename_i hlap
      split at hf
      · rename_i hk
        obtain ⟨ls, rfl, hls⟩ := (lapsOf_iff h).1 hf
        exact ⟨hk.symm, hls⟩
      · rename_i hlaps
        split at hf
        · rename_i hk
          obtain ⟨r, hr, rfl⟩ := map_eq_ok.1 hf
          exact ⟨hk.symm, (ofMembers_flag h).1 hr⟩
        · rename_i hflag
          cases hf
          refine ⟨rfl, ?_⟩
          simp [Tells, hstatus, hlap, hlaps, hflag]

theorem ofMembers_of_tells (h : Stands ms written) (hf : Tells written f) :
    ofMembers f.kind ms = .ok f := by
  cases f with
  | status s =>
    rw [kind, ofMembers, if_pos rfl]
    exact map_eq_ok.2 ⟨s, (ofMembers_status h).2 hf, rfl⟩
  | lap l number =>
    rw [kind, ofMembers, if_neg (by decide), if_pos rfl]
    exact (ofMembers_numbered h).2 ⟨l, number, rfl, hf⟩
  | laps ls =>
    rw [kind, ofMembers, if_neg (by decide), if_neg (by decide), if_pos rfl]
    exact (lapsOf_iff h).2 ⟨ls, rfl, hf⟩
  | flag r =>
    rw [kind, ofMembers, if_neg (by decide), if_neg (by decide), if_neg (by decide), if_pos rfl]
    exact map_eq_ok.2 ⟨r, (ofMembers_flag h).2 hf, rfl⟩
  | unknown k =>
    obtain ⟨hstatus, hlap, hlaps, hflag⟩ :
        k ≠ "status" ∧ k ≠ "lap" ∧ k ≠ "laps" ∧ k ≠ "race_state" := by simpa [Tells] using hf
    rw [kind, ofMembers, if_neg hstatus, if_neg hlap, if_neg hlaps, if_neg hflag]

end Payload

/-- The frame of the canonical form of a tree. -/
theorem ofTree_told {v : Json} {f : Frame} :
    ofTree (canonical v) = .ok f ↔ ∃ ms, v = .object ms ∧ Told ms f := by
  constructor
  · intro h
    rw [ofTree.eq_def] at h
    split at h
    · rename_i ms hms
      obtain ⟨written, rfl, rfl⟩ := Json.canonical_eq_object.1 hms
      have hstands := stands_arrange written
      rw [Json.member?_canonicalMembers] at h
      split at h
      · cases h
      · rename_i k hk
        obtain ⟨v, hv, hcanonical⟩ := Option.map_eq_some_iff.1 hk
        obtain rfl := Json.canonical_eq_text.1 hcanonical
        split at h
        · rename_i f' hf'
          cases h
          obtain ⟨rfl, htells⟩ := tells_of_ofMembers hstands.untyped hf'
          exact ⟨written, rfl, hv, htells⟩
        · cases h
      · cases h
    · cases h
  · rintro ⟨written, rfl, htype, htells⟩
    have htext : canonical (.text f.kind) = .text f.kind := Json.canonical_eq_text.2 rfl
    rw [canonical, ofTree, Json.member?_canonicalMembers, htype, Option.map_some, htext]
    dsimp only
    rw [ofMembers_of_tells (stands_arrange written).untyped htells]

/-- A text is read just if the grammar has it as an object that tells a frame. -/
theorem read_told {raw : List Char} {f : Frame} :
    read raw = .ok f ↔ ∃ ms, Json.Grammar.Document raw (.object ms) ∧ Told ms f := by
  rw [read, Json.parse]
  constructor
  · intro h
    cases hdocument : Json.document raw with
    | error e =>
      rw [hdocument] at h
      cases h
    | ok v =>
      rw [hdocument] at h
      obtain ⟨ms, rfl, htold⟩ := ofTree_told.1 h
      exact ⟨ms, Json.document_eq_ok.1 hdocument, htold⟩
  · rintro ⟨ms, hdocument, htold⟩
    rw [Json.document_eq_ok.2 hdocument]
    exact ofTree_told.2 ⟨ms, rfl, htold⟩

/-- **Which texts are decoded, and to what**: those that the grammar of JSON has as an object whose
members tell a frame, to that frame.  Every other text is refused with a fault of decoding. -/
theorem decode_told (raw : String) :
    (∀ f, decode raw = .ok f ↔
      ∃ ms, Json.Grammar.Document raw.toList (.object ms) ∧ Told ms f) ∧
    ∀ e, decode raw = .error e → ∃ details source, e = .decode details source := by
  constructor
  · intro f
    rw [← read_told, decode]
    cases read raw.toList with
    | error r => exact ⟨nofun, nofun⟩
    | ok f' => exact ⟨fun h => by cases h; rfl, fun h => by cases h; rfl⟩
  · intro e h
    rw [decode] at h
    split at h
    · cases h
    · rename_i r hr
      cases h
      cases r with
      | refused refusal => exact ⟨_, _, rfl⟩
      | notAnObject => exact ⟨_, _, rfl⟩
      | untyped => exact ⟨_, _, rfl⟩
      | typeNotText found => exact ⟨_, _, rfl⟩

end Frame
end RaceLink
