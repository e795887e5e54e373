import RaceLink.Proofs.Json.Writing
import RaceLink.Proofs.Race.Decoding

/-!
# Frames as the timer writes them

The documented form of a frame: what is written for its value, with the type beside it.  The order
of the members means nothing, nor do blanks, nor members under names that are not known; and the
peak of a lap goes by either of two names.

* `Json.Mixed` — the members of a record in any order, with others among them.
* `Lap.Written`, `Frame.Written` — the members that may be written for a lap and for a frame.
* `Frame.told_of_written` — they tell the frame for which they are written.
* `Frame.decode_written` — **decoding undoes writing**.
-/

set_option autoImplicit false

namespace RaceLink

namespace Json

/-- The members of an object. -/
def membersOf : Json → List (String × Json)
  | .object ms => ms
  | _ => []

/-- Some members in any order, with others among them whose names are not known. -/
def Mixed (known : List String) (written ms : List (String × Json)) : Prop :=
  ∃ others, ms.Perm (written ++ others) ∧ ∀ m ∈ others, m.1 ∉ known

/-- A member is found under its name if no other value stands there. -/
theorem member?_of_only {name : String} {v : Json} {ms : List (String × Json)} (hv : (name, v) ∈ ms)
    (honly : ∀ w, (name, w) ∈ ms → w = v) : member? name ms = some v := by
  induction ms with
  | nil => cases hv
  | cons m ms ih =>
    obtain ⟨n, w⟩ := m
    rw [member?_cons]
    split
    · rename_i hn
      have hn : n = name := hn
      exact congrArg some (honly w (hn ▸ List.mem_cons_self))
    · rename_i hn
      refine ih ?_ fun u hu => honly u (List.mem_cons_of_mem _ hu)
      rcases List.mem_cons.1 hv with he | hv
      · exact absurd (congrArg Prod.fst he).symm hn
      · exact hv

theorem mem_of_member? {name : String} {v : Json} {ms : List (String × Json)}
    (h : member? name ms = some v) : (name, v) ∈ ms := by
  induction ms with
  | nil => cases h
  | cons m ms ih =>
    rw [member?_cons] at h
    split at h
    · rename_i hn
      cases h
      exact hn ▸ List.mem_cons_self
    · exact List.mem_cons_of_mem _ (ih h)

/-- Some of what is written is mixed with the rest of it, too. -/
theorem Mixed.narrow {known known' : List String} {written part rest ms : List (String × Json)}
    (h : Mixed known written ms) (hperm : written.Perm (part ++ rest))
    (hknown : known' ⊆ known) (hrest : ∀ name ∈ rest.map (·.1), name ∉ known') :
    Mixed known' part ms := by
  obtain ⟨others, hms, hothers⟩ := h
  refine ⟨rest ++ others, ?_, fun m hm => ?_⟩
  · rw [← List.append_assoc]
    exact hms.trans (hperm.append_right others)
  · rcases List.mem_append.1 hm with hm | hm
    · exact hrest m.1 (List.mem_map_of_mem hm)
    · exact fun hname => hothers m hm (hknown hname)

/-- Whatever the order and whatever else is written: under a known name stands what was written
there. -/
theorem Mixed.last? {known : List String} {written ms : List (String × Json)}
    (h : Mixed known written ms) (hnodup : (written.map (·.1)).Nodup) {name : String}
    (hname : name ∈ known) : last? name ms = member? name written := by
  obtain ⟨others, hperm, hothers⟩ := h
  have hmem : ∀ v, (name, v) ∈ ms.reverse ↔ (name, v) ∈ written := by
    intro v
    rw [List.mem_reverse, hperm.mem_iff, List.mem_append]
    exact or_iff_left fun hv => hothers _ hv hname
  rw [Json.last?]
  cases hwritten : member? name written with
  | none =>
    rw [member?_eq_none]
    intro hin
    obtain ⟨⟨n, v⟩, hv, hn⟩ := List.mem_map.1 hin
    cases (show n = name from hn)
    exact member?_eq_none.1 hwritten (List.mem_map.2 ⟨_, (hmem v).1 hv, rfl⟩)
  | some v =>
    have hv := mem_of_member? hwritten
    refine member?_of_only ((hmem v).2 hv) fun w hw => ?_
    have hsame := List.inj_on_of_nodup_map hnodup ((hmem w).1 hw) hv rfl
    exact congrArg Prod.snd hsame

end Json

/-- All names under which a reader of a record looks. -/
def Record.Layout.names {σ α : Type} (l : Record.Layout σ α) : List String :=
  l.fields.flatMap Record.Slot.names

open Json (Mixed membersOf last? member?)

/-! ## What is written -/

namespace Lap

/-- What is written for a lap, with the peak under either of its names. -/
def spelled (lap : Lap) (otherName : Bool) : List (String × Json) :=
  (membersOf lap.toJson).map fun m =>
    if otherName && m.1 == peakField then (peakOtherName, m.2) else m

/-- The objects that may be written for a lap of a list. -/
inductive Written (lap : Lap) : Json → Prop
  | object {ms : List (String × Json)} (otherName : Bool)
      (members : Mixed layout.names (lap.spelled otherName) ms) : Written lap (.object ms)

end Lap

namespace Frame

/-- The member that tells what kind of frame it is. -/
def typeMember (f : Frame) : String × Json := ("type", .text f.kind)

/-- The member that tells the number of a lap, where it has one. -/
def numberMember (number : Option UInt32) : List (String × Json) :=
  number.toList.map fun n => ("lap_number", Json.word n)

/-- The members of a frame, mixed with others: what is written for its value, and the type. -/
def Typed (known : List String) (written : List (String × Json)) (f : Frame)
    (ms : List (String × Json)) : Prop :=
  Mixed ("type" :: known) (written ++ [typeMember f]) ms

/-- The members that may be written for a frame: what is written for its value, the type, and others
whose names are not known. -/
inductive Written : Frame → List (String × Json) → Prop
  | status {s : Status} {ms : List (String × Json)}
      (members : Typed Status.layout.names (membersOf s.toJson) (.status s) ms) :
      Written (.status s) ms
  | lap {l : Lap} {number : Option UInt32} {ms : List (String × Json)} (otherName : Bool)
      (counted : ∀ n ∈ number, 1 ≤ n) (members : Typed lapLayout.names
        (l.spelled otherName ++ numberMember number) (.lap l number) ms) :
      Written (.lap l number) ms
  | laps {ls : List Lap} {vs : List Json} {ms : List (String × Json)}
      (records : List.Forall₂ Lap.Written ls vs)
      (members : Typed ["laps"] [("laps", .array vs)] (.laps ls) ms) : Written (.laps ls) ms
  | flag {r : RaceFlag} {ms : List (String × Json)}
      (members : Typed RaceFlag.layout.names (membersOf r.toJson) (.flag r) ms) :
      Written (.flag r) ms

/-! ## What it tells -/

section Tells

variable {ms : List (String × Json)}

theorem Typed.type {known : List String} {written : List (String × Json)} {f : Frame}
    (h : Typed known written f ms) (hwritten : ∀ n ∈ written.map (·.1), n ∉ ["type"]) :
    last? "type" ms = some (.text f.kind) := by
  have htype : Mixed ["type"] [typeMember f] ms :=
    h.narrow List.perm_append_comm (by simp) hwritten
  exact htype.last? (List.nodup_singleton _) (List.mem_singleton.2 rfl)

theorem Typed.payload {known : List String} {written : List (String × Json)} {f : Frame}
    (h : Typed known written f ms) (hknown : "type" ∉ known) : Mixed known written ms := by
  refine h.narrow (List.Perm.refl _) (List.subset_cons_self _ _) fun name hname => ?_
  rw [List.mem_singleton.1 hname]
  exact hknown

/-- The members that are written for a lap tell it. -/
theorem tellsLap_of_mixed {l : Lap} {otherName : Bool}
    (members : Mixed Lap.layout.names (l.spelled otherName) ms) : TellsLap ms l := by
  cases otherName with
  | false =>
    have hnodup : ((l.spelled false).map (·.1)).Nodup :=
      show ["lap_time_ms", "rssi_peak"].Nodup by decide
    exact ⟨members.last? hnodup (by decide),
      .inl ⟨members.last? hnodup (by decide), members.last? hnodup (by decide)⟩⟩
  | true =>
    have hnodup : ((l.spelled true).map (·.1)).Nodup :=
      show ["lap_time_ms", "peak_rssi"].Nodup by decide
    exact ⟨members.last? hnodup (by decide),
      .inr ⟨members.last? hnodup (by decide), members.last? hnodup (by decide)⟩⟩

/-- An object that may be written for a lap tells it. -/
theorem isLap_of_written {l : Lap} {v : Json} (h : l.Written v) : IsLap v l := by
  obtain ⟨otherName, members⟩ := h
  exact .named (tellsLap_of_mixed members)

theorem tellsNumber_of_mixed {number : Option UInt32} (counted : ∀ n ∈ number, 1 ≤ n)
    (members : Mixed ["lap_number"] (numberMember number) ms) :
    TellsNumber (last? "lap_number" ms) number := by
  cases number with
  | none =>
    rw [members.last? List.nodup_nil (List.mem_singleton.2 rfl)]
    exact .absent
  | some n =>
    rw [members.last? (List.nodup_singleton _) (List.mem_singleton.2 rfl)]
    exact .place (counted n rfl)

theorem told_status {s : Status}
    (members : Typed Status.layout.names (membersOf s.toJson) (.status s) ms) :
    Told ms (.status s) := by
  have hnames : (membersOf s.toJson).map (·.1) =
      ["current_rssi", "peak_rssi", "lap_count", "crossing"] := rfl
  have hnodup : ((membersOf s.toJson).map (·.1)).Nodup := by
    rw [hnames]
    decide
  have hpayload := members.payload (by decide)
  refine ⟨members.type ?_, ?_⟩
  · rw [hnames]
    decide
  · constructor
    case current => exact .inl (hpayload.last? hnodup (by decide))
    case peak => exact .inl (hpayload.last? hnodup (by decide))
    case lapCount => exact .inl (hpayload.last? hnodup (by decide))
    case crossing => exact .inl (hpayload.last? hnodup (by decide))

theorem names_spelled (l : Lap) (otherName : Bool) :
    (l.spelled otherName).map (·.1) ⊆ Lap.layout.names := by
  cases otherName with
  | false => exact show ["lap_time_ms", "rssi_peak"] ⊆ Lap.layout.names by decide
  | true => exact show ["lap_time_ms", "peak_rssi"] ⊆ Lap.layout.names by decide

theorem names_number (number : Option UInt32) :
    (numberMember number).map (·.1) ⊆ ["lap_number"] := by
  cases number with
  | none => exact List.nil_subset _
  | some n => exact List.Subset.refl _

/-- The names of a lap, of its number and of the type keep out of each other's way. -/
theorem names_apart : ∀ n ∈ Lap.layout.names, n ∉ ["type"] ∧ n ∉ ["lap_number"] := by decide

theorem told_lap {l : Lap} {number : Option UInt32} {otherName : Bool}
    (counted : ∀ n ∈ number, 1 ≤ n) (members : Typed lapLayout.names
      (l.spelled otherName ++ numberMember number) (.lap l number) ms) :
    Told ms (.lap l number) := by
  have hspelled := names_spelled l otherName
  have hnumber := names_number number
  have hpayload := members.payload (by decide)
  have hlap : Mixed Lap.layout.names (l.spelled otherName) ms := by
    refine hpayload.narrow (List.Perm.refl _) (by decide) fun n hn => ?_
    rw [List.mem_singleton.1 (hnumber hn)]
    decide
  refine ⟨members.type fun n hn => ?_, tellsLap_of_mixed hlap, tellsNumber_of_mixed counted ?_⟩
  · rw [List.map_append, List.mem_append] at hn
    rcases hn with hn | hn
    · exact (names_apart n (hspelled hn)).1
    · rw [List.mem_singleton.1 (hnumber hn)]
      decide
  · refine hpayload.narrow List.perm_append_comm (by decide) fun n hn => ?_
    exact (names_apart n (hspelled hn)).2

theorem told_laps {ls : List Lap} {vs : List Json} (records : List.Forall₂ Lap.Written ls vs)
    (members : Typed ["laps"] [("laps", .array vs)] (.laps ls) ms) : Told ms (.laps ls) := by
  have hpayload := members.payload (by decide)
  refine ⟨members.type (show ∀ n ∈ ["laps"], _ by decide), vs, ?_, ?_⟩
  · exact hpayload.last? (List.nodup_singleton _) (List.mem_singleton.2 rfl)
  · exact records.flip.imp fun _ _ => isLap_of_written

theorem told_flag {r : RaceFlag}
    (members : Typed RaceFlag.layout.names (membersOf r.toJson) (.flag r) ms) :
    Told ms (.flag r) := by
  have hpayload := members.payload (by decide)
  refine ⟨members.type (show ∀ n ∈ ["active"], _ by decide), ?_⟩
  exact hpayload.last? (List.nodup_singleton _) (by decide)

/-- Members that may be written for a frame tell it. -/
theorem told_of_written {f : Frame} (h : Written f ms) : Told ms f := by
  cases h with
  | status members => exact told_status members
  | lap otherName counted members => exact told_lap counted members
  | laps records members => exact told_laps records members
  | flag members => exact told_flag members

end Tells

/-! ## Decoding -/

/-- **Decoding undoes writing**: a text that has the members which may be written for a frame, laid
out in any way that the grammar of JSON allows, is decoded to that frame.  The text without blanks
is one of these, whatever members stand beside those of the frame, as long as they are not nested
too deeply. -/
theorem decode_written {f : Frame} {ms : List (String × Json)} (h : Written f ms) :
    (∀ raw : String, Json.Grammar.Document raw.toList (.object ms) → decode raw = .ok f) ∧
    (Json.Plain Json.Read.deepest (.object ms) → decode (Json.object ms).render = .ok f) := by
  have hdecode : ∀ raw : String, Json.Grammar.Document raw.toList (.object ms) →
      decode raw = .ok f := fun raw hraw => by
    rw [decode, read_told.2 ⟨ms, hraw, told_of_written h⟩]
  refine ⟨hdecode, fun hplain => hdecode _ ?_⟩
  exact Json.document_eq_ok.1 (Json.document_render hplain)

/-- The members of a flag: the type comes last, and a member that is not known holds an object with
a type of its own. -/
def untidyMembers : List (String × Json) :=
  [("a", .object [("type", .null)]), ("active", .flag true), ("type", .text "race_state")]

/-- A text with these members, and with blanks among them. -/
def untidyText : String :=
  "\x7b\"a\":\x7b\"type\":null\x7d,\n \"active\" : true ,\"type\":\"race_state\"\x7d "

theorem decode_written_untidy :
    Written (.flag ⟨true⟩) untidyMembers ∧
    Json.Grammar.Document untidyText.toList (.object untidyMembers) ∧
    decode untidyText = .ok (.flag ⟨true⟩) := by
  have hwritten : Written (.flag ⟨true⟩) untidyMembers :=
    .flag ⟨[("a", .object [("type", .null)])], (List.perm_append_singleton _ _).symm, by decide⟩
  have hdocument : Json.Grammar.Document untidyText.toList (.object untidyMembers) :=
    Json.document_eq_ok.1 (by cbv)
  exact ⟨hwritten, hdocument, (decode_written hwritten).1 _ hdocument⟩

end Frame
end RaceLink
