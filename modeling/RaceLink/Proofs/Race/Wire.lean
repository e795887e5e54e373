import RaceLink.Link.Turn
import RaceLink.Proofs.Json.Writing
import RaceLink.Race.Rate
import RaceLink.Settings.Basic

/-!
# The wire

Everything that is written for the timer, for the user's settings or for those who watch is read
back as what it was.

* `Lap.roundTrips`, `Status.roundTrips`, `RaceFlag.roundTrips`, `Settings.roundTrips` — records.
* `LinkState.roundTrips`, `Rate.roundTrips`, `SessionId.roundTrips` — choices and numbers.
* `Command.roundTrips` — commands, which are read member by member.
* `Command.document_text` — the text of a command is one flat object that holds its name.
* `wire_round_trips` — **all of these**, and that no two commands have the same text.
-/

set_option autoImplicit false

namespace RaceLink

open Json (RoundTrips Fills KindFits)
open Json.Read (Takes wordLimit whole_of_takes takes_record takes_wholeWord)

/-! ## Numbers -/

theorem fits_u32 (n : UInt32) : KindFits (.word .u32) n.toNat :=
  ⟨decide_eq_true n.toNat_lt, Nat.lt_trans n.toNat_lt (by decide)⟩

theorem fits_u64 (n : UInt64) : KindFits (.word .u64) n.toNat :=
  ⟨decide_eq_true n.toNat_lt, n.toNat_lt⟩

theorem fits_count (n : UInt64) : KindFits (.word .count) n.toNat :=
  ⟨decide_eq_true n.toNat_lt, n.toNat_lt⟩

/-! ## Records -/

namespace Lap

theorem fills (lap : Lap) : Fills layout layout.blank
    [(timeField, .number (.natural lap.time.toNat)), (peakField, .number (.natural lap.peak.toNat))]
    ⟨some lap.time.toNat, some lap.peak.toNat⟩ :=
  .next (f := fields[0]) (by rfl) rfl (fits_u32 lap.time)
    (.next (f := fields[1]) (by rfl) rfl (fits_u32 lap.peak) .none)

theorem roundTrips : RoundTrips (Json.Read.record layout) toJson := by
  intro lap
  refine whole_of_takes (takes_record lap.fills ?_)
  show Except.ok (⟨UInt32.ofNat lap.time.toNat, UInt32.ofNat lap.peak.toNat⟩ : Lap) = _
  rw [UInt32.ofNat_toNat, UInt32.ofNat_toNat]

end Lap

namespace Status

theorem fills (s : Status) : Fills layout layout.blank
    [("current_rssi", .number (.natural s.current.toNat)),
      ("peak_rssi", .number (.natural s.peak.toNat)),
      ("lap_count", .number (.natural s.lapCount.toNat)), ("crossing", .flag s.crossing)]
    ⟨some s.current.toNat, some s.peak.toNat, some s.lapCount.toNat, some s.crossing⟩ :=
  .next (f := fields[0]) (by rfl) rfl (fits_u32 s.current)
    (.next (f := fields[1]) (by rfl) rfl (fits_u32 s.peak)
      (.next (f := fields[2]) (by rfl) rfl (fits_u32 s.lapCount)
        (.next (f := fields[3]) (by rfl) rfl trivial .none)))

theorem roundTrips : RoundTrips (Json.Read.record layout) toJson := by
  intro s
  refine whole_of_takes (takes_record s.fills ?_)
  show Except.ok (⟨UInt32.ofNat s.current.toNat, UInt32.ofNat s.peak.toNat,
    UInt32.ofNat s.lapCount.toNat, s.crossing⟩ : Status) = _
  rw [UInt32.ofNat_toNat, UInt32.ofNat_toNat, UInt32.ofNat_toNat]

end Status

namespace RaceFlag

theorem roundTrips : RoundTrips (Json.Read.record layout) toJson := fun r =>
  have hfills : Fills layout layout.blank [("active", .flag r.active)] ⟨some r.active⟩ :=
    .next (f := fields[0]) (by rfl) rfl trivial .none
  whole_of_takes (takes_record hfills rfl)

end RaceFlag

namespace Settings

theorem fills (s : Settings) : Fills layout layout.blank
    [("endpoint", .text s.endpoint),
      ("reconnect_delay_ms", .number (.natural s.reconnectDelay.toNat)),
      ("connect_timeout_ms", .number (.natural s.connectTimeout.toNat)),
      ("idle_timeout_ms", .number (.natural s.idleTimeout.toNat)),
      ("resync_on_connect", .flag s.resync),
      ("request_buffer", .number (.natural s.requestBuffer.toNat)),
      ("notification_capacity", .number (.natural s.noticeCapacity.toNat))]
    ⟨some s.endpoint, some s.reconnectDelay.toNat, some s.connectTimeout.toNat,
      some s.idleTimeout.toNat, some s.resync, some s.requestBuffer.toNat,
      some s.noticeCapacity.toNat⟩ :=
  .next (f := fields[0]) (by rfl) rfl trivial
    (.next (f := fields[1]) (by rfl) rfl (fits_u64 s.reconnectDelay)
      (.next (f := fields[2]) (by rfl) rfl (fits_u64 s.connectTimeout)
        (.next (f := fields[3]) (by rfl) rfl (fits_u64 s.idleTimeout)
          (.next (f := fields[4]) (by rfl) rfl trivial
            (.next (f := fields[5]) (by rfl) rfl (fits_count s.requestBuffer)
              (.next (f := fields[6]) (by rfl) rfl (fits_count s.noticeCapacity) .none))))))

theorem roundTrips : RoundTrips (Json.Read.record layout) toJson := by
  intro s
  refine whole_of_takes (takes_record s.fills ?_)
  show Except.ok (⟨s.endpoint, UInt64.ofNat s.reconnectDelay.toNat,
    UInt64.ofNat s.connectTimeout.toNat, UInt64.ofNat s.idleTimeout.toNat, s.resync,
    UInt64.ofNat s.requestBuffer.toNat, UInt64.ofNat s.noticeCapacity.toNat⟩ : Settings) = _
  simp only [UInt64.ofNat_toNat]

end Settings

/-! ## Choices and numbers -/

namespace LinkState

theorem ofName_name (s : LinkState) : ofName s.name = s := by
  cases s <;> rfl

theorem name_known (s : LinkState) : names.contains s.name = true := by
  cases s <;> rfl

theorem roundTrips : RoundTrips read toJson := fun s =>
  whole_of_takes (Json.Read.takes_bare s.name_known (congrArg Except.ok s.ofName_name))

end LinkState

namespace SessionId

theorem roundTrips : RoundTrips read toJson := by
  intro id
  refine whole_of_takes fun r hr => ?_
  have hread := takes_wholeWord (fits_u64 id.number).1 (fits_u64 id.number).2 r hr
  rw [toJson, Json.chars, Json.numberChars]
  refine Json.Read.bind_eq_ok.2 ⟨_, hread, ?_⟩
  dsimp only
  rw [UInt64.ofNat_toNat]

end SessionId

namespace Rate

theorem roundTrips : RoundTrips read toJson := by
  intro rate
  cases rate with
  | unlimited => exact whole_of_takes (Json.Read.takes_bare rfl rfl)
  | atMost hertz =>
    refine whole_of_takes (Json.Read.takes_payload rfl fun r hr => ?_)
    have hread := takes_wholeWord (fits_u32 hertz).1 (fits_u32 hertz).2 r hr
    rw [if_neg (by decide), Json.chars, Json.numberChars]
    refine Json.Read.bind_eq_ok.2 ⟨_, hread, ?_⟩
    dsimp only
    rw [UInt32.ofNat_toNat]

end Rate

/-! ## Commands -/

namespace Command

open Json (Plain chars membersFrom)
open Json.Read (bind_eq_ok deepest hasMember_membersFrom quoted_chars colon_iff takes_tree)

theorem name_known (c : Command) : names.contains c.name = true := by
  cases c <;> rfl

theorem fills_parameter {name : String} {w : Record.Word} {l : Record.Layout Draft Command}
    {n : Nat} (hl : l.field? name = some (parameterField name w)) (hblank : l.blank = ⟨none⟩)
    (hn : KindFits (.word w) n) :
    Fills l l.blank [(name, .number (.natural n))] ⟨some n⟩ := by
  rw [hblank]
  exact .next (f := parameterField name w) hl rfl hn .none

/-- A command is made of its name and of the member beside it. -/
theorem ofContent_parameter (c : Command) : ofContent c.name (.members c.parameter) = .ok c := by
  cases c with
  | setFrequency f =>
    have hfits : KindFits (.word .u16) f.toNat :=
      ⟨decide_eq_true f.toNat_lt, Nat.lt_trans f.toNat_lt (by decide)⟩
    refine Json.ofMembers_of_fills (l := frequencyLayout) (fills_parameter (by rfl) rfl hfits) ?_
    show Except.ok (setFrequency (UInt16.ofNat f.toNat)) = _
    rw [UInt16.ofNat_toNat]
  | setThreshold t =>
    have hfits : KindFits (.word .u8) t.toNat :=
      ⟨decide_eq_true t.toNat_lt, Nat.lt_trans t.toNat_lt (by decide)⟩
    refine Json.ofMembers_of_fills (l := thresholdLayout) (fills_parameter (by rfl) rfl hfits) ?_
    show Except.ok (setThreshold (UInt8.ofNat t.toNat)) = _
    rw [UInt8.ofNat_toNat]
  | _ => rfl

/-- A parameter is a number, and its name is not that of the member which holds the name. -/
theorem of_mem_parameter {c : Command} {m : String × Json} (hm : m ∈ c.parameter) :
    m.1 ≠ tag ∧ ∃ n < wordLimit, m.2 = .number (.natural n) := by
  cases c with
  | setFrequency f =>
    rw [List.mem_singleton.1 hm]
    have hname : "frequency" ≠ tag := by decide
    exact ⟨hname, _, Nat.lt_trans f.toNat_lt (by decide), rfl⟩
  | setThreshold t =>
    rw [List.mem_singleton.1 hm]
    have hname : "threshold" ≠ tag := by decide
    exact ⟨hname, _, Nat.lt_trans t.toNat_lt (by decide), rfl⟩
  | _ => cases hm

theorem plain_toJson (c : Command) : Plain deepest c.toJson := by
  refine .object fun m hm => ?_
  rcases List.mem_cons.1 hm with rfl | hm
  · exact .text _
  · obtain ⟨-, n, hn, he⟩ := of_mem_parameter hm
    rw [he]
    exact .natural hn

/-- Behind the name all members are kept. -/
theorem membersWithin_membersFrom {n : String} {ms : List (String × Json)}
    (h : ∀ m ∈ ms, m.1 ≠ tag ∧ Plain (deepest - 1) m.2) {steps : Nat} (hsteps : ms.length < steps)
    (r : List Char) : membersWithin steps false (some n) (membersFrom false ms ++ r) =
      .ok ((some n, ms), '\x7d' :: r) := by
  induction ms generalizing steps with
  | nil =>
    obtain ⟨steps, rfl⟩ := Nat.exists_eq_succ_of_ne_zero (Nat.ne_of_gt hsteps)
    rw [membersWithin, membersFrom]
    exact bind_eq_ok.2 ⟨_, Json.Read.hasMember_false.2 ⟨r, rfl, .none⟩, rfl⟩
  | cons m ms ih =>
    obtain ⟨key, v⟩ := m
    obtain ⟨hkey, hv⟩ := h (key, v) List.mem_cons_self
    obtain ⟨steps, rfl⟩ := Nat.exists_eq_succ_of_ne_zero (Nat.ne_of_gt (Nat.zero_lt_of_lt hsteps))
    have hrest := ih (fun m hm => h m (List.mem_cons_of_mem _ hm)) (Nat.lt_of_succ_lt_succ hsteps)
    rw [membersWithin, Json.membersFrom_cons]
    refine bind_eq_ok.2 ⟨_, hasMember_membersFrom false _, ?_⟩
    refine bind_eq_ok.2 ⟨_, quoted_chars key _, ?_⟩
    dsimp only
    rw [if_neg hkey]
    refine bind_eq_ok.2 ⟨_, colon_iff.2 .none, ?_⟩
    refine bind_eq_ok.2 ⟨_, takes_tree hv _ (Json.follows_membersFrom ms r), ?_⟩
    exact bind_eq_ok.2 ⟨_, hrest, rfl⟩

/-- The members of a command are its name and its parameter. -/
theorem membersWithin_toJson (c : Command) {steps : Nat} (hsteps : c.parameter.length < steps)
    (r : List Char) :
    membersWithin (steps + 1) true none
        (membersFrom true ((tag, .text c.name) :: c.parameter) ++ r) =
      .ok ((some c.name, c.parameter), '\x7d' :: r) := by
  have hparameter : ∀ m ∈ c.parameter, m.1 ≠ tag ∧ Plain (deepest - 1) m.2 := by
    intro m hm
    obtain ⟨hname, n, hn, he⟩ := of_mem_parameter hm
    exact ⟨hname, he ▸ .natural hn⟩
  rw [membersWithin, Json.membersFrom_cons]
  refine bind_eq_ok.2 ⟨_, hasMember_membersFrom true _, ?_⟩
  refine bind_eq_ok.2 ⟨_, quoted_chars tag _, ?_⟩
  dsimp only
  rw [if_pos rfl]
  refine bind_eq_ok.2 ⟨_, colon_iff.2 .none, ?_⟩
  rw [chars]
  refine bind_eq_ok.2 ⟨_, Json.Read.variant_chars c.name_known _, ?_⟩
  exact membersWithin_membersFrom hparameter hsteps r

theorem takes_read (c : Command) : Takes read (chars c.toJson) c := by
  intro r _
  have hlength := Json.Read.length_membersFrom true ((tag, .text c.name) :: c.parameter)
  have hsteps : c.parameter.length <
      (membersFrom true ((tag, .text c.name) :: c.parameter) ++ r).length := by
    rw [List.length_append]
    rw [List.length_cons] at hlength
    omega
  rw [toJson, chars, Json.memberChars_eq, List.cons_append]
  refine bind_eq_ok.2 ⟨_, c.membersWithin_toJson hsteps r, ?_⟩
  show settled c.name (.members c.parameter) r = _
  rw [settled, c.ofContent_parameter]

theorem roundTrips : RoundTrips read toJson := fun c => whole_of_takes c.takes_read

/-- The text of a command is one flat object: the name, and what stands beside it. -/
theorem document_text (c : Command) :
    Json.document c.text.toList = .ok (.object ((tag, .text c.name) :: c.parameter)) :=
  Json.document_render c.plain_toJson

end Command

/-! ## All together -/

/-- **The wire**: commands, laps, reports, flags, states, identities, rates and settings are read
back from what is written for them.  The text of a command is one flat object that holds the name by
which a client without a session refuses it, and no two commands have the same text. -/
theorem wire_round_trips :
    RoundTrips Command.read Command.toJson ∧
    RoundTrips (Json.Read.record Lap.layout) Lap.toJson ∧
    RoundTrips (Json.Read.record Status.layout) Status.toJson ∧
    RoundTrips (Json.Read.record RaceFlag.layout) RaceFlag.toJson ∧
    RoundTrips LinkState.read LinkState.toJson ∧
    RoundTrips SessionId.read SessionId.toJson ∧
    RoundTrips Rate.read Rate.toJson ∧
    RoundTrips (Json.Read.record Settings.layout) Settings.toJson ∧
    (∀ c : Command,
      c.text = c.toJson.render ∧
      Json.document c.text.toList = .ok (.object ((Command.tag, .text c.name) :: c.parameter)) ∧
      (∀ m ∈ c.parameter, m.1 ≠ Command.tag ∧ ∃ n, m.2 = .number (.natural n)) ∧
      ∀ (s : Link) (id : Nat), (s.decline id (.send c)).log.back? =
        some ⟨s.now, .answered id (.error (.notConnected c.name))⟩) ∧
    Function.Injective Command.text := by
  refine ⟨Command.roundTrips, Lap.roundTrips, Status.roundTrips, RaceFlag.roundTrips,
    LinkState.roundTrips, SessionId.roundTrips, Rate.roundTrips, Settings.roundTrips,
    fun c => ⟨rfl, c.document_text, fun m hm => ?_, fun s id => ?_⟩, Command.roundTrips.injective⟩
  · obtain ⟨hname, n, -, he⟩ := Command.of_mem_parameter hm
    exact ⟨hname, n, he⟩
  · exact Array.back?_push

end RaceLink
