import RaceLink.Json.Record
import RaceLink.Json.Printer

/-!
# Status reports

What the timer's receiver last reported.  A field that a report leaves out counts as zero.

* `Status.fraction` — the signal as a part of full scale, at most one.
* `Status.layout` — the fields of a report on the wire.
-/

set_option autoImplicit false

namespace RaceLink

/-- A report of the timer's receiver. -/
structure Status where
  current : UInt32
  peak : UInt32
  lapCount : UInt32
  crossing : Bool
  deriving DecidableEq, Repr, Inhabited

namespace Status

/-- The signal strength at full scale. -/
def fullScale : UInt32 := 255

/-- A signal strength as a part of full scale, at most one. -/
def fractionOf (signal : UInt32) : Float :=
  let part := signal.toUInt64.toFloat / fullScale.toUInt64.toFloat
  if part < 1.0 then part else 1.0

/-- The signal of a report as a part of full scale. -/
def fraction (s : Status) : Float := fractionOf s.current

/-! ## On the wire -/

/-- A report of which some fields have been read. -/
structure Draft where
  current : Option Nat
  peak : Option Nat
  lapCount : Option Nat
  crossing : Option Bool

/-- The fields of a report. -/
def fields : List (Record.Slot Draft) :=
  [⟨"current_rssi", none, .word .u32, fun d => d.current.isSome,
    fun d n => { d with current := some n }⟩,
   ⟨"peak_rssi", none, .word .u32, fun d => d.peak.isSome, fun d n => { d with peak := some n }⟩,
   ⟨"lap_count", none, .word .u32, fun d => d.lapCount.isSome,
    fun d n => { d with lapCount := some n }⟩,
   ⟨"crossing", none, .flag, fun d => d.crossing.isSome, fun d b => { d with crossing := some b }⟩]

/-- A report in which what was left out is zero. -/
def finish (d : Draft) : Status :=
  ⟨UInt32.ofNat (d.current.getD 0), UInt32.ofNat (d.peak.getD 0),
    UInt32.ofNat (d.lapCount.getD 0), d.crossing.getD false⟩

/-- The layout of a report. -/
def layout : Record.Layout Draft Status :=
  { name := "struct StatusSnapshot"
    blank := ⟨none, none, none, none⟩
    fields := fields
    finish := fun d => .ok (finish d)
    closed := false
    lenient := true }

/-- The tree that is written for a report. -/
def toJson (s : Status) : Json :=
  .object [("current_rssi", .number (.natural s.current.toNat)),
    ("peak_rssi", .number (.natural s.peak.toNat)),
    ("lap_count", .number (.natural s.lapCount.toNat)), ("crossing", .flag s.crossing)]

end Status
end RaceLink
