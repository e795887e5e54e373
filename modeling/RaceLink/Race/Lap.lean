import RaceLink.Json.Record
import RaceLink.Json.Printer

/-!
# Laps

One lap as the timer measured it.  A time of zero is a placeholder: a pass that has no lap time,
such as the first crossing of the line.

* `Lap.time?` — the time of a lap that has one.
* `Lap.clock` — a time as minutes, seconds and hundredths, cut off and never rounded.
* `Lap.layout` — the fields of a lap on the wire; the peak goes by either of two names.
-/

set_option autoImplicit false

namespace RaceLink

/-- A lap: its time in milliseconds and the strongest signal during the pass. -/
structure Lap where
  time : UInt32
  peak : UInt32
  deriving DecidableEq, Repr, Inhabited

namespace Lap

/-- The time of a lap, if it has one. -/
def time? (lap : Lap) : Option UInt32 :=
  if 0 < lap.time then some lap.time else none

/-! ## Times as text -/

/-- The last two decimal digits of a number. -/
def twoDigits (n : Nat) : List Char := [Nat.digitChar (n / 10 % 10), Nat.digitChar (n % 10)]

/-- A time in milliseconds as minutes, seconds and hundredths, such as `1:03.41`. -/
def clock (time : UInt32) : String :=
  let ms := time.toNat
  String.ofList
    (Nat.toDigits 10 (ms / 60000) ++ ':' :: twoDigits (ms / 1000 % 60)
      ++ '.' :: twoDigits (ms % 1000 / 10))

/-- The time of a lap as text, if it has one. -/
def clock? (lap : Lap) : Option String := lap.time?.map clock

/-! ## On the wire -/

/-- A lap of which some fields have been read. -/
structure Draft where
  time : Option Nat
  peak : Option Nat

/-- The name of the field that holds the time. -/
def timeField : String := "lap_time_ms"

/-- The name under which the peak is written. -/
def peakField : String := "rssi_peak"

/-- The other name under which the peak is accepted. -/
def peakOtherName : String := "peak_rssi"

/-- The fields of a lap. -/
def fields : List (Record.Slot Draft) :=
  [⟨timeField, none, .word .u32, fun d => d.time.isSome, fun d n => { d with time := some n }⟩,
   ⟨peakField, some peakOtherName, .word .u32, fun d => d.peak.isSome,
    fun d n => { d with peak := some n }⟩]

/-- A lap of which both fields have been read. -/
def finish (d : Draft) : Except Record.Mismatch Lap :=
  match d.time, d.peak with
  | none, _ => .error (.missing timeField)
  | _, none => .error (.missing peakField)
  | some time, some peak => .ok ⟨UInt32.ofNat time, UInt32.ofNat peak⟩

/-- The layout of a lap. -/
def layout : Record.Layout Draft Lap :=
  { name := "struct LapRecord"
    blank := ⟨none, none⟩
    fields := fields
    finish := finish
    closed := false
    lenient := false }

/-- The tree that is written for a lap. -/
def toJson (lap : Lap) : Json :=
  .object [(timeField, .number (.natural lap.time.toNat)),
    (peakField, .number (.natural lap.peak.toNat))]

end Lap
end RaceLink
