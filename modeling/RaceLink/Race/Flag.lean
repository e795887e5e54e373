import RaceLink.Json.Record
import RaceLink.Json.Printer

/-!
# The race flag

Whether a race is running.
-/

set_option autoImplicit false

namespace RaceLink

/-- Whether a race is running. -/
structure RaceFlag where
  active : Bool
  deriving DecidableEq, Repr, Inhabited

namespace RaceFlag

/-- A flag of which the one field may have been read. -/
structure Draft where
  active : Option Bool

/-- The one field of a flag. -/
def fields : List (Record.Slot Draft) :=
  [⟨"active", none, .flag, fun d => d.active.isSome, fun _ b => ⟨some b⟩⟩]

/-- A flag whose field has been read. -/
def finish (d : Draft) : Except Record.Mismatch RaceFlag :=
  match d.active with
  | none => .error (.missing "active")
  | some b => .ok ⟨b⟩

/-- The layout of a flag. -/
def layout : Record.Layout Draft RaceFlag :=
  { name := "struct RaceState"
    blank := ⟨none⟩
    fields := fields
    finish := finish
    closed := false
    lenient := false }

/-- The tree that is written for a flag. -/
def toJson (r : RaceFlag) : Json := .object [("active", .flag r.active)]

end RaceFlag
end RaceLink
