/-!
# Values of the wrong shape

A value can be well formed as text and still not be what a reader asked for.  `Mismatch` lists the
ways in which that happens and `Mismatch.message` words them.  The wording is shared by every
format; a format only says how it names an absent value and how it writes a floating point number.

* `Found` — what was there, in the terms a message uses.
* `Mismatch` — why it would not do.
-/

set_option autoImplicit false

namespace RaceLink
namespace Record

/-- What a reader found, as far as a message tells it. -/
inductive Found where
  | nothing
  | flag (b : Bool)
  | whole (n : Int)
  /-- An integer too large for sixty-four bits, with the width it was read at. -/
  | wide (n : Int) (width : String)
  | real (x : Float)
  | text (shown : String)
  | sequence
  | map
  | bareVariant

/-- Why a value is not of the shape that was asked for. -/
inductive Mismatch where
  /-- A value of another kind. -/
  | wrongKind (found : Found) (expected : String)
  /-- A value of the right kind but out of range. -/
  | wrongValue (found : Found) (expected : String)
  /-- A sequence with too few or too many elements. -/
  | wrongLength (count : Nat) (expected : String)
  | missing (field : String)
  | duplicate (field : String)
  | unknownField (name : String) (known : List String)
  | unknownVariant (name : String) (known : List String)

/-- What a format decides about the wording of a mismatch. -/
structure Wording where
  /-- The name of the absent value. -/
  nothing : String
  /-- The text of a floating point number. -/
  real : Float → String

/-- The text that stands for what was found. -/
def Found.describe (w : Wording) : Found → String
  | .nothing => w.nothing
  | .flag b => s!"boolean `{b}`"
  | .whole n => s!"integer `{n}`"
  | .wide n width => s!"integer `{n}` as {width}"
  | .real x => s!"floating point `{w.real x}`"
  | .text shown => s!"string {shown}"
  | .sequence => "sequence"
  | .map => "map"
  | .bareVariant => "unit variant"

/-- A list of names as a message offers it. -/
def offer (names : List String) : String :=
  ", ".intercalate (names.map fun n => s!"`{n}`")

/-- The text of a mismatch. -/
def Mismatch.message (w : Wording) : Mismatch → String
  | .wrongKind found expected => s!"invalid type: {found.describe w}, expected {expected}"
  | .wrongValue found expected => s!"invalid value: {found.describe w}, expected {expected}"
  | .wrongLength count expected => s!"invalid length {count}, expected {expected}"
  | .missing field => s!"missing field `{field}`"
  | .duplicate field => s!"duplicate field `{field}`"
  | .unknownField name known => s!"unknown field `{name}`, expected one of {offer known}"
  | .unknownVariant name known => s!"unknown variant `{name}`, expected one of {offer known}"

end Record
end RaceLink
