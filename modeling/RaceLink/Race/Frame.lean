import RaceLink.Fault
import RaceLink.Race.Flag
import RaceLink.Race.Lap
import RaceLink.Race.Status

/-!
# Frames

What the timer sends: JSON objects whose member `type` tells the kind.  A kind that is not known is
no fault, so that newer timers can say more than this library understands.

* `Frame` — a message of the timer.
* `Frame.Reject` — why a text is no frame.
* `Frame.read` — the frame of a text.
* `Frame.decode` — the same, with the fault that callers see.
-/

set_option autoImplicit false

namespace RaceLink

/-- A message of the timer. -/
inductive Frame where
  | status (s : Status)
  /-- One lap; the number, where there is one, is its place in the list, counted from one. -/
  | lap (lap : Lap) (number : Option UInt32)
  /-- The whole list of laps. -/
  | laps (laps : List Lap)
  | flag (r : RaceFlag)
  | unknown (kind : String)
  deriving DecidableEq, Repr

namespace Frame

/-- The kind of a frame, as `type` tells it. -/
def kind : Frame → String
  | status _ => "status"
  | lap _ _ => "lap"
  | laps _ => "laps"
  | flag _ => "race_state"
  | unknown k => k

/-- Why a text is no frame. -/
inductive Reject where
  | refused (r : Json.Refusal)
  | notAnObject
  | untyped
  | typeNotText (found : Json)

/-- The text of a rejection of `raw`. -/
def Reject.message (raw : List Char) : Reject → String
  | .refused r => r.message raw
  | .notAnObject => "expected a JSON object"
  | .untyped => "missing `type` field"
  | .typeNotText found => s!"`type` must be a string, got {found.render}"

/-- The fault of a rejection of `raw`; only that of the JSON itself has a cause beneath it. -/
def Reject.fault (raw : List Char) (r : Reject) : Fault :=
  match r with
  | .refused refusal => .decode (refusal.message raw) (some (refusal.message raw))
  | r => .decode (r.message raw) none

open Record (Mismatch Slot Layout)

/-! ## Payloads -/

/-- A numbered lap of which some fields have been read. -/
structure LapDraft where
  lap : Lap.Draft
  number : Option (Option Nat)

/-- A field of a lap as a field of a numbered lap. -/
def lapField (f : Slot Lap.Draft) : Slot LapDraft :=
  ⟨f.name, f.otherName, f.kind, fun d => f.filled d.lap, fun d v => { d with lap := f.put d.lap v }⟩

/-- The frame of a numbered lap; the number zero says as little as none. -/
def finishLap (d : LapDraft) : Except Mismatch Frame := do
  let l ← Lap.finish d.lap
  let number := d.number.getD none
  .ok (lap l ((number.filter (0 < ·)).map UInt32.ofNat))

/-- The layout of the message that tells one lap. -/
def lapLayout : Layout LapDraft Frame :=
  { name := "struct LapPayload"
    blank := ⟨⟨none, none⟩, none⟩
    fields := Lap.fields.map lapField ++
      [⟨"lap_number", none, .optionalWord .u32, fun d => d.number.isSome,
        fun d n => { d with number := some n }⟩]
    finish := finishLap
    closed := false
    lenient := false }

/-- The laps of a list of trees. -/
def lapList : List Json → Except Mismatch (List Lap)
  | [] => .ok []
  | v :: rest => do
    let l ← Json.ofTree Lap.layout v
    let ls ← lapList rest
    .ok (l :: ls)

/-- The frame of the message that tells all laps. -/
def lapsOf (members : List (String × Json)) : Except Mismatch Frame :=
  match Json.member? "laps" members with
  | none => .error (.missing "laps")
  | some (.array vs) => (lapList vs).map laps
  | some v => .error (.wrongKind v.found "a sequence")

/-- The frame of a kind, from the members beside `type`. -/
def ofMembers (kind : String) (members : List (String × Json)) : Except Mismatch Frame :=
  if kind = "status" then (Json.ofMembers Status.layout members).map status
  else if kind = "lap" then Json.ofMembers lapLayout members
  else if kind = "laps" then lapsOf members
  else if kind = "race_state" then (Json.ofMembers RaceFlag.layout members).map flag
  else .ok (unknown kind)

/-! ## Texts -/

/-- The frame of a canonical tree. -/
def ofTree : Json → Except Reject Frame
  | .object members =>
    match Json.member? "type" members with
    | none => .error .untyped
    | some (.text kind) =>
      match ofMembers kind (members.filter (·.1 != "type")) with
      | .ok f => .ok f
      | .error m => .error (.refused ⟨.mismatch m, none⟩)
    | some v => .error (.typeNotText v)
  | _ => .error .notAnObject

/-- The frame of a text. -/
def read (raw : List Char) : Except Reject Frame :=
  match Json.parse raw with
  | .error r => .error (.refused r)
  | .ok v => ofTree v

/-- The frame of a text, or the fault of a text that is none. -/
def decode (raw : String) : Except Fault Frame :=
  match read raw.toList with
  | .ok f => .ok f
  | .error r => .error (r.fault raw.toList)

end Frame
end RaceLink
