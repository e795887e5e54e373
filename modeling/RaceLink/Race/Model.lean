import RaceLink.Race.Frame

/-!
# The model of a race

What a client believes about the timer: the last status, the laps in order and the race flag.  It
is changed by frames, one after the other, and by a local reset.

* `Model.apply` — takes a frame and tells which part changed, if any did.
* `Model.reset` — forgets the laps.
* `Model.replay` — the model after a list of frames.
* `Model.best?`, `Model.lastTime?`, `Model.rows` — what a display shows of it.

A lap with a number that is within the list takes that place; any other lap is added at the end.
-/

set_option autoImplicit false

namespace RaceLink

/-- A part of the model that changed. -/
inductive Change where
  | status
  | laps
  | flag
  deriving DecidableEq, Repr

/-- What a client believes about the timer. -/
structure Model where
  status : Option Status
  laps : List Lap
  flag : RaceFlag
  deriving DecidableEq, Repr

namespace Model

/-- The model before anything has been heard. -/
def empty : Model := ⟨none, [], ⟨false⟩⟩

/-! ## Changes -/

/-- Adds a lap, or puts it in its place if its number is within the list. -/
def applyLap (m : Model) (lap : Lap) (number : Option UInt32) : Model × Option Change :=
  let place := (number.map UInt32.toNat).getD 0
  if 0 < place ∧ place ≤ m.laps.length then
    if m.laps[place - 1]? = some lap then (m, none)
    else ({ m with laps := m.laps.set (place - 1) lap }, some .laps)
  else ({ m with laps := m.laps ++ [lap] }, some .laps)

/-- The model after a frame, and the part of it that changed. -/
def apply (m : Model) : Frame → Model × Option Change
  | .status s => ({ m with status := some s }, some .status)
  | .lap lap number => m.applyLap lap number
  | .laps laps => if m.laps = laps then (m, none) else ({ m with laps := laps }, some .laps)
  | .flag r => ({ m with flag := r }, some .flag)
  | .unknown _ => (m, none)

/-- The model without its laps. -/
def reset (m : Model) : Model × Option Change :=
  if m.laps = [] then (m, none) else ({ m with laps := [] }, some .laps)

/-- The model after a list of frames. -/
def replay (frames : List Frame) : Model :=
  frames.foldl (fun m f => (m.apply f).1) empty

/-! ## Views -/

/-- The faster of two laps with their places; of equal ones the first. -/
def faster (a b : Nat × Lap) : Nat × Lap := if b.2.time < a.2.time then b else a

/-- The fastest of the laps that have a time, with its place counted from `place`. -/
def bestFrom : Nat → List Lap → Option (Nat × Lap)
  | _, [] => none
  | place, lap :: rest =>
    if 0 < lap.time then
      match bestFrom (place + 1) rest with
      | none => some (place, lap)
      | some b => some (faster (place, lap) b)
    else bestFrom (place + 1) rest

/-- The fastest of the laps that have a time, with its place in the list. -/
def best? (m : Model) : Option (Nat × Lap) := bestFrom 0 m.laps

/-- The time of the last lap that has one. -/
def lastTime? (m : Model) : Option UInt32 := m.laps.reverse.findSome? Lap.time?

/-- A line of the lap table. -/
structure Row where
  number : Nat
  lap : Lap
  best : Bool
  deriving DecidableEq, Repr

/-- The lines of the laps, numbered from `number`. -/
def rowsFrom (best : Option Nat) : Nat → List Lap → List Row
  | _, [] => []
  | number, lap :: rest =>
    ⟨number, lap, best == some (number - 1)⟩ :: rowsFrom best (number + 1) rest

/-- The lap table, newest lap first. -/
def rows (m : Model) : List Row := (rowsFrom (m.best?.map (·.1)) 1 m.laps).reverse

end Model
end RaceLink
