import RaceLink.Fault
import RaceLink.Json.Choice
import RaceLink.Json.Printer

/-!
# Commands

What a client can ask of the timer.  On the wire a command is one flat object: the member
`command` holds its name, and a parameter stands beside it.

* `Command.setFrequency?` — the checked way to ask for a frequency.
* `Command.resync` — the questions that open every session.
* `Command.toJson`, `Command.text` — what is sent.
* `Command.ofTree`, `Command.read` — the way back, from a tree and from a text.  The name may stand
  anywhere in the object, so all other members are kept until the whole of it has been seen; of
  these only the parameter is looked at.
-/

set_option autoImplicit false

namespace RaceLink

/-- What a client can ask of the timer. -/
inductive Command where
  | getStatus
  | getLaps
  | startRace
  | stopRace
  | resetRace
  | setFrequency (megahertz : UInt16)
  | setThreshold (level : UInt8)
  deriving DecidableEq, Repr

namespace Command

/-- The name of a command on the wire. -/
def name : Command → String
  | getStatus => "get_status"
  | getLaps => "get_laps"
  | startRace => "start_race"
  | stopRace => "stop_race"
  | resetRace => "reset_race"
  | setFrequency _ => "set_frequency"
  | setThreshold _ => "set_threshold"

/-- The names of all commands. -/
def names : List String :=
  [getStatus.name, getLaps.name, startRace.name, stopRace.name, resetRace.name,
    (setFrequency 0).name, (setThreshold 0).name]

/-- The lowest frequency of the band, in megahertz. -/
def lowestFrequency : UInt16 := 5645

/-- The highest frequency of the band, in megahertz. -/
def highestFrequency : UInt16 := 5945

/-- Whether a frequency lies in the band. -/
def inBand (megahertz : UInt16) : Bool :=
  decide (lowestFrequency ≤ megahertz) && decide (megahertz ≤ highestFrequency)

/-- The command to tune to a frequency of the band; any other is refused. -/
def setFrequency? (megahertz : UInt16) : Except Fault Command :=
  if inBand megahertz then .ok (setFrequency megahertz)
  else
    .error (.invalidParameter "frequency" megahertz.toNat
      s!"must be within {lowestFrequency.toNat}..={highestFrequency.toNat} MHz")

/-- The questions whose answers rebuild the whole state of the timer. -/
def resync : List Command := [getStatus, getLaps]

/-! ## Writing -/

/-- The member that holds the name. -/
def tag : String := "command"

/-- The parameter of a command, as a member. -/
def parameter : Command → List (String × Json)
  | setFrequency f => [("frequency", .number (.natural f.toNat))]
  | setThreshold t => [("threshold", .number (.natural t.toNat))]
  | _ => []

/-- The tree of a command. -/
def toJson (c : Command) : Json := .object ((tag, .text c.name) :: c.parameter)

/-- The text that is sent for a command. -/
def text (c : Command) : String := c.toJson.render

/-! ## Reading -/

open Record (Mismatch Slot Layout)

/-- A command whose parameter may have been read. -/
structure Draft where
  parameter : Option Nat

/-- The field of a parameter. -/
def parameterField (name : String) (w : Record.Word) : Slot Draft :=
  ⟨name, none, .word w, fun d => d.parameter.isSome, fun _ n => ⟨some n⟩⟩

/-- The command of a draft, once its parameter has been read. -/
def finish (name : String) (make : Nat → Command) (d : Draft) : Except Mismatch Command :=
  match d.parameter with
  | none => .error (.missing name)
  | some n => .ok (make n)

/-- The layout of the parameter of `set_frequency`. -/
def frequencyLayout : Layout Draft Command :=
  { name := "struct variant Command::SetFrequency"
    blank := ⟨none⟩
    fields := [parameterField "frequency" .u16]
    finish := finish "frequency" fun n => setFrequency (UInt16.ofNat n)
    closed := false
    lenient := false }

/-- The layout of the parameter of `set_threshold`. -/
def thresholdLayout : Layout Draft Command :=
  { name := "struct variant Command::SetThreshold"
    blank := ⟨none⟩
    fields := [parameterField "threshold" .u8]
    finish := finish "threshold" fun n => setThreshold (UInt8.ofNat n)
    closed := false
    lenient := false }

/-- What stands beside the name of a command: other members, or the rest of a sequence. -/
inductive Content where
  | members (ms : List (String × Json))
  | items (vs : List Json)

/-- A command without a parameter: other members are passed over, further items are not. -/
def plain (c : Command) : Content → Except Mismatch Command
  | .members _ => .ok c
  | .items [] => .ok c
  | .items (v :: vs) => .error (.wrongLength (v :: vs).length "0 elements in sequence")

/-- A command with a parameter. -/
def withParameter (l : Layout Draft Command) : Content → Except Mismatch Command
  | .members ms => Json.ofMembers l ms
  | .items vs => Json.ofItems l (.wrongLength vs.length "1 element in sequence") vs

/-- The command of a known name and what stands beside it. -/
def ofContent (n : String) (content : Content) : Except Mismatch Command :=
  if n = getStatus.name then plain getStatus content
  else if n = getLaps.name then plain getLaps content
  else if n = startRace.name then plain startRace content
  else if n = stopRace.name then plain stopRace content
  else if n = resetRace.name then plain resetRace content
  else if n = (setFrequency 0).name then withParameter frequencyLayout content
  else withParameter thresholdLayout content

/-- The way messages name what a command is read from. -/
def expected : String := "internally tagged enum Command"

/-- The name in a tree. -/
def nameOf : Json → Except Mismatch String
  | .text s => Json.Read.knownVariant names s
  | v => .error (.wrongKind v.found Json.Read.variantExpected)

/-- A command from a canonical tree. -/
def ofTree : Json → Except Mismatch Command
  | .object ms =>
    match Json.member? tag ms with
    | none => .error (.missing tag)
    | some v => do
      let n ← nameOf v
      ofContent n (.members (ms.filter (·.1 != tag)))
  | .array [] => .error (.missing tag)
  | .array (v :: vs) => do
    let n ← nameOf v
    ofContent n (.items vs)
  | v => .error (.wrongKind v.found expected)

open Json (Reader Refusal)
open Json.Read (skipBlanks hasMember hasItem quoted colon variant tree mismatch checked)

/-- Reads the members of a command up to the closing bracket: the name, if it was met, and all
other members in order. -/
def membersWithin : Nat → Bool → Option String → Reader (Option String × List (String × Json))
  | 0, _, _, _ => Refusal.here .endOfObject []
  | steps + 1, first, met, s => do
    let (more, s) ← hasMember first s
    if more then
      let (key, s) ← quoted s
      if key = tag then
        match met with
        | some _ =>
          .error ⟨.mismatch (.duplicate tag),
            some (Text.weight (Json.Read.fieldsWithin.closed '\x7d' s))⟩
        | none =>
          let ((), s) ← colon s
          let (n, s) ← variant names s
          membersWithin steps false (some n) s
      else
        let ((), s) ← colon s
        let (v, s) ← tree (Json.Read.deepest - 1) s
        let ((met, rest), s) ← membersWithin steps false met s
        .ok ((met, (key, v) :: rest), s)
    else .ok ((met, []), s)

/-- The command of what was read; a fault in it has no place, for its text has been left behind. -/
def settled (n : String) (content : Content) : Reader Command := fun s =>
  match ofContent n content with
  | .ok c => .ok (c, s)
  | .error m => Refusal.placeless m

/-- Reads a command. -/
def read : Reader Command := fun s =>
  match skipBlanks s with
  | [] => Refusal.here .endOfValue []
  | '\x7b' :: rest => do
    let ((met, ms), s) ← membersWithin (rest.length + 1) true none rest
    match met with
    | none => mismatch (.missing tag) (s.drop 1)
    | some n => settled n (.members ms) (s.drop 1)
  | '[' :: rest => do
    let (more, s) ← hasItem true rest
    if more then
      let (n, s) ← variant names s
      let (vs, s) ← Json.Read.itemsWithin (tree (Json.Read.deepest - 1)) (s.length + 1) false s
      settled n (.items vs) s
    else mismatch (.missing tag) (s.drop 1)
  | s => Json.Read.misfit expected s

end Command
end RaceLink
