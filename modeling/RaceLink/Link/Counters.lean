import RaceLink.Link.Turn
import RaceLink.Race.Rate
import RaceLink.Word

/-!
# Counters

What a client computes in words: how often it has tried, how many sessions it has had, how many
frames it has taken, where a lap stands in the list, and half of the time that a session may be
silent.

Every operation is checked here, and there is no result as soon as one of them does not fit.  A
machine that checks its arithmetic breaks off at that point, and the client is gone; on a machine
that lets words wrap around it goes on, for nothing that it does depends on what it has counted.

* `Span.half?` — half of a length of time; `Terms.window?` is that of the time of silence.
* `Model.place?` — a lap is added or put in its place, with the index of the place as a word.
* `Counters.after?` — the counters after a deed.
-/

set_option autoImplicit false

namespace RaceLink

/-! ## Lengths of time -/

/-- A length of time: whole seconds, and the nanoseconds beyond them. -/
structure Span where
  seconds : UInt64
  nanoseconds : UInt32
  deriving DecidableEq, Repr

namespace Span

/-- A length of time in nanoseconds. -/
def total (d : Span) : Nat := d.seconds.toNat * Rate.second + d.nanoseconds.toNat

/-- A number of milliseconds as a length of time. -/
def ofMilliseconds? (milliseconds : UInt64) : Option Span := do
  let nanoseconds ← word32? ((milliseconds % 1000).toNat * 1000000)
  some ⟨milliseconds / 1000, nanoseconds⟩

/-- Half of a length of time; the second that is left over is halved as nanoseconds. -/
def half? (d : Span) : Option Span := do
  let second ← word64? ((d.seconds % 2).toNat * Rate.second)
  let left ← word64? (second.toNat + (d.nanoseconds % 2).toNat)
  let nanoseconds ← word32? ((d.nanoseconds / 2).toNat + (left / 2).toNat)
  some ⟨d.seconds / 2, nanoseconds⟩

end Span

/-- Half of the time that a session may be silent. -/
def Terms.window? (t : Terms) : Option Span := do
  let idle ← word64? t.idle
  let d ← Span.ofMilliseconds? idle
  d.half?

/-! ## Places of laps -/

namespace Model

/-- `applyLap`, with the index of the lap computed as a word. -/
def place? (m : Model) (lap : Lap) (number : Option UInt32) : Option (Model × Option Change) :=
  let added : Model × Option Change := ({ m with laps := m.laps ++ [lap] }, some .laps)
  match number.map UInt32.toUInt64 with
  | none => some added
  | some place =>
    if 1 ≤ place ∧ place.toNat ≤ m.laps.length then do
      let index ← less64? place 1
      let held ← m.laps[index.toNat]?
      if held = lap then some (m, none)
      else some ({ m with laps := m.laps.set index.toNat lap }, some .laps)
    else some added

/-- `apply`, with the index of a lap computed as a word. -/
def take? (m : Model) : Frame → Option (Model × Option Change)
  | .lap lap number => m.place? lap number
  | f => some (m.apply f)

end Model

/-! ## Counters -/

/-- What a client counts. -/
structure Counters where
  /-- The attempts since a session was opened last, with the one that is under way. -/
  attempt : UInt32
  sessions : UInt64
  /-- The frames taken on the session that was opened last. -/
  frames : UInt64
  deriving DecidableEq, Repr

namespace Counters

/-- The counters of a client that has just been started. -/
def start : Counters := ⟨0, 0, 0⟩

/-- The counters after a deed. -/
def after? (k : Counters) (s : Link) : Deed → Option Counters
  | .attempt => do
    let attempt ← word32? (k.attempt.toNat + 1)
    some { k with attempt := attempt }
  | .resolve a =>
    if a.ending = .accepted then do
      let sessions ← word64? (k.sessions.toNat + 1)
      let _ ← s.terms.window?
      some ⟨0, sessions, 0⟩
    else some k
  | .read _ text => do
    let frames ← word64? (k.frames.toNat + 1)
    match Frame.decode text with
    | .error _ => some { k with frames := frames }
    | .ok f => do
      let _ ← s.model.take? f
      some { k with frames := frames }
  | _ => some k

end Counters
end RaceLink
