import RaceLink.Json.Choice
import RaceLink.Json.Printer

/-!
# Update rates

How often a stream of reports may deliver at most.

* `Rate.interval?` — the time between two deliveries in nanoseconds: the quotient of a second and
  the rate, rounded as floating point arithmetic rounds it and then to the nearest nanosecond.
-/

set_option autoImplicit false

namespace RaceLink

/-- A limit on how often a stream delivers. -/
inductive Rate where
  | unlimited
  | atMost (hertz : UInt32)
  deriving DecidableEq, Repr

namespace Rate

/-- Nanoseconds in a second. -/
def second : Nat := 1000000000

/-- A float between zero and one as a whole number of nanoseconds, ties going to even. -/
def nanoseconds (seconds : Float) : Nat :=
  match Decimal.Binary.ofFloat? seconds with
  | none => 0
  | some (_, b) =>
    let num := b.mantissa * second * Nat.pow 2 b.exponent.toNat
    let den := Nat.pow 2 (-b.exponent).toNat
    let q := num / den
    let twice := 2 * (num % den)
    if twice < den then q
    else if den < twice then q + 1
    else if q % 2 = 0 then q else q + 1

/-- The least time between two deliveries, in nanoseconds. -/
def interval? : Rate → Option Nat
  | unlimited => none
  | atMost hertz =>
    if hertz = 0 then none else some (nanoseconds (1.0 / hertz.toUInt64.toFloat))

/-! ## As text -/

/-- The names of the alternatives. -/
def names : List String := ["Native", "Max"]

/-- Reads a rate. -/
def read : Json.Reader Rate :=
  Json.Read.choice names
    (fun name =>
      if name = "Native" then .ok unlimited
      else Json.Refusal.placeless (.wrongKind .bareVariant "newtype variant"))
    (fun name s =>
      if name = "Native" then do
        let ((), s) ← Json.Read.noPayload s
        .ok (unlimited, s)
      else do
        let (n, s) ← Json.Read.wholeWord .u32 s
        .ok (atMost (UInt32.ofNat n), s))

/-- The tree that is written for a rate. -/
def toJson : Rate → Json
  | unlimited => .text "Native"
  | atMost hertz => .object [("Max", .number (.natural hertz.toNat))]

end Rate
end RaceLink
