/-!
# The shortest decimal that reads back

A binary fraction `m · 2^q` stands for every real that rounds to it.  Among the decimals in that
interval this module picks one with the fewest digits, and of those the nearest to the value.

* `Binary` — a positive binary fraction with the interval of reals that round to it.
* `Binary.ofFloat?` — the fraction a finite, non-zero float denotes.
* `Decimal.shortest` — the decimal chosen for a fraction: digit counts are tried from one upwards,
  and on the grid of each count only the two neighbours of the value need to be looked at, since a
  grid point lies in the interval only if one of those two does.

All arithmetic is exact, on natural numbers.
-/

set_option autoImplicit false

namespace RaceLink

/-- A positive decimal `digits · 10^exponent`. -/
structure Decimal where
  digits : Nat
  exponent : Int
  deriving DecidableEq, Repr

namespace Decimal

/-- The value `mantissa · 2^exponent`; `halved` tells that the neighbour below is only half a step
away, as it is at the powers of two. -/
structure Binary where
  mantissa : Nat
  exponent : Int
  halved : Bool
  deriving DecidableEq, Repr

/-- Splits the bits of a double into sign and magnitude; `none` for zeros, infinities and NaN. -/
def Binary.ofBits? (bits : UInt64) : Option (Bool × Binary) :=
  let negative := (bits >>> 63) == 1
  let biased := ((bits >>> 52) &&& 0x7ff).toNat
  let fraction := (bits &&& 0xfffffffffffff).toNat
  if biased = 0x7ff then none
  else if biased = 0 then
    if fraction = 0 then none else some (negative, ⟨fraction, -1074, false⟩)
  else
    some (negative,
      ⟨fraction + Nat.pow 2 52, (biased : Int) - 1075, fraction == 0 && decide (1 < biased)⟩)

/-- The fraction a finite, non-zero float denotes, with its sign. -/
def Binary.ofFloat? (x : Float) : Option (Bool × Binary) := Binary.ofBits? x.toBits

/-! ## The interval, over a common denominator

Everything is scaled by `4`, so that the half and quarter steps at the ends are whole numbers. -/

/-- The value and the two ends of its interval as numerators over one denominator. -/
structure Interval where
  value : Nat
  low : Nat
  high : Nat
  denominator : Nat
  /-- Whether the ends themselves round to the value: they do when the mantissa is even. -/
  closed : Bool
  deriving Repr

/-- The interval of reals that round to a fraction. -/
def Binary.interval (b : Binary) : Interval :=
  let scale := Nat.pow 2 b.exponent.toNat
  let below := if b.halved then 1 else 2
  { value := 4 * b.mantissa * scale
    low := (4 * b.mantissa - below) * scale
    high := (4 * b.mantissa + 2) * scale
    denominator := 4 * Nat.pow 2 (-b.exponent).toNat
    closed := b.mantissa % 2 == 0 }

/-- Whether the fraction `num / den` lies in the interval. -/
def Interval.holds (i : Interval) (num den : Nat) : Bool :=
  let n := num * i.denominator
  let low := i.low * den
  let high := i.high * den
  if i.closed then decide (low ≤ n) && decide (n ≤ high) else decide (low < n) && decide (n < high)

/-- The number of decimal digits of a number; zero has one. -/
def digitCount (n : Nat) : Nat := (Nat.toDigits 10 n).length

/-- The exponent `k` of the leading digit of `num / den`: `10^k ≤ num / den < 10^(k+1)`. -/
def leading (num den : Nat) : Int :=
  let guess : Int := (digitCount num : Int) - (digitCount den : Int)
  let reached :=
    if 0 ≤ guess then den * Nat.pow 10 guess.toNat ≤ num
    else den ≤ num * Nat.pow 10 (-guess).toNat
  if reached then guess else guess - 1

/-- A multiple of `10^k` as a fraction. -/
def scaled (n : Nat) (k : Int) : Nat × Nat := (n * Nat.pow 10 k.toNat, Nat.pow 10 (-k).toNat)

/-- The neighbour of the value on the grid of multiples of `10^k` that rounds back to it, if there
is one; of two, the nearer, and of two equally near the even one. -/
def Interval.onGrid (i : Interval) (k : Int) : Option Nat :=
  let unit := scaled 1 k
  let below := i.value * unit.2 / (i.denominator * unit.1)
  let fits (n : Nat) : Bool :=
    let f := scaled n k
    decide (0 < n) && i.holds f.1 f.2
  match fits below, fits (below + 1) with
  | true, false => some below
  | false, true => some (below + 1)
  | false, false => none
  | true, true =>
    -- twice the distance of the value from the lower neighbour, against one step
    let twice := 2 * (i.value * unit.2 - below * i.denominator * unit.1)
    let step := i.denominator * unit.1
    if twice < step then some below
    else if step < twice then some (below + 1)
    else if below % 2 = 0 then some below else some (below + 1)

/-- The number of digits that always suffices to name a double. -/
def mostDigits : Nat := 17

/-- Tries `count` more digit counts, beginning with the grid of multiples of `10^k`. -/
def Interval.search (i : Interval) : Nat → Int → Decimal
  | 0, k => ⟨i.value / i.denominator, k⟩
  | count + 1, k =>
    match i.onGrid k with
    | some n => ⟨n, k⟩
    | none => i.search count (k - 1)

/-- Moves the zeros at the end of the digits into the exponent. -/
def trim : Nat → Decimal → Decimal
  | 0, d => d
  | fuel + 1, d =>
    if d.digits % 10 = 0 && d.digits != 0 then trim fuel ⟨d.digits / 10, d.exponent + 1⟩ else d

/-- The decimal with the fewest digits that reads back as the fraction. -/
def shortest (b : Binary) : Decimal :=
  let i := b.interval
  (i.search mostDigits (leading i.value i.denominator)).trim mostDigits

/-! ## Writing a decimal -/

/-- How a floating point number is written: which leading exponents are written out in full, and
how the texts of special values read. -/
structure Style where
  /-- The least and the greatest leading exponent written without an exponent mark. -/
  positional : Option (Int × Int)
  /-- The least number of digits in a written exponent. -/
  exponentDigits : Nat
  notANumber : String
  infinite : String

/-- Digits without an exponent: a point is always written, with a zero on an empty side. -/
def positional (d : Decimal) : String :=
  let ds := Nat.toDigits 10 d.digits
  let point := (ds.length : Int) + d.exponent
  let text :=
    if 0 ≤ d.exponent then ds ++ List.replicate d.exponent.toNat '0' ++ ['.', '0']
    else if 0 < point then ds.take point.toNat ++ '.' :: ds.drop point.toNat
    else '0' :: '.' :: List.replicate (-point).toNat '0' ++ ds
  String.ofList text

/-- One digit before the point, and the exponent with its sign. -/
def scientific (d : Decimal) (exponentDigits : Nat) : String :=
  let ds := Nat.toDigits 10 d.digits
  let lead := (ds.length : Int) - 1 + d.exponent
  let mantissa :=
    match ds with
    | [] => []
    | [c] => [c]
    | c :: rest => c :: '.' :: rest
  let size := Nat.toDigits 10 lead.natAbs
  let exponent := List.replicate (exponentDigits - size.length) '0' ++ size
  String.ofList (mantissa ++ 'e' :: (if lead < 0 then '-' else '+') :: exponent)

/-- The text of a decimal in a style. -/
def Style.decimal (s : Style) (d : Decimal) : String :=
  match s.positional with
  | none => d.positional
  | some (least, greatest) =>
    let lead := ((Nat.toDigits 10 d.digits).length : Int) - 1 + d.exponent
    if least ≤ lead ∧ lead ≤ greatest then d.positional else d.scientific s.exponentDigits

/-- The text of a float in a style. -/
def Style.text (s : Style) (x : Float) : String :=
  if x.isNaN then s.notANumber
  else
    let negative := (x.toBits >>> 63) == 1
    let sign := if negative then "-" else ""
    if x.isInf then sign ++ s.infinite
    else
      match Binary.ofFloat? x with
      | none => sign ++ "0.0"
      | some (_, b) => sign ++ s.decimal (shortest b)

end Decimal
end RaceLink
