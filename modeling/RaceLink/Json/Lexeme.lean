import RaceLink.Json.Refusal

/-!
# The words of a JSON text

Readers for the parts a text is made of, each on the list of unread characters.

* `skipBlanks` — the four blank characters.
* `word` — the rest of `null`, `true` and `false`.
* `number` — a number after its sign.  Digits are gathered into a word of 64 bits; what no longer
  fits only moves the exponent, and a real is computed from the two by `real?`.
* `quoted` — the rest of a string after its opening quote, with its escapes resolved.

Each recursion is on the unread characters; only `quoted` counts its steps, since an escape takes a
whole group of characters at a time.
-/

set_option autoImplicit false

namespace RaceLink
namespace Json
namespace Read

open Refusal (here past)

/-! ## Blanks and words -/

/-- The characters that may stand between any two parts of a text. -/
def isBlank (c : Char) : Bool := c == ' ' || c == '\n' || c == '\t' || c == '\r'

/-- What is left after the blanks at the front. -/
def skipBlanks : List Char → List Char
  | [] => []
  | c :: rest => if isBlank c then skipBlanks rest else c :: rest

/-- Reads exactly the given characters. -/
def word : List Char → Reader Unit
  | [], s => .ok ((), s)
  | _ :: _, [] => here .endOfValue []
  | c :: cs, d :: rest => if d = c then word cs rest else past .expectedWord (d :: rest)

/-! ## Digits -/

/-- The ten digits. -/
def isDigit (c : Char) : Bool := '0' ≤ c && c ≤ '9'

/-- The value of a digit. -/
def digitValue (c : Char) : Nat := c.toNat - '0'.toNat

/-- Whether a digit comes next. -/
def digitNext : List Char → Bool
  | [] => false
  | c :: _ => isDigit c

/-- The value of a sixteenth digit of either case. -/
def hexValue? (c : Char) : Option Nat :=
  if isDigit c then some (digitValue c)
  else if 'a' ≤ c && c ≤ 'f' then some (c.toNat - 'a'.toNat + 10)
  else if 'A' ≤ c && c ≤ 'F' then some (c.toNat - 'A'.toNat + 10)
  else none

/-- What is left after the digits at the front. -/
def skipDigits : List Char → List Char
  | [] => []
  | c :: rest => if isDigit c then skipDigits rest else c :: rest

/-- The numbers a word of 64 bits can hold lie below this. -/
def wordLimit : Nat := Nat.pow 2 64

/-- Takes up digits for as long as the number fits a word, and counts them. -/
def gather (limit : Nat) : Nat → Nat → List Char → Nat × Nat × List Char
  | value, count, [] => (value, count, [])
  | value, count, c :: rest =>
    if isDigit c then
      let value' := value * 10 + digitValue c
      if value' < limit then gather limit value' (count + 1) rest else (value, count, c :: rest)
    else (value, count, c :: rest)

/-! ## Reals -/

/-- The greatest exponent whose power of ten is a finite float. -/
def greatestPower : Nat := 308

/-- The float nearest to a power of ten. -/
def powerOfTen (k : Nat) : Float := Float.ofScientific 1 false k

/-- Divides by `10^k` in steps of at most `10^308`. -/
def shrink (x : Float) (k : Nat) : Float :=
  if k ≤ greatestPower then x / powerOfTen k
  else if x == 0.0 then x
  else shrink (x / powerOfTen greatestPower) (k - greatestPower)
termination_by k
decreasing_by simp only [greatestPower] at *; omega

/-- The float `± significand · 10^exponent`, computed with one rounding for the significand, one
for the power and one for their product; `none` beyond the largest float. -/
def real? (positive : Bool) (significand : Nat) (exponent : Int) : Option Float :=
  let x := (UInt64.ofNat significand).toFloat
  let signed (y : Float) : Float := if positive then y else -y
  if exponent < 0 then some (signed (shrink x exponent.natAbs))
  else if exponent.natAbs ≤ greatestPower then
    let y := x * powerOfTen exponent.natAbs
    if y.isInf then none else some (signed y)
  else if x == 0.0 then some (signed x)
  else none

/-- The number of those parts, or a refusal of one that is too large. -/
def realNumber (positive : Bool) (significand : Nat) (exponent : Int) : Reader Number := fun s =>
  match real? positive significand exponent with
  | some x => .ok (.real x, s)
  | none => here .numberOutOfRange s

/-- The greatest exponent that is counted exactly. -/
def exponentLimit : Nat := Nat.pow 2 31

/-- Reads what follows the exponent mark. -/
def exponentPart (positive : Bool) (significand : Nat) (exponent : Int) : Reader Number := fun s =>
  let (up, s) : Bool × List Char :=
    match s with
    | '+' :: rest => (true, rest)
    | '-' :: rest => (false, rest)
    | _ => (true, s)
  match s with
  | [] => here .endOfValue []
  | c :: rest =>
    if isDigit c then
      let (size, _, rest) := gather exponentLimit (digitValue c) 1 rest
      if digitNext rest then
        -- an exponent beyond counting: the number is zero or cannot be held
        if significand ≠ 0 ∧ up then past .numberOutOfRange rest
        else .ok (.real (if positive then 0.0 else -0.0), skipDigits rest)
      else
        realNumber positive significand (if up then exponent + size else exponent - size) rest
    else past .badNumber (c :: rest)

/-- Ends a real that has no exponent part, or reads that part. -/
def realEnd (positive : Bool) (significand : Nat) (exponent : Int) : Reader Number := fun s =>
  match s with
  | c :: rest =>
    if c = 'e' ∨ c = 'E' then exponentPart positive significand exponent rest
    else realNumber positive significand exponent s
  | [] => realNumber positive significand exponent s

/-- Reads what follows the point.  Digits that no longer fit the significand are passed over. -/
def fractionPart (positive : Bool) (significand : Nat) (exponent : Int) : Reader Number := fun s =>
  let (value, count, rest) := gather wordLimit significand 0 s
  if digitNext rest then realEnd positive value (exponent - count) (skipDigits rest)
  else if count = 0 then
    match rest with
    | [] => here .endOfValue []
    | _ :: _ => past .badNumber rest
  else realEnd positive value (exponent - count) rest

/-- The digits at the front, counted. -/
def countDigits : List Char → Nat × List Char
  | [] => (0, [])
  | c :: rest =>
    if isDigit c then
      let (n, s) := countDigits rest
      (n + 1, s)
    else (0, c :: rest)

/-- The number of a significand that was read whole and is followed by neither point nor
exponent: an integer, unless it is negative and either zero or too large to be one. -/
def wholeNumber (positive : Bool) (significand : Nat) : Number :=
  if positive then .natural significand
  else if 0 < significand ∧ significand ≤ Nat.pow 2 63 then .negative significand
  else .real (-(UInt64.ofNat significand).toFloat)

/-- Reads what follows the digits before the point. -/
def numberEnd (positive : Bool) (significand : Nat) : Reader Number := fun s =>
  match s with
  | '.' :: rest => fractionPart positive significand 0 rest
  | c :: rest =>
    if c = 'e' ∨ c = 'E' then exponentPart positive significand 0 rest
    else .ok (wholeNumber positive significand, s)
  | [] => .ok (wholeNumber positive significand, s)

/-- Reads what follows a significand that fills a word: further digits raise the exponent. -/
def longNumber (positive : Bool) (significand : Nat) : Reader Number := fun s =>
  let (n, rest) := countDigits s
  match rest with
  | '.' :: rest => fractionPart positive significand n rest
  | _ => realEnd positive significand n rest

/-- Reads a number after its sign. -/
def number (positive : Bool) : Reader Number := fun s =>
  match s with
  | [] => here .endOfValue []
  | c :: rest =>
    if c = '0' then
      if digitNext rest then past .badNumber rest else numberEnd positive 0 rest
    else if isDigit c then
      let (value, _, rest) := gather wordLimit (digitValue c) 1 rest
      if digitNext rest then longNumber positive value rest else numberEnd positive value rest
    else past .badNumber (c :: rest)

/-! ## Strings -/

/-- Takes four hexadecimal digits. -/
def quad : Reader Nat := fun s =>
  match s with
  | a :: b :: c :: d :: rest =>
    match hexValue? a, hexValue? b, hexValue? c, hexValue? d with
    | some x, some y, some z, some w => .ok (((x * 16 + y) * 16 + z) * 16 + w, rest)
    | _, _, _, _ => .error ⟨.badEscape, some (Text.weight s - 4)⟩
  | _ =>
    -- four bytes may be fewer characters; none of those is a digit
    if Text.weight s < 4 then here .endOfString []
    else .error ⟨.badEscape, some (Text.weight s - 4)⟩

/-- Requires a character inside an escape. -/
def require (c : Char) (issue : Issue) : Reader Unit := fun s =>
  match s with
  | [] => here .endOfString []
  | d :: rest => if d = c then .ok ((), rest) else past issue (d :: rest)

/-- Reads the digits of a `\u` escape.  A character beyond sixteen bits is written as two of them,
a high half followed by a low half; neither may stand alone. -/
def unicodeEscape : Reader Char := fun s => do
  let (high, s) ← quad s
  if 0xdc00 ≤ high ∧ high ≤ 0xdfff then here .loneSurrogate s
  else if 0xd800 ≤ high ∧ high ≤ 0xdbff then
    let ((), s) ← require '\\' .missingLowSurrogate s
    let ((), s) ← require 'u' .missingLowSurrogate s
    let (low, s) ← quad s
    if 0xdc00 ≤ low ∧ low ≤ 0xdfff then
      .ok (Char.ofNat (0x10000 + (high - 0xd800) * 0x400 + (low - 0xdc00)), s)
    else here .loneSurrogate s
  else .ok (Char.ofNat high, s)

/-- The character that a one-letter escape stands for. -/
def shortEscape? : Char → Option Char
  | '"' => some '"'
  | '\\' => some '\\'
  | '/' => some '/'
  | 'b' => some '\x08'
  | 'f' => some '\x0c'
  | 'n' => some '\n'
  | 'r' => some '\r'
  | 't' => some '\t'
  | _ => none

/-- Reads what follows the backslash of an escape. -/
def escape : Reader Char := fun s =>
  match s with
  | [] => here .endOfString []
  | c :: rest =>
    match shortEscape? c with
    | some d => .ok (d, rest)
    | none => if c = 'u' then unicodeEscape rest else past .badEscape (c :: rest)

/-- Reads the characters of a string up to its closing quote, in at most `steps` characters. -/
def quotedWithin : Nat → Reader (List Char)
  | 0, _ => here .endOfString []
  | _ + 1, [] => here .endOfString []
  | steps + 1, c :: rest =>
    if c = '"' then .ok ([], rest)
    else if c = '\\' then do
      let (d, s) ← escape rest
      let (ds, s) ← quotedWithin steps s
      .ok (d :: ds, s)
    else if c.toNat < 0x20 then past .controlCharacter (c :: rest)
    else do
      let (ds, s) ← quotedWithin steps rest
      .ok (c :: ds, s)

/-- Reads a string after its opening quote. -/
def quoted : Reader String := fun s => do
  let (cs, s) ← quotedWithin (s.length + 1) s
  .ok (String.ofList cs, s)

end Read
end Json
end RaceLink
