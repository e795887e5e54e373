import RaceLink.Json.Tree

/-!
# The grammar of JSON

Which texts there are and what they stand for, said without any way of reading them.  A part of a
text is described by what is left of the text before it and what is left behind it, so that parts
fit together without being cut out.

* `Blanks`, `Quoted` — what may stand between any two parts, and strings.
* `Numeral`, `Numeral.number?` — numbers as they are written, and the number that each stands for.
  Only a numeral without point and exponent can be an integer, and `-0` is none.
* `Scalar`, `Items`, `Members`, `Value` — values, with a limit to how many brackets are open at
  once.
* `Document` — whole texts.
-/

set_option autoImplicit false

namespace RaceLink
namespace Json
namespace Grammar

open Read (isBlank isDigit hexValue? shortEscape? wordLimit exponentLimit gather)

/-- There are only blanks before `r`. -/
inductive Blanks : List Char → List Char → Prop
  | none {r : List Char} : Blanks r r
  | more {c : Char} {s r : List Char} (blank : isBlank c = true) (rest : Blanks s r) :
      Blanks (c :: s) r

/-! ## Strings -/

/-- Four hexadecimal digits, with their value. -/
inductive Quad : List Char → Nat → List Char → Prop
  | digits {a b c d : Char} {x y z w : Nat} {r : List Char} (first : hexValue? a = some x)
      (second : hexValue? b = some y) (third : hexValue? c = some z)
      (fourth : hexValue? d = some w) :
      Quad (a :: b :: c :: d :: r) (((x * 16 + y) * 16 + z) * 16 + w) r

/-- What stands behind a backslash, with the character that it is for.  A character beyond sixteen
bits is written as two halves, of which none can stand alone. -/
inductive Escape : List Char → Char → List Char → Prop
  | short {c d : Char} {r : List Char} (letter : shortEscape? c = some d) : Escape (c :: r) d r
  | single {n : Nat} {s r : List Char} (quad : Quad s n r) (whole : ¬ (0xd800 ≤ n ∧ n ≤ 0xdfff)) :
      Escape ('u' :: s) (Char.ofNat n) r
  | pair {high low : Nat} {s t r : List Char} (first : Quad s high ('\\' :: 'u' :: t))
      (isHigh : 0xd800 ≤ high ∧ high ≤ 0xdbff) (second : Quad t low r)
      (isLow : 0xdc00 ≤ low ∧ low ≤ 0xdfff) :
      Escape ('u' :: s) (Char.ofNat (0x10000 + (high - 0xd800) * 0x400 + (low - 0xdc00))) r

/-- A string from behind its opening quote to behind its closing one, with its characters. -/
inductive Quoted : List Char → List Char → List Char → Prop
  | close {r : List Char} : Quoted ('"' :: r) [] r
  | plain {c : Char} {s cs r : List Char} (noQuote : c ≠ '"') (noEscape : c ≠ '\\')
      (noControl : 0x20 ≤ c.toNat) (rest : Quoted s cs r) : Quoted (c :: s) (c :: cs) r
  | escape {c : Char} {s t cs r : List Char} (escape : Escape s c t) (rest : Quoted t cs r) :
      Quoted ('\\' :: s) (c :: cs) r

/-! ## Numbers -/

/-- At least one digit, and nothing else. -/
def Digits (ds : List Char) : Prop := ds ≠ [] ∧ ∀ c ∈ ds, isDigit c = true

/-- The number that some digits stand for. -/
def decimal (ds : List Char) : Nat := Nat.ofDigitChars 10 ds 0

/-- An exponent as it is written. -/
structure Exponent where
  mark : Char
  /-- A plus, a minus or nothing. -/
  sign : List Char
  digits : List Char

namespace Exponent

/-- The characters of an exponent. -/
def chars (e : Exponent) : List Char := e.mark :: (e.sign ++ e.digits)

/-- An exponent that may be written so. -/
structure Valid (e : Exponent) : Prop where
  mark : e.mark = 'e' ∨ e.mark = 'E'
  sign : e.sign = [] ∨ e.sign = ['+'] ∨ e.sign = ['-']
  digits : Digits e.digits

/-- Whether an exponent makes a number larger. -/
def up (e : Exponent) : Bool := e.sign != ['-']

/-- The number with a significand and an exponent of ten to which this exponent is added, unless it
is too large.  An exponent beyond counting leaves zero, or a number that is too large. -/
def scale? (e : Exponent) (positive : Bool) (significand : Nat) (shift : Int) : Option Float :=
  let (size, _, more) := gather exponentLimit 0 0 e.digits
  if more = [] then
    Read.real? positive significand (if e.up then shift + size else shift - size)
  else if significand ≠ 0 ∧ e.up then none
  else some (if positive then 0.0 else -0.0)

end Exponent

/-- A number as it is written. -/
structure Numeral where
  negative : Bool
  /-- The digits before the point. -/
  whole : List Char
  /-- The digits behind the point; there is no point if there are none. -/
  fraction : List Char
  exponent : Option Exponent

namespace Numeral

/-- The point and the digits behind it. -/
def pointed : List Char → List Char
  | [] => []
  | ds => '.' :: ds

/-- The characters of a numeral behind its sign. -/
def unsigned (m : Numeral) : List Char :=
  m.whole ++ (pointed m.fraction ++ (m.exponent.map Exponent.chars).getD [])

/-- The characters of a numeral. -/
def chars (m : Numeral) : List Char := if m.negative then '-' :: m.unsigned else m.unsigned

/-- A numeral that may be written so: no zero stands before other digits. -/
structure Valid (m : Numeral) : Prop where
  whole : Digits m.whole
  start : m.whole.head? = some '0' → m.whole = ['0']
  fraction : ∀ c ∈ m.fraction, isDigit c = true
  exponent : ∀ e ∈ m.exponent, e.Valid

/-- The significand that fits a word, and the exponent of ten that belongs to it.  Digits before the
point that do not fit only raise the exponent; those behind it count for nothing. -/
def significand (m : Numeral) : Nat × Int :=
  let (front, _, dropped) := gather wordLimit 0 0 m.whole
  let (value, taken, _) := gather wordLimit front 0 m.fraction
  (value, (dropped.length : Int) - taken)

/-- The float that a numeral stands for, unless it is too large. -/
def real? (m : Numeral) : Option Float :=
  match m.exponent with
  | some e => e.scale? (!m.negative) m.significand.1 m.significand.2
  | none =>
    if m.fraction = [] ∧ decimal m.whole < wordLimit then
      some (-(UInt64.ofNat (decimal m.whole)).toFloat)
    else Read.real? (!m.negative) m.significand.1 m.significand.2

/-- The integer that a numeral stands for, if it is one: it has neither point nor exponent, and it
fits sixty-four bits. -/
def integer? (m : Numeral) : Option Number :=
  if m.fraction = [] ∧ m.exponent.isNone then
    if m.negative then
      if 0 < decimal m.whole ∧ decimal m.whole ≤ Nat.pow 2 63 then
        some (.negative (decimal m.whole))
      else none
    else if decimal m.whole < wordLimit then some (.natural (decimal m.whole))
    else none
  else none

/-- The number that a numeral stands for, unless it is too large. -/
def number? (m : Numeral) : Option Number := m.integer? <|> m.real?.map .real

end Numeral

/-- A number. -/
def Numeric (s : List Char) (n : Number) (r : List Char) : Prop :=
  ∃ m : Numeral, m.Valid ∧ m.number? = some n ∧ s = m.chars ++ r

/-! ## Values -/

/-- A value without brackets. -/
inductive Scalar : List Char → Json → List Char → Prop
  | null {r : List Char} : Scalar ('n' :: 'u' :: 'l' :: 'l' :: r) .null r
  | yes {r : List Char} : Scalar ('t' :: 'r' :: 'u' :: 'e' :: r) (.flag true) r
  | no {r : List Char} : Scalar ('f' :: 'a' :: 'l' :: 's' :: 'e' :: r) (.flag false) r
  | number {s r : List Char} {n : Number} (number : Numeric s n r) : Scalar s (.number n) r
  | text {s cs r : List Char} (quoted : Quoted s cs r) :
      Scalar ('"' :: s) (.text (String.ofList cs)) r

/-- What stands before an item or a member: a comma, except before the first one. -/
inductive Comma : Bool → List Char → List Char → Prop
  | first {s : List Char} : Comma true s s
  | next {s r : List Char} (blanks : Blanks s (',' :: r)) : Comma false s r

section Brackets

variable (W : List Char → Json → List Char → Prop)

/-- The items of an array and its closing bracket; the flag tells whether none stands before. -/
inductive Items : Bool → List Char → List Json → List Char → Prop
  | close {first : Bool} {s r : List Char} (blanks : Blanks s (']' :: r)) : Items first s [] r
  | next {first : Bool} {s t u r : List Char} {v : Json} {vs : List Json} (comma : Comma first s t)
      (item : W t v u) (rest : Items false u vs r) : Items first s (v :: vs) r

/-- The members of an object and its closing bracket. -/
inductive Members : Bool → List Char → List (String × Json) → List Char → Prop
  | close {first : Bool} {s r : List Char} (blanks : Blanks s ('\x7d' :: r)) : Members first s [] r
  | next {first : Bool} {s t u x y z cs r : List Char} {v : Json} {ms : List (String × Json)}
      (comma : Comma first s t) (quote : Blanks t ('"' :: u)) (name : Quoted u cs x)
      (colon : Blanks x (':' :: y)) (value : W y v z) (rest : Members false z ms r) :
      Members first s ((String.ofList cs, v) :: ms) r

/-- A value, given those that may stand inside its brackets. -/
inductive Around : List Char → Json → List Char → Prop
  | scalar {s r : List Char} {v : Json} (scalar : Scalar s v r) : Around s v r
  | array {s r : List Char} {vs : List Json} (items : Items W true s vs r) :
      Around ('[' :: s) (.array vs) r
  | object {s r : List Char} {ms : List (String × Json)} (members : Members W true s ms r) :
      Around ('\x7b' :: s) (.object ms) r

end Brackets

/-- A value in which at most `depth` brackets are open at once, and blanks before it. -/
def Value : Nat → List Char → Json → List Char → Prop
  | 0, s, v, r => ∃ t, Blanks s t ∧ Scalar t v r
  | depth + 1, s, v, r => ∃ t, Blanks s t ∧ Around (Value depth) t v r

/-- A whole text: one value, and blanks around it. -/
def Document (text : List Char) (v : Json) : Prop :=
  ∃ r, Value Read.deepest text v r ∧ Blanks r []

end Grammar
end Json
end RaceLink
