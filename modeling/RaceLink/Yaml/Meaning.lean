import RaceLink.Record.Layout
import RaceLink.Text.Quoted
import RaceLink.Yaml.Event

/-!
# What a scalar means

A scalar is a text; written plainly, it may also be a number, a truth value or nothing.  A tag can
say which of these is meant.

* `natural?`, `negative?`, `real?` — the numbers that a text can be.
* `found` — what a scalar is, in the terms of a message.
* `valueOf` — a node as a value of a kind.
-/

set_option autoImplicit false

namespace RaceLink
namespace Yaml

open Record (Mismatch Found Kind Word)

/-! ## Numbers -/

/-- The value of a digit in a base of at most sixteen. -/
def digit? (base : Nat) (c : Char) : Option Nat :=
  (Text.hexValue? c).bind fun d => if d < base then some d else none

/-- The number that digits in a base stand for. -/
def digits? (base : Nat) (s : List Char) : Option Nat :=
  if !s.isEmpty && s.all fun c => (digit? base c).isSome then
    some (s.foldl (fun n c => base * n + (digit? base c).getD 0) 0)
  else none

/-- Whether a text has only digits and a zero in front, so that it is no number. -/
def isPadded (s : List Char) : Bool :=
  match s with
  | '0' :: rest => !rest.isEmpty && rest.all Char.isDigit
  | _ => false

/-- The number that a text without a sign stands for, with the base in front if it is not ten. -/
def unsigned? (s : List Char) : Option Nat :=
  match s with
  | '0' :: 'x' :: rest => digits? 16 rest
  | '0' :: 'o' :: rest => digits? 8 rest
  | '0' :: 'b' :: rest => digits? 2 rest
  | _ => if isPadded s then none else digits? 10 s

/-- A text without the sign of a positive number. -/
def dropPlus (s : List Char) : List Char :=
  match s with
  | '+' :: rest => rest
  | _ => s

/-- The number that a text stands for. -/
def natural? (s : List Char) : Option Nat := unsigned? (dropPlus s)

/-- The number `n` if a text stands for `-n`. -/
def negative? (s : List Char) : Option Nat :=
  match s with
  | '-' :: rest => unsigned? rest
  | _ => none

/-- The digits before and after a point, and the exponent, of a decimal without a sign. -/
def decimal? (s : List Char) : Option (List Char × List Char × Int) :=
  let whole := s.takeWhile Char.isDigit
  let rest := s.dropWhile Char.isDigit
  let (fraction, rest) :=
    match rest with
    | '.' :: rest => (rest.takeWhile Char.isDigit, rest.dropWhile Char.isDigit)
    | _ => ([], rest)
  let exponent? : Option Int :=
    match rest with
    | [] => some 0
    | e :: rest =>
      if e = 'e' ∨ e = 'E' then
        match rest with
        | '-' :: ds => (digits? 10 ds).map fun n => -(n : Int)
        | '+' :: ds => (digits? 10 ds).map fun n => (n : Int)
        | ds => (digits? 10 ds).map fun n => (n : Int)
      else none
  if whole.isEmpty && fraction.isEmpty then none
  else exponent?.map fun e => (whole, fraction, e)

/-- The float nearest to a decimal.  An exponent far beyond those of floats gives zero or infinity
at once. -/
def nearest (whole fraction : List Char) (exponent : Int) : Float :=
  let n := ((whole ++ fraction).foldl (fun n c => 10 * n + (c.toNat - 48)) 0 : Nat)
  let e : Int := exponent - fraction.length
  let size : Int := (Nat.toDigits 10 n).length + e
  if n = 0 ∨ size < -400 then 0.0
  else if 400 < size then Float.ofBits 0x7ff0000000000000
  else if e < 0 then Float.ofScientific n true e.natAbs
  else Float.ofScientific n false e.natAbs

/-- The float that a text stands for; there are texts for those that are no numbers. -/
def real? (s : List Char) : Option Float :=
  let text := String.ofList s
  let unsigned := dropPlus s
  let plus := String.ofList unsigned
  if [".inf", ".Inf", ".INF"].contains plus then some (Float.ofBits 0x7ff0000000000000)
  else if ["-.inf", "-.Inf", "-.INF"].contains text then some (Float.ofBits 0xfff0000000000000)
  else if [".nan", ".NaN", ".NAN"].contains text then some (Float.ofBits 0x7ff8000000000000)
  else
    let (negative, magnitude) :=
      match unsigned with
      | '-' :: rest => (decide (unsigned.length = s.length), rest)
      | _ => (false, unsigned)
    if unsigned.length ≠ s.length ∧ unsigned.head? = some '-' then none
    else
      match decimal? magnitude with
      | none => none
      | some (whole, fraction, e) =>
        let x := nearest whole fraction e
        if x.isFinite then some (if negative then -x else x) else none

/-! ## Words -/

/-- Whether a text stands for nothing. -/
def isNull (s : List Char) : Bool := ["null", "Null", "NULL", "~"].contains (String.ofList s)

/-- The truth value that a text stands for. -/
def flag? (s : List Char) : Option Bool :=
  let text := String.ofList s
  if ["true", "True", "TRUE"].contains text then some true
  else if ["false", "False", "FALSE"].contains text then some false
  else none

/-- The tags that say what a scalar is. -/
def tagFor (name : String) : List Char := ("tag:yaml.org,2002:" ++ name).toList

/-! ## In messages -/

/-- What an integer is, if the text is one; those beyond sixty-four bits are told with their
width. -/
def foundInteger? (s : List Char) : Option Found :=
  match natural? s, negative? s with
  | some n, _ =>
    if n < Nat.pow 2 64 then some (.whole n)
    else if n < Nat.pow 2 128 then some (.wide n "u128") else none
  | none, some n =>
    if n ≤ Nat.pow 2 63 then some (.whole (-n))
    else if n ≤ Nat.pow 2 127 then some (.wide (-n) "i128") else none
  | none, none => none

/-- A text as a message shows it. -/
def foundText (s : List Char) : Found := .text (Text.quote (String.ofList s))

/-- What a plain scalar is. -/
def foundPlain (s : List Char) : Found :=
  if s.isEmpty || isNull s then .nothing
  else
    match flag? s, foundInteger? s with
    | some b, _ => .flag b
    | none, some f => f
    | none, none =>
      let digits :=
        match s with
        | '-' :: rest => rest
        | _ => dropPlus s
      match if isPadded digits then none else real? s with
      | some x => .real x
      | none => foundText s

/-- The mismatch of a scalar where something else was expected.  A scalar that is not what its own
tag says is blamed for that. -/
def scalarMismatch (tag : Option (List Char)) (s : Scalar) (expected : String) : Mismatch :=
  let untrue (what : String) : Mismatch := .wrongValue (foundText s.text) what
  let wrong (f : Found) : Mismatch := .wrongKind f expected
  match tag with
  | none => wrong (if s.style = .plain then foundPlain s.text else foundText s.text)
  | some t =>
    if t = tagFor "bool" then
      match flag? s.text with
      | some b => wrong (.flag b)
      | none => untrue "a boolean"
    else if t = tagFor "int" then
      match foundInteger? s.text with
      | some f => wrong f
      | none => untrue "an integer"
    else if t = tagFor "float" then
      match real? s.text with
      | some x => wrong (.real x)
      | none => untrue "a float"
    else if t = tagFor "null" then
      if isNull s.text then wrong .nothing else untrue "null"
    else if t.head? = some '!' && s.style = .plain then wrong (foundPlain s.text)
    else wrong (foundText s.text)

/-- The mismatch of a node where something else was expected. -/
def mismatch (e : Event) (expected : String) : Mismatch :=
  match e.kind with
  | .scalar properties s => scalarMismatch properties.tag s expected
  | .mappingStart _ => .wrongKind .map expected
  | _ => .wrongKind .sequence expected

/-! ## As values -/

/-- Whether a scalar may be taken for more than a text: one that is plain, or a block whose tag says
so. -/
def isOpen (tagName : String) (tag : Option (List Char)) (s : Scalar) : Bool :=
  s.style = .plain || (s.style = .literal && tag = some (tagFor tagName))

/-- The word that a node stands for. -/
def wordOf (w : Word) (e : Event) : Except Mismatch Nat :=
  match e.kind with
  | .scalar properties s =>
    match if isOpen "int" properties.tag s then natural? s.text else none with
    | some n =>
      if w.fits n then .ok n
      else if n < Nat.pow 2 64 then .error (.wrongValue (.whole n) w.name)
      else .error (mismatch e w.name)
    | none => .error (mismatch e w.name)
  | _ => .error (mismatch e w.name)

/-- A node as a value of a kind. -/
def valueOf (k : Kind) (e : Event) : Except Mismatch k.Value :=
  match k with
  | .word w => wordOf w e
  | .flag =>
    match e.kind with
    | .scalar properties s =>
      match if isOpen "bool" properties.tag s then flag? s.text else none with
      | some b => .ok b
      | none => .error (mismatch e Kind.flag.expected)
    | _ => .error (mismatch e Kind.flag.expected)
  | .text =>
    match e.kind with
    | .scalar _ s => .ok (String.ofList s.text)
    | _ => .error (mismatch e Kind.text.expected)
  | .optionalWord w =>
    match e.kind with
    | .scalar _ s =>
      if s.style = .plain && (s.text.isEmpty || isNull s.text) then .ok none
      else (wordOf w e).map some
    | _ => (wordOf w e).map some

end Yaml
end RaceLink
