import RaceLink.Endpoint.Domain
import RaceLink.Endpoint.Percent

/-!
# Hosts

The machine that an address names: by a domain name, or by a number in one of two forms.

* `Address4.parse` — a number of four bytes, in up to four parts that may be decimal, octal or
  hexadecimal; the last part fills what the others leave.
* `Address6.parse` — a number of eight pieces, one run of zeros of which may be left out.
* `Address6.text` — the shortest way to write such a number.
* `Host.parse` — what stands for a host in an address.
* `Host.text` — the one way in which a host is written.
-/

set_option autoImplicit false

namespace RaceLink
namespace Endpoint

/-- Why a text is not an address. -/
inductive Refusal where
  | noScheme
  | noHost
  | badDomain
  | badAddress4
  | badAddress6
  | badPort
  /-- A character that no host can have whatever the scheme. -/
  | badHostCharacter
  deriving DecidableEq, Repr

namespace Refusal

/-- The text of a refusal. -/
def message : Refusal → String
  | noScheme => "relative URL without a base"
  | noHost => "empty host"
  | badDomain => "invalid international domain name"
  | badAddress4 => "invalid IPv4 address"
  | badAddress6 => "invalid IPv6 address"
  | badPort => "invalid port number"
  | badHostCharacter => "invalid domain character"

end Refusal

/-! ## Numbers of four bytes -/

namespace Address4

/-- The digits of a part, and their base. -/
def digits : List Char → Nat × List Char
  | '0' :: 'x' :: ds => (16, ds)
  | '0' :: 'X' :: ds => (16, ds)
  | '0' :: d :: ds => (8, d :: ds)
  | ds => (10, ds)

/-- The value of a part; `none` if it is not a number. -/
def part? (s : List Char) : Option Nat :=
  let (base, ds) := digits s
  if s.isEmpty then none
  else
    ds.foldl
      (fun sum c =>
        match sum, Text.hexValue? c with
        | some n, some d => if d < base then some (n * base + d) else none
        | _, _ => none)
      (some 0)

/-- The parts of a text, without an empty one at the end. -/
def parts (s : List Char) : List (List Char) :=
  let ps := Text.partsAt (· = '.') s
  if ps.getLast? = some [] then ps.dropLast else ps

/-- Whether a name has to be a number because its last part is one. -/
def meant (s : List Char) : Bool :=
  match (parts s).getLast? with
  | none => false
  | some p => (!p.isEmpty && p.all Char.isDigit) || (part? p).isSome

/-- The number whose first bytes are `front`, and whose last part is `last`. -/
def assemble (front : List Nat) (last : Nat) : Option UInt32 :=
  if front.length ≤ 3 ∧ (∀ n ∈ front, n < 256) ∧ last < Nat.pow 256 (4 - front.length) then
    let high := front.foldl (fun sum n => 256 * sum + n) 0
    some (UInt32.ofNat (high * Nat.pow 256 (4 - front.length) + last))
  else none

/-- The number that a text stands for. -/
def parse (s : List Char) : Option UInt32 := do
  let numbers ← (parts s).mapM part?
  let last ← numbers.getLast?
  assemble numbers.dropLast last

/-- A number as four decimal parts. -/
def text (a : UInt32) : String :=
  let n := a.toNat
  s!"{n / 16777216}.{n / 65536 % 256}.{n / 256 % 256}.{n % 256}"

end Address4

/-! ## Numbers of eight pieces -/

/-- A number of eight pieces. -/
structure Address6 where
  pieces : List UInt16
  length_pieces : pieces.length = 8
  deriving DecidableEq, Repr

namespace Address6

/-- One piece: one to four hexadecimal digits. -/
def piece? (s : List Char) : Option UInt16 :=
  if s.length = 0 ∨ 4 < s.length then none
  else if s.all fun c => (Text.hexValue? c).isSome then some (UInt16.ofNat (Text.hexNumber s))
  else none

/-- One byte of the four at the end: decimal, and without a zero in front. -/
def byte? (s : List Char) : Option Nat :=
  if s.isEmpty || !s.all Char.isDigit || (s.head? = some '0' && s.length ≠ 1) then none
  else
    let n := s.foldl (fun n c => 10 * n + (c.toNat - 48)) 0
    if n < 256 then some n else none

/-- The two pieces that are written as four bytes. -/
def tail? (s : List Char) : Option (List UInt16) :=
  match (Text.partsAt (· = '.') s).mapM byte? with
  | some [a, b, c, d] => some [UInt16.ofNat (256 * a + b), UInt16.ofNat (256 * c + d)]
  | _ => none

/-- The pieces between colons; the last part may be four bytes. -/
def pieces? : List (List Char) → Option (List UInt16)
  | [] => some []
  | [s] => if s.contains '.' then tail? s else (piece? s).map fun n => [n]
  | s :: rest => do
    let n ← piece? s
    let others ← pieces? rest
    pure (n :: others)

/-- The pieces of a text that may be empty. -/
def run? (s : List Char) : Option (List UInt16) :=
  if s.isEmpty then some [] else pieces? (Text.partsAt (· = ':') s)

/-- The text before the first pair of colons, and the text after it. -/
def splitGap : List Char → Option (List Char × List Char)
  | [] => none
  | ':' :: ':' :: rest => some ([], rest)
  | c :: rest => (splitGap rest).map fun (front, back) => (c :: front, back)

/-- The number with `front` before a gap and `back` after it; the gap stands for at least one
zero. -/
def fill? (front back : List UInt16) : Option Address6 :=
  if h : front.length + back.length < 8 then
    some ⟨front ++ List.replicate (8 - front.length - back.length) 0 ++ back, by simp; omega⟩
  else none

/-- The number that a text stands for: eight pieces, or fewer with a gap.  The four bytes come last,
so there are none before a gap. -/
def parse (s : List Char) : Option Address6 :=
  match splitGap s with
  | none =>
    match run? s with
    | some ps => if h : ps.length = 8 then some ⟨ps, h⟩ else none
    | none => none
  | some (front, back) =>
    if front.contains '.' then none
    else
      match run? front, run? back with
      | some fs, some bs => fill? fs bs
      | _, _ => none

/-- How many zeros a list begins with. -/
def zeros : List UInt16 → Nat
  | [] => 0
  | p :: ps => if p = 0 then zeros ps + 1 else 0

/-- The place and the length of the first of the longest runs of zeros, of those with at least two;
`start` is the place of the first piece. -/
def longest (start : Nat) : List UInt16 → Option (Nat × Nat)
  | [] => none
  | p :: ps =>
    let here := zeros (p :: ps)
    match longest (start + 1) ps with
    | some (i, n) => if here < n ∨ here < 2 then some (i, n) else some (start, here)
    | none => if here < 2 then none else some (start, here)

/-- Pieces in the fewest hexadecimal digits, with colons between them. -/
def run (ps : List UInt16) : List Char :=
  List.intercalate [':'] (ps.map fun p => Nat.toDigits 16 p.toNat)

/-- A number with the first of its longest runs of zeros left out. -/
def text (a : Address6) : List Char :=
  match longest 0 a.pieces with
  | none => run a.pieces
  | some (i, n) => run (a.pieces.take i) ++ [':', ':'] ++ run (a.pieces.drop (i + n))

end Address6

/-! ## Hosts -/

/-- The machine that an address names. -/
inductive Host where
  | domain (name : String)
  | four (address : UInt32)
  | six (address : Address6)
  deriving DecidableEq, Repr

namespace Host

/-- What stands for a number of eight pieces: brackets around it. -/
def bracketed (s : List Char) : Except Refusal Host :=
  let inner := (s.drop 1).dropLast
  if s.getLast? = some ']' && 2 ≤ s.length then
    match Address6.parse inner with
    | some a => .ok (.six a)
    | none => .error .badAddress6
  else .error .badAddress6

/-- The host that a text stands for. -/
def parse (s : List Char) : Except Refusal Host :=
  if s.head? = some '[' then bracketed s
  else
    match (Percent.decode s).bind Domain.ascii with
    | none => .error .badDomain
    | some name =>
      if name.isEmpty then .error .noHost
      else if Address4.meant name then
        match Address4.parse name with
        | some a => .ok (.four a)
        | none => .error .badAddress4
      else .ok (.domain (String.ofList name))

/-- How a host is written. -/
def text : Host → String
  | domain name => name
  | four a => Address4.text a
  | six a => String.ofList ('[' :: (a.text ++ [']']))

end Host
end Endpoint
end RaceLink
