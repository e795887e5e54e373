/-!
# Tables of characters

A property of characters that no rule gives is kept as a table of runs of code points.

* `within` — whether a code point lies in one of the runs of a table.
* `Row`, `lookup` — a run with the sequence of code points that belongs to each of its members.
* `partsAt`, `hexValue?`, `hexNumber` — parts of a text, and numbers in it.
-/

set_option autoImplicit false

namespace RaceLink
namespace Text

/-- Whether a code point lies in one of the runs of a table. -/
def within (table : List (Nat × Nat)) (n : Nat) : Bool :=
  table.any fun r => decide (r.1 ≤ n) && decide (n ≤ r.2)

/-! ## Tables with values -/

/-- How the values of a run follow its code points. -/
inductive Stride where
  /-- Every code point of the run, with values that grow along. -/
  | each
  /-- Every other code point of the run, with values that grow along. -/
  | other
  /-- Every code point of the run, with one value for all. -/
  | same
  deriving DecidableEq, Repr

/-- A row of a table. -/
structure Row where
  first : Nat
  last : Nat
  stride : Stride
  value : List Nat
  deriving DecidableEq, Repr

namespace Row

/-- A row for one code point. -/
def one (n : Nat) (value : List Nat) : Row := ⟨n, n, .each, value⟩

/-- A row for a run of code points. -/
def each (first last : Nat) (value : List Nat) : Row := ⟨first, last, .each, value⟩

/-- A row for every other code point of a run. -/
def other (first last : Nat) (value : List Nat) : Row := ⟨first, last, .other, value⟩

/-- A row for a run of code points with one value for all. -/
def same (first last : Nat) (value : List Nat) : Row := ⟨first, last, .same, value⟩

/-- The value that a row gives to a code point. -/
def value? (r : Row) (n : Nat) : Option (List Nat) :=
  if r.first ≤ n ∧ n ≤ r.last then
    match r.stride with
    | .same => some r.value
    | .each => some (r.value.map (· + (n - r.first)))
    | .other => if (n - r.first) % 2 = 0 then some (r.value.map (· + (n - r.first))) else none
  else none

end Row

/-- The value that the first row for a code point gives to it. -/
def lookup (table : List Row) (n : Nat) : Option (List Nat) :=
  table.findSome? fun r => r.value? n

/-! ## Parts of a text -/

/-- The parts of a text between the characters that satisfy `p`. -/
def partsAt (p : Char → Bool) (s : List Char) : List (List Char) :=
  s.foldr
    (fun c parts =>
      if p c then [] :: parts
      else
        match parts with
        | [] => [[c]]
        | part :: rest => (c :: part) :: rest)
    [[]]

/-- The value of a hexadecimal digit. -/
def hexValue? (c : Char) : Option Nat :=
  if '0' ≤ c ∧ c ≤ '9' then some (c.toNat - 48)
  else if 'a' ≤ c ∧ c ≤ 'f' then some (c.toNat - 87)
  else if 'A' ≤ c ∧ c ≤ 'F' then some (c.toNat - 55)
  else none

/-- The number written in hexadecimal. -/
def hexNumber (s : List Char) : Nat := s.foldl (fun n c => 16 * n + (hexValue? c).getD 0) 0

end Text
end RaceLink
