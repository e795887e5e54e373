/-!
# Names beyond ASCII, written in ASCII

A label of a domain that has other characters is written with its ASCII characters first, and then
the others in ascending order: for each one how far the reader has to go on, counted over all
places of the label and all code points.  These distances are numbers in base 36 whose digits say
themselves where a number ends, with thresholds that adapt to the distances seen.

* `Punycode.encode` — the ASCII form of a label.
* `Punycode.decode` — the label with this ASCII form; `none` if there is none.
-/

set_option autoImplicit false

namespace RaceLink
namespace Endpoint
namespace Punycode

/-- The digit of a value below 36: letters first. -/
def digit (d : Nat) : Char := if d < 26 then Char.ofNat (97 + d) else Char.ofNat (22 + d)

/-- The value of a digit, in letters of either case. -/
def value? (c : Char) : Option Nat :=
  if 'a' ≤ c ∧ c ≤ 'z' then some (c.toNat - 97)
  else if 'A' ≤ c ∧ c ≤ 'Z' then some (c.toNat - 65)
  else if '0' ≤ c ∧ c ≤ '9' then some (c.toNat - 22)
  else none

/-- The threshold of the digit at position `k` (36 for the first, 72 for the next): a digit below it
is the last one. -/
def threshold (bias k : Nat) : Nat := if k ≤ bias then 1 else if bias + 26 ≤ k then 26 else k - bias

theorem threshold_pos (bias k : Nat) : 0 < threshold bias k := by
  unfold threshold
  split
  · omega
  · split <;> omega

theorem threshold_le (bias k : Nat) : threshold bias k ≤ 26 := by
  unfold threshold
  split
  · omega
  · split <;> omega

/-- Divides a distance by 35 until it is small, counting 36 for each division. -/
def shrink (delta k : Nat) : Nat × Nat :=
  if 455 < delta then shrink (delta / 35) (k + 36) else (delta, k)
termination_by delta
decreasing_by omega

/-- The bias after a distance has been written in a label that then has `count` characters. -/
def adapt (delta count : Nat) (first : Bool) : Nat :=
  let halved := if first then delta / 700 else delta / 2
  let (small, k) := shrink (halved + halved / count) 0
  k + 36 * small / (small + 38)

/-! ## Writing -/

/-- A distance written with self-delimiting digits, from position `k` on. -/
def digits (bias k delta : Nat) : List Char :=
  let t := threshold bias k
  if delta < t then [digit delta]
  else digit (t + (delta - t) % (36 - t)) :: digits bias (k + 36) ((delta - t) / (36 - t))
termination_by delta
decreasing_by
  have ht := threshold_pos bias k
  have hle := Nat.div_le_self (delta - threshold bias k) (36 - threshold bias k)
  omega

/-- A label that is being written: the distance from the last character written, the bias, and how
many characters have been written. -/
structure Progress where
  delta : Nat
  bias : Nat
  count : Nat
  deriving DecidableEq, Repr

/-- Goes through the label once to write the occurrences of the code point `n`. -/
def passOver (n plain : Nat) (p : Progress) : List Char → List Char × Progress
  | [] => ([], p)
  | c :: rest =>
    if c.toNat < n then passOver n plain { p with delta := p.delta + 1 } rest
    else if c.toNat = n then
      let next : Progress := ⟨0, adapt p.delta (p.count + 1) (p.count = plain), p.count + 1⟩
      let (out, p') := passOver n plain next rest
      (digits p.bias 36 p.delta ++ out, p')
    else passOver n plain p rest

/-- Writes the occurrences of the code points `points`, given in ascending order; `n` is the code
point that has been reached. -/
def passes (label : List Char) (plain n : Nat) (p : Progress) : List Nat → List Char
  | [] => []
  | m :: points =>
    let reached : Progress := { p with delta := p.delta + (m - n) * (p.count + 1) }
    let (out, p') := passOver m plain reached label
    out ++ passes label plain (m + 1) { p' with delta := p'.delta + 1 } points

/-- Puts a number into an ascending list that has no number twice. -/
def insertOnce (n : Nat) : List Nat → List Nat
  | [] => [n]
  | m :: ms => if n < m then n :: m :: ms else if n = m then m :: ms else m :: insertOnce n ms

/-- The code points of a label beyond ASCII, in ascending order. -/
def beyond (label : List Char) : List Nat :=
  ((label.filter fun c => decide (128 ≤ c.toNat)).map Char.toNat).foldr insertOnce []

/-- The ASCII form of a label. -/
def encode (label : List Char) : List Char :=
  let plain := label.filter fun c => decide (c.toNat < 128)
  (if plain.isEmpty then [] else plain ++ ['-']) ++
    passes label plain.length 128 ⟨0, 72, plain.length⟩ (beyond label)

/-! ## Reading -/

/-- Reads a distance: the sum so far, and what is left. -/
def distance? (bias k weight sum : Nat) : List Char → Option (Nat × List Char)
  | [] => none
  | c :: rest =>
    match value? c with
    | none => none
    | some d =>
      let t := threshold bias k
      if d < t then some (sum + d * weight, rest)
      else distance? bias (k + 36) (weight * (36 - t)) (sum + d * weight) rest

theorem length_distance? {bias : Nat} {s : List Char} {k weight sum : Nat} {r : Nat × List Char}
    (h : distance? bias k weight sum s = some r) : r.2.length < s.length := by
  induction s generalizing k weight sum with
  | nil => simp [distance?] at h
  | cons c rest ih =>
    simp only [distance?] at h
    split at h
    · cases h
    · split at h
      · cases h; simp
      · have := ih h; simp; omega

/-- Puts the characters that `s` tells of into the label `out`, from the place `i` and the code
point `n` on. -/
def insertions (bias n i : Nat) (out : List Char) (s : List Char) : Option (List Char) :=
  if s.isEmpty then some out
  else
    match _h : distance? bias 36 1 i s with
    | none => none
    | some (j, rest) =>
      let count := out.length + 1
      let m := n + j / count
      if Nat.isValidChar m then
        insertions (adapt (j - i) count (i = 0)) m (j % count + 1)
          (out.insertIdx (j % count) (Char.ofNat m)) rest
      else none
termination_by s.length
decreasing_by exact length_distance? _h

/-- The text before the last hyphen, and the text after it.  A hyphen with nothing before it parts
nothing, and then all of the text counts as after it. -/
def splitLast (s : List Char) : List Char × List Char :=
  let tail := (s.reverse.takeWhile (· ≠ '-')).reverse
  let plain := s.take (s.length - tail.length - 1)
  if plain.isEmpty then ([], s) else (plain, tail)

/-- The label with this ASCII form. -/
def decode (s : List Char) : Option (List Char) :=
  let (plain, rest) := splitLast s
  if plain.all fun c => decide (c.toNat < 128) then insertions 72 128 0 plain rest else none

end Punycode
end Endpoint
end RaceLink
