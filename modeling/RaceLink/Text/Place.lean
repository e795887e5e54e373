/-!
# Places in a text

A reader that stops half way says where.  Readers here work on the list of characters that is
still unread, so the natural record of a place is *how many bytes are left*; `Place.before` turns
that into the line and column people expect, once, when the fault is shown.

* `weight` — the number of bytes a run of characters takes up in UTF-8.
* `Place.advance` — the line and column after a given number of bytes: lines count from one, columns
  count bytes since the last line break.
* `Place.before` — the place in a text at which a given number of bytes is left.
-/

set_option autoImplicit false

namespace RaceLink
namespace Text

/-- The number of bytes that a run of characters takes up in UTF-8. -/
def weight : List Char → Nat
  | [] => 0
  | c :: rest => c.utf8Size + weight rest

/-- A line, counted from one, and a column, counted in bytes from the last line break. -/
structure Place where
  line : Nat
  column : Nat
  deriving DecidableEq, Repr

namespace Place

/-- The place before anything has been read. -/
def start : Place := ⟨1, 0⟩

/-- The place after one more whole character. -/
def next (p : Place) (c : Char) : Place :=
  if c = '\n' then ⟨p.line + 1, 0⟩ else ⟨p.line, p.column + c.utf8Size⟩

/-- The place after `bytes` bytes of a text.  A count that ends inside a character counts only the
bytes of it that were passed. -/
def advance (p : Place) : List Char → Nat → Place
  | [], _ => p
  | c :: rest, bytes =>
    if c.utf8Size ≤ bytes then advance (p.next c) rest (bytes - c.utf8Size)
    else ⟨p.line, p.column + bytes⟩

/-- The place in `text` at which `left` bytes are still unread. -/
def before (text : List Char) (left : Nat) : Place :=
  start.advance text (weight text - left)

/-- The way a place is written at the end of a message. -/
def suffix (p : Place) : String := s!" at line {p.line} column {p.column}"

end Place

end Text
end RaceLink
