/-!
# Documents as lines

In a document that is laid out by indentation, what matters of a character is often where it
stands.  The text is therefore read into a list in which every character, and every line break of
whatever spelling, carries its place; the list ends with the place behind the last character.

* `Spot` — a place: line, column, and the number of characters before it.
* `Glyph` — a character, a line break or the end of the text.
* `Page` — a text with places.
-/

set_option autoImplicit false

namespace RaceLink
namespace Yaml

/-- A place in a text; lines and columns count from zero, and all counts are in characters. -/
structure Spot where
  index : Nat
  line : Nat
  column : Nat
  deriving DecidableEq, Repr

namespace Spot

/-- The first place of a text. -/
def start : Spot := ⟨0, 0, 0⟩

/-- The way a place is written in a message. -/
def text (s : Spot) : String := s!"line {s.line + 1} column {s.column + 1}"

/-- Whether a place is the first of a text, which messages do not mention. -/
def isStart (s : Spot) : Bool := s.line = 0 && s.column = 0

end Spot

/-- What stands at a place of a text. -/
inductive Glyph where
  | char (c : Char)
  /-- A line break, with the character it counts as. -/
  | break (meaning : Char)
  deriving DecidableEq, Repr

/-- A glyph and its place. -/
structure Placed where
  glyph : Glyph
  spot : Spot
  deriving DecidableEq, Repr

/-- What is unread of a text. -/
structure Page where
  glyphs : List Placed
  /-- The place behind the last glyph. -/
  finish : Spot
  deriving Repr

/-! ## From a text -/

/-- The character that a line break counts as, if the character breaks a line: a plain line break,
except for the two separators, which are kept. -/
def lineBreak? (c : Char) : Option Char :=
  if c = '\n' ∨ c = '\r' ∨ c = '\u0085' then some '\n'
  else if c = '\u2028' ∨ c = '\u2029' then some c
  else none

/-- The glyphs of a text that starts at `s`, and the place behind them. -/
def place (s : Spot) : List Char → List Placed × Spot
  | [] => ([], s)
  | '\r' :: '\n' :: rest =>
    let (glyphs, finish) := place ⟨s.index + 2, s.line + 1, 0⟩ rest
    (⟨.break '\n', s⟩ :: glyphs, finish)
  | c :: rest =>
    match lineBreak? c with
    | some meaning =>
      let (glyphs, finish) := place ⟨s.index + 1, s.line + 1, 0⟩ rest
      (⟨.break meaning, s⟩ :: glyphs, finish)
    | none =>
      let (glyphs, finish) := place ⟨s.index + 1, s.line, s.column + 1⟩ rest
      (⟨.char c, s⟩ :: glyphs, finish)

/-- Whether a character may stand in a document; most controls may not. -/
def printable (c : Char) : Bool :=
  let n := c.toNat
  n = 0x9 || n = 0xa || n = 0xd || (0x20 ≤ n && n ≤ 0x7e) || n = 0x85 || (0xa0 ≤ n && n ≤ 0xd7ff) ||
    (0xe000 ≤ n && n ≤ 0xfffd) || 0x10000 ≤ n

/-- The number of bytes before the first character that may not stand in a document. -/
def firstControl? : List Char → Option Nat
  | [] => none
  | c :: rest => if printable c then (firstControl? rest).map (· + c.utf8Size) else some 0

namespace Page

/-- A text, unread. -/
def ofText (s : List Char) : Page :=
  let (glyphs, finish) := place .start s
  ⟨glyphs, finish⟩

/-- The place of the first unread glyph. -/
def spot (p : Page) : Spot :=
  match p.glyphs with
  | [] => p.finish
  | g :: _ => g.spot

/-- The character that is `n` glyphs on; none for a line break or the end. -/
def char? (p : Page) (n : Nat) : Option Char :=
  match p.glyphs[n]? with
  | some ⟨.char c, _⟩ => some c
  | _ => none

/-- Whether the character that is `n` glyphs on satisfies a test. -/
def has (p : Page) (n : Nat) (test : Char → Bool) : Bool := (p.char? n).any test

/-- Whether a line break or the end is `n` glyphs on. -/
def breakAt (p : Page) (n : Nat) : Bool := (p.char? n).isNone

/-- Whether a blank, a line break or the end is `n` glyphs on. -/
def blankAt (p : Page) (n : Nat) : Bool :=
  match p.char? n with
  | none => true
  | some c => c = ' ' || c = '\t'

/-- Whether nothing is unread. -/
def atEnd (p : Page) : Bool := p.glyphs.isEmpty

/-- Whether the next glyph is a line break. -/
def atBreak (p : Page) : Bool := !p.atEnd && p.breakAt 0

/-- The text without its first `n` glyphs. -/
def skip (p : Page) (n : Nat) : Page := { p with glyphs := p.glyphs.drop n }

/-- The characters at the front that satisfy a test. -/
def takeWhile (p : Page) (test : Char → Bool) : List Char :=
  (p.glyphs.map fun g =>
    match g.glyph with
    | .char c => if test c then some c else none
    | .break _ => none).takeWhile (·.isSome) |>.filterMap id

/-- The text without the characters at the front that satisfy a test. -/
def dropWhile (p : Page) (test : Char → Bool) : Page :=
  { p with
    glyphs := p.glyphs.dropWhile fun g =>
      match g.glyph with
      | .char c => test c
      | .break _ => false }

/-- The text without the blanks at the front. -/
def dropBlanks (p : Page) : Page := p.dropWhile fun c => c = ' ' || c = '\t'

/-- The text without a comment at the front. -/
def dropComment (p : Page) : Page :=
  if p.has 0 (· = '#') then p.dropWhile fun _ => true else p

/-- The text without a line break at the front. -/
def dropBreak (p : Page) : Page := if p.atBreak then p.skip 1 else p

/-- Whether a line that is only `mark` three times parts documents here. -/
def parts (p : Page) (mark : Char) : Bool :=
  p.spot.column = 0 && p.has 0 (· = mark) && p.has 1 (· = mark) && p.has 2 (· = mark) && p.blankAt 3

/-- Whether documents are parted here. -/
def partsAny (p : Page) : Bool := p.parts '-' || p.parts '.'

end Page
end Yaml
end RaceLink
