import RaceLink.Text.Table
import RaceLink.Yaml.Refusal

/-!
# Scalars

A scalar is a text in a document.  It can be written plainly, between quotes or as a block of lines;
line breaks inside it are folded into blanks unless the way of writing keeps them.

* `plain` — without any mark, ended by what cannot be part of it.
* `quoted` — between single or double quotes; the latter know escapes.
* `block` — the lines below a mark, as far as they are indented.

Each takes the unread text to the scalar and to what is unread behind it.
-/

set_option autoImplicit false

namespace RaceLink
namespace Yaml

/-- How a scalar is written. -/
inductive Style where
  | plain | singleQuoted | doubleQuoted | literal | folded
  deriving DecidableEq, Repr

/-- A scalar, and how it was written. -/
structure Scalar where
  text : List Char
  style : Style
  deriving DecidableEq, Repr

/-! ## Blanks inside a scalar -/

/-- What has been met since the last character of a scalar that is not blank. -/
inductive Gap where
  /-- Blanks on the same line. -/
  | blanks (s : List Char)
  /-- Line breaks, the first of which is kept apart; it is missing after an escaped one. -/
  | lines (first : Option Char) (others : List Char)
  deriving DecidableEq, Repr

namespace Gap

/-- Nothing. -/
def none : Gap := .blanks []

/-- Whether a line has ended. -/
def broken : Gap → Bool
  | .blanks _ => false
  | .lines _ _ => true

/-- One more blank; those at the start of a line do not count. -/
def blank (c : Char) : Gap → Gap
  | .blanks s => .blanks (s ++ [c])
  | .lines first others => .lines first others

/-- One more line break; blanks at the end of a line do not count. -/
def newLine (c : Char) : Gap → Gap
  | .blanks _ => .lines (some c) []
  | .lines first others => .lines first (others ++ [c])

/-- What the gap stands for between two characters: a single line break is a blank. -/
def fold : Gap → List Char
  | .blanks s => s
  | .lines (some '\n') [] => [' ']
  | .lines (some '\n') others => others
  | .lines (some c) others => c :: others
  | .lines Option.none others => others

end Gap

/-! ## Plain scalars -/

/-- What plain scalars depend on: whether brackets are open, and how far the line below has to be
indented. -/
structure Surroundings where
  inFlow : Bool
  indent : Nat
  deriving DecidableEq, Repr

/-- Whether a character parts the entries between brackets. -/
def isFlowMark (c : Char) : Bool := [',', '[', ']', '\x7b', '\x7d'].contains c

/-- A plain scalar that has been read: whether a line ended after it, and what is unread. -/
structure PlainEnd where
  scalar : Scalar
  broken : Bool
  rest : Page

/-- Reads on in a plain scalar that began at `began`, behind `text` and a gap.  `tight` tells that
the last glyph was a character of the scalar. -/
def plainFrom (around : Surroundings) (began finish : Spot) (tight : Bool) (text : List Char)
    (gap : Gap) : List Placed → Except Refusal PlainEnd
  | [] => .ok ⟨⟨text, .plain⟩, gap.broken, ⟨[], finish⟩⟩
  | ⟨glyph, spot⟩ :: rest =>
    let page : Page := ⟨⟨glyph, spot⟩ :: rest, finish⟩
    let done : Except Refusal PlainEnd := .ok ⟨⟨text, .plain⟩, gap.broken, page⟩
    match glyph with
    | .break c => plainFrom around began finish false text (gap.newLine c) rest
    | .char c =>
      if c = ' ' ∨ c = '\t' then
        if gap.broken ∧ spot.column < around.indent ∧ c = '\t' then
          Refusal.within "while scanning a plain scalar" began
            "found a tab character that violates indentation" spot
        else plainFrom around began finish false text (gap.blank c) rest
      else if !tight && (gap.broken && !around.inFlow && decide (spot.column < around.indent) ||
          page.partsAny || c = '#') then done
      else if around.inFlow && c = ':' && page.has 1 (fun n => isFlowMark n || n = '?') then
        Refusal.within "while scanning a plain scalar" began "found unexpected ':'" spot
      else if (c = ':' && page.blankAt 1) || (around.inFlow && isFlowMark c) then done
      else plainFrom around began finish true (text ++ gap.fold ++ [c]) .none rest

/-- Reads a plain scalar. -/
def plain (around : Surroundings) (p : Page) : Except Refusal PlainEnd :=
  plainFrom around p.spot p.finish false [] .none p.glyphs

/-! ## Quoted scalars -/

/-- The character that a letter behind a backslash stands for. -/
def escaped? (c : Char) : Option Char :=
  [('0', '\x00'), ('a', '\x07'), ('b', '\x08'), ('t', '\t'), ('\t', '\t'), ('n', '\n'),
    ('v', '\x0b'), ('f', '\x0c'), ('r', '\r'), ('e', '\x1b'), (' ', ' '), ('"', '"'), ('/', '/'),
    ('\\', '\\'), ('N', '\u0085'), ('_', '\u00a0'), ('L', '\u2028'), ('P', '\u2029')].lookup c

/-- How many digits follow a letter behind a backslash. -/
def codeLength? (c : Char) : Option Nat := [('x', 2), ('u', 4), ('U', 8)].lookup c

/-- An escape: the character and the number of glyphs it takes; or what is wrong, and how many
glyphs further on. -/
def escape (p : Page) : Except (String × Nat) (Char × Nat) :=
  match p.char? 1 with
  | none => .error ("found unknown escape character", 0)
  | some c =>
    match escaped? c, codeLength? c with
    | some e, _ => .ok (e, 2)
    | none, some n =>
      let digits := (List.range n).map fun i => (p.char? (i + 2)).bind Text.hexValue?
      if digits.all (·.isSome) then
        let code := digits.foldl (fun sum d => 16 * sum + d.getD 0) 0
        if Nat.isValidChar code then .ok (Char.ofNat code, n + 2)
        else .error ("found invalid Unicode character escape code", 2)
      else .error ("did not find expected hexdecimal number", 2)
    | none, none => .error ("found unknown escape character", 0)

/-- Reads on in a quoted scalar that began at `began`, in at most `fuel` steps.  `word` tells that
the text goes on without a blank, so that the places where documents are parted have been passed. -/
def quotedFrom (single : Bool) (began : Spot) :
    Nat → Bool → Gap → List Char → Page → Except Refusal (Scalar × Page)
  | 0, _, _, _, p =>
    Refusal.within "while scanning a quoted scalar" began "found unexpected end of stream" p.spot
  | fuel + 1, word, gap, text, p =>
    let quote := if single then '\'' else '"'
    let go := quotedFrom single began fuel
    if !word && p.partsAny then
      Refusal.within "while scanning a quoted scalar" began "found unexpected document indicator"
        p.spot
    else
      match p.glyphs with
      | [] =>
        Refusal.within "while scanning a quoted scalar" began "found unexpected end of stream"
          p.spot
      | ⟨.break c, _⟩ :: _ => go false (gap.newLine c) text (p.skip 1)
      | ⟨.char c, _⟩ :: _ =>
        let text' := text ++ gap.fold
        if c = ' ' ∨ c = '\t' then go false (gap.blank c) text (p.skip 1)
        else if single && c = quote && p.has 1 (· = quote) then
          go true .none (text' ++ [quote]) (p.skip 2)
        else if c = quote then
          let style := if single then Style.singleQuoted else Style.doubleQuoted
          .ok (⟨text', style⟩, p.skip 1)
        else if !single && c = '\\' then
          if p.breakAt 1 && 1 < p.glyphs.length then go false (.lines none []) text' (p.skip 2)
          else
            match escape p with
            | .ok (e, n) => go true .none (text' ++ [e]) (p.skip n)
            | .error (problem, n) =>
              Refusal.within "while parsing a quoted scalar" began problem (p.skip n).spot
        else go true .none (text' ++ [c]) (p.skip 1)

/-- Reads a quoted scalar. -/
def quoted (single : Bool) (p : Page) : Except Refusal (Scalar × Page) :=
  quotedFrom single p.spot (p.glyphs.length + 1) true .none [] (p.skip 1)

/-! ## Blocks -/

/-- What becomes of the line breaks at the end of a block. -/
inductive Chomp where
  | strip | clip | keep
  deriving DecidableEq, Repr

/-- The line breaks before a line of a block: reads them with the blanks that indent them, and finds
the column of the widest line.  An indentation of zero is one that is not known yet. -/
def blockBreaks (began finish : Spot) (indent : Nat) (widest : Nat) (breaks : List Char) :
    List Placed → Except Refusal (Nat × List Char × Page)
  | [] => .ok (max widest finish.column, breaks, ⟨[], finish⟩)
  | ⟨glyph, spot⟩ :: rest =>
    let widest' := max widest spot.column
    let indenting : Bool := indent = 0 || decide (spot.column < indent)
    match glyph with
    | .break c => blockBreaks began finish indent widest' (breaks ++ [c]) rest
    | .char c =>
      if c = ' ' && indenting then blockBreaks began finish indent widest breaks rest
      else if c = '\t' && indenting then
        Refusal.within "while scanning a block scalar" began
          "found a tab character where an indentation space is expected" spot
      else .ok (widest', breaks, ⟨⟨glyph, spot⟩ :: rest, finish⟩)

/-- A block that is being read: its lines, the break behind the last one, whether that one began
with a blank, and the breaks of the empty lines below it. -/
structure Lines where
  text : List Char
  first : List Char
  blank : Bool
  others : List Char
  deriving Repr

/-- The lines of a block whose indentation is known, in at most `fuel` lines. -/
def blockLines (literal : Bool) (began : Spot) (indent : Nat) :
    Nat → Lines → Page → Except Refusal (Lines × Page)
  | 0, l, p => .ok (l, p)
  | fuel + 1, l, p =>
    if p.spot.column ≠ indent ∨ p.atEnd then .ok (l, p)
    else do
      let blank := !p.breakAt 0 && p.blankAt 0
      let joint :=
        if !literal && l.first = ['\n'] && !l.blank && !blank then
          if l.others = [] then [' '] else l.others
        else l.first ++ l.others
      let line := p.takeWhile fun _ => true
      let p := p.dropWhile fun _ => true
      let first :=
        match p.glyphs with
        | ⟨.break c, _⟩ :: _ => [c]
        | _ => []
      let (_, others, p) ← blockBreaks began p.finish indent 0 [] p.dropBreak.glyphs
      blockLines literal began indent fuel ⟨l.text ++ joint ++ line, first, blank, others⟩ p

/-- The signs behind the mark of a block: what becomes of its last line breaks, and how much further
it is indented. -/
def blockHeader (p : Page) : Except String (Chomp × Nat × Page) :=
  let chomp? (p : Page) : Option Chomp :=
    if p.has 0 (· = '+') then some .keep else if p.has 0 (· = '-') then some .strip else none
  let digit? (p : Page) : Option Nat :=
    (p.char? 0).bind fun c => if c.isDigit then some (c.toNat - 48) else none
  let zero := "found an indentation indicator equal to 0"
  match chomp? p, digit? p with
  | some chomp, _ =>
    match digit? (p.skip 1) with
    | some 0 => .error zero
    | some n => .ok (chomp, n, p.skip 2)
    | none => .ok (chomp, 0, p.skip 1)
  | none, some 0 => .error zero
  | none, some n =>
    match chomp? (p.skip 1) with
    | some chomp => .ok (chomp, n, p.skip 2)
    | none => .ok (.clip, n, p.skip 1)
  | none, none => .ok (.clip, 0, p)

/-- Reads a block below a line that is indented by `outer`, if it is in a collection. -/
def block (literal : Bool) (outer : Option Nat) (p : Page) : Except Refusal (Scalar × Page) := do
  let began := p.spot
  let refuse {α : Type} (problem : String) (spot : Spot) : Except Refusal α :=
    Refusal.within "while scanning a block scalar" began problem spot
  match blockHeader (p.skip 1) with
  | .error problem =>
    let sign := (p.skip 1).dropWhile fun c => c = '+' || c = '-'
    refuse problem sign.spot
  | .ok (chomp, increment, p) =>
    let p := p.dropBlanks.dropComment
    if !p.breakAt 0 then refuse "did not find expected comment or line break" p.spot
    let p := p.dropBreak
    let least := (outer.map (· + 1)).getD 0
    let indent := if increment = 0 then 0 else outer.getD 0 + increment
    let (widest, breaks, p) ← blockBreaks began p.finish indent 0 [] p.glyphs
    let indent := if indent = 0 then max (max widest least) 1 else indent
    let (l, p) ← blockLines literal began indent (p.glyphs.length + 1) ⟨[], [], false, breaks⟩ p
    let ending :=
      match chomp with
      | .strip => []
      | .clip => l.first
      | .keep => l.first ++ l.others
    .ok (⟨l.text ++ ending, if literal then .literal else .folded⟩, p)

end Yaml
end RaceLink
