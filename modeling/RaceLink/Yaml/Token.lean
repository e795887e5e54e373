import RaceLink.Yaml.Scalar

/-!
# Tokens of a document

The smallest parts of a document that mean something: scalars, names, the marks between them, and
the starts and ends of collections, which in a document laid out by indentation have no mark of
their own.

* `Token` — a part, with the places where it begins and ends.
* `anchor`, `tag`, `directive` — readers of the parts that describe others.
-/

set_option autoImplicit false

namespace RaceLink
namespace Yaml

/-- What a token is. -/
inductive Token.Kind where
  | streamStart
  | streamEnd
  | version (major minor : Nat)
  | tagShort (handle expansion : List Char)
  | documentStart
  | documentEnd
  | blockSequenceStart
  | blockMappingStart
  | blockEnd
  | flowSequenceStart
  | flowSequenceEnd
  | flowMappingStart
  | flowMappingEnd
  | blockEntry
  | flowEntry
  | key
  | value
  | alias (name : List Char)
  | anchor (name : List Char)
  | tag (handle rest : List Char)
  | scalar (s : Scalar)
  deriving DecidableEq, Repr

/-- A token and its place. -/
structure Token where
  kind : Token.Kind
  spot : Spot
  finish : Spot
  deriving DecidableEq, Repr

/-! ## Names -/

/-- Whether a character can be part of a name. -/
def isNameChar (c : Char) : Bool := c.isAlphanum || c = '_' || c = '-'

/-- Reads the name behind the mark of an anchor, or of a reference to one. -/
def anchor (context : String) (p : Page) : Except Refusal (List Char × Page) :=
  let began := p.spot
  let p := p.skip 1
  let name := p.takeWhile isNameChar
  let p := p.dropWhile isNameChar
  if !name.isEmpty &&
      (p.blankAt 0 || p.has 0 (['?', ':', ',', ']', '\x7d', '%', '@', '`'].contains ·)) then
    .ok (name, p)
  else
    Refusal.within context began "did not find expected alphabetic or numeric character" p.spot

/-! ## Tags -/

/-- What is being read when a tag is. -/
structure TagContext where
  handle : String
  rest : String
  began : Spot

/-- A tag at a node. -/
def TagContext.node (began : Spot) : TagContext :=
  ⟨"while scanning a tag", "while parsing a tag", began⟩

/-- A tag in a directive. -/
def TagContext.directive (began : Spot) : TagContext :=
  ⟨"while scanning a tag directive", "while parsing a %TAG directive", began⟩

/-- The number of bytes of a character whose first byte is `n`. -/
def leadWidth? (n : Nat) : Option Nat :=
  if n < 0x80 then some 1
  else if 0xc0 ≤ n ∧ n < 0xe0 then some 2
  else if 0xe0 ≤ n ∧ n < 0xf0 then some 3
  else if 0xf0 ≤ n ∧ n < 0xf8 then some 4
  else none

/-- The byte written as `%` and two digits. -/
def octet? (p : Page) : Option Nat := do
  let a ← (p.char? 1).bind Text.hexValue?
  let b ← (p.char? 2).bind Text.hexValue?
  if p.has 0 (· = '%') then some (16 * a + b) else none

/-- Reads `count` escaped bytes that follow the first one of a character. -/
def octets (context : TagContext) : Nat → Page → Except Refusal (List Char × Page)
  | 0, p => .ok ([], p)
  | count + 1, p =>
    match octet? p with
    | none => Refusal.within context.rest context.began "did not find URI escaped octet" p.spot
    | some n =>
      if n / 64 ≠ 2 then
        Refusal.within context.rest context.began "found an incorrect trailing UTF-8 octet" p.spot
      else do
        let (more, p) ← octets context count (p.skip 3)
        .ok (Char.ofNat n :: more, p)

/-- Reads an escaped character, byte by byte. -/
def escapedChar (context : TagContext) (p : Page) : Except Refusal (List Char × Page) :=
  match octet? p with
  | none => Refusal.within context.rest context.began "did not find URI escaped octet" p.spot
  | some n =>
    match leadWidth? n with
    | none =>
      Refusal.within context.rest context.began "found an incorrect leading UTF-8 octet" p.spot
    | some width => do
      let (more, p) ← octets context (width - 1) (p.skip 3)
      .ok (Char.ofNat n :: more, p)

/-- Whether a character can be part of a tag; in a tag between angles some more can. -/
def isTagChar (angled : Bool) (c : Char) : Bool :=
  isNameChar c ||
    [';', '/', '?', ':', '@', '&', '=', '+', '$', '.', '!', '~', '*', '\'', '(', ')',
      '%'].contains c ||
    (angled && [',', '[', ']'].contains c)

/-- Reads the characters of a tag, at most `fuel` of them. -/
def tagChars (angled : Bool) (context : TagContext) :
    Nat → Page → Except Refusal (List Char × Page)
  | 0, p => .ok ([], p)
  | fuel + 1, p =>
    match p.char? 0 with
    | none => .ok ([], p)
    | some c =>
      if !isTagChar angled c then .ok ([], p)
      else do
        let (cs, p) ← if c = '%' then escapedChar context p else .ok ([c], p.skip 1)
        let (more, p) ← tagChars angled context fuel p
        .ok (cs ++ more, p)

/-- Reads a tag behind `head`, of which the first mark is left out. -/
def tagText (angled : Bool) (context : TagContext) (head : List Char) (p : Page) :
    Except Refusal (List Char × Page) := do
  let (cs, rest) ← tagChars angled context (p.glyphs.length + 1) p
  if head.isEmpty && rest.glyphs.length = p.glyphs.length then
    Refusal.within context.rest context.began "did not find expected tag URI" rest.spot
  else .ok (head.drop 1 ++ cs, rest)

/-- Reads the short name at the front of a tag. -/
def tagHandle (strict : Bool) (context : TagContext) (p : Page) :
    Except Refusal (List Char × Page) :=
  if !p.has 0 (· = '!') then
    Refusal.within context.handle context.began "did not find expected '!'" p.spot
  else
    let name := '!' :: (p.skip 1).takeWhile isNameChar
    let p := (p.skip 1).dropWhile isNameChar
    if p.has 0 (· = '!') then .ok (name ++ ['!'], p.skip 1)
    else if strict && name ≠ ['!'] then
      Refusal.within "while parsing a tag directive" context.began "did not find expected '!'"
        p.spot
    else .ok (name, p)

/-- Reads a tag: its short name, and the rest. -/
def tag (inFlow : Bool) (p : Page) : Except Refusal (Token.Kind × Page) := do
  let began := p.spot
  let context := TagContext.node began
  let (kind, p) ←
    if p.has 1 (· = '<') then do
      let (text, p) ← tagText true context [] (p.skip 2)
      if !p.has 0 (· = '>') then
        Refusal.within context.handle began "did not find the expected '>'" p.spot
      else .ok (Token.Kind.tag [] text, p.skip 1)
    else do
      let (handle, p) ← tagHandle false context p
      if 1 < handle.length && handle.getLast? = some '!' then do
        let (text, p) ← tagText false context [] p
        .ok (Token.Kind.tag handle text, p)
      else do
        let (text, p) ← tagText false context handle p
        .ok (if text.isEmpty then Token.Kind.tag [] ['!'] else Token.Kind.tag ['!'] text, p)
  if p.blankAt 0 || (inFlow && p.has 0 (· = ',')) then .ok (kind, p)
  else
    Refusal.within context.handle began "did not find expected whitespace or line break" p.spot

/-! ## Directives -/

/-- Reads one of the two numbers of a version. -/
def versionNumber (began : Spot) (p : Page) : Except Refusal (Nat × Page) :=
  let context := "while scanning a %YAML directive"
  let digits := p.takeWhile Char.isDigit
  if 9 < digits.length then
    Refusal.within context began "found extremely long version number" (p.skip 9).spot
  else if digits.isEmpty then
    Refusal.within context began "did not find expected version number" p.spot
  else .ok (digits.foldl (fun n c => 10 * n + (c.toNat - 48)) 0, p.dropWhile Char.isDigit)

/-- Reads what the directive `name` says. -/
def directiveValue (began : Spot) (name : String) (p : Page) :
    Except Refusal (Token.Kind × Page) := do
  if name = "YAML" then
    let (major, p) ← versionNumber began p.dropBlanks
    if !p.has 0 (· = '.') then
      Refusal.within "while scanning a %YAML directive" began
        "did not find expected digit or '.' character" p.spot
    else do
      let (minor, p) ← versionNumber began (p.skip 1)
      .ok (.version major minor, p)
  else if name = "TAG" then
    let context := TagContext.directive began
    let (handle, p) ← tagHandle true context p.dropBlanks
    if p.breakAt 0 || !p.blankAt 0 then
      Refusal.within "while scanning a %TAG directive" began "did not find expected whitespace"
        p.spot
    else do
      let (expansion, p) ← tagText true context [] p.dropBlanks
      if !p.blankAt 0 then
        Refusal.within "while scanning a %TAG directive" began
          "did not find expected whitespace or line break" p.spot
      else .ok (.tagShort handle expansion, p)
  else Refusal.within "while scanning a directive" began "found unknown directive name" p.spot

/-- Reads a directive; the places in the answer are those of the directive alone. -/
def directive (p : Page) : Except Refusal (Token × Page) := do
  let context := "while scanning a directive"
  let began := p.spot
  let p := p.skip 1
  let name := p.takeWhile isNameChar
  let p := p.dropWhile isNameChar
  if name.isEmpty then
    Refusal.within context began "could not find expected directive name" p.spot
  else if !p.blankAt 0 then
    Refusal.within context began "found unexpected non-alphabetical character" p.spot
  else do
    let (kind, p) ← directiveValue began (String.ofList name) p
    let token : Token := ⟨kind, began, p.spot⟩
    let p := p.dropBlanks.dropComment
    if !p.breakAt 0 then
      Refusal.within context began "did not find expected comment or line break" p.spot
    else .ok (token, p.dropBreak)

end Yaml
end RaceLink
