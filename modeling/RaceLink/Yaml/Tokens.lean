import RaceLink.Yaml.Token

/-!
# From a text to its tokens

The tokens of a text are found from left to right.  Two things make this more than cutting the text
up: collections laid out by indentation begin and end where the indentation changes, and whether a
node is the key of a mapping is only known at the colon behind it.  A node that could turn out to be
one is a *candidate*; at the colon the marks of the mapping and the key are put before it.

* `Reading` — what is known half way through a text.
* `Reading.step` — the next token, or the next few.
* `Token.ofText` — all tokens of a text, and the mistake at which they end, if there is one.

A token that comes after a pending candidate cannot be relied on, since the candidate might still
become a key.  If a mistake is met, only the tokens that can be relied on count.
-/

set_option autoImplicit false

namespace RaceLink
namespace Yaml

/-- A node that may turn out to be a key. -/
structure Candidate where
  /-- Its place among the tokens. -/
  number : Nat
  spot : Spot
  /-- Whether nothing else can stand there. -/
  due : Bool
  deriving DecidableEq, Repr

/-- What is known half way through a text. -/
structure Reading where
  page : Page
  tokens : Array Token
  /-- The columns at which the open collections are indented, innermost first. -/
  indents : List Nat
  /-- The candidates, one for each open bracket and one for the text around them. -/
  candidates : List (Option Candidate)
  /-- Whether a key may come next. -/
  keyAllowed : Bool
  finished : Bool

namespace Reading

/-- The most characters that a key may have. -/
def longestKey : Nat := 1024

/-- A text of which nothing has been read. -/
def start (s : List Char) : Reading :=
  { page := .ofText s
    tokens := #[⟨.streamStart, .start, .start⟩]
    indents := []
    candidates := [none]
    keyAllowed := true
    finished := false }

/-- Whether brackets are open. -/
def inFlow (r : Reading) : Bool := 1 < r.candidates.length

/-- The place of the next glyph. -/
def spot (r : Reading) : Spot := r.page.spot

/-- Adds a token. -/
def push (r : Reading) (t : Token) : Reading := { r with tokens := r.tokens.push t }

/-- Adds a token without any extent, before the one at `number` if that is given. -/
def mark (r : Reading) (number : Option Nat) (kind : Token.Kind) (spot : Spot) : Reading :=
  let t : Token := ⟨kind, spot, spot⟩
  match number with
  | none => r.push t
  | some n => { r with tokens := r.tokens.insertIdxIfInBounds n t }

/-- Reads a mark of `size` characters. -/
def take (r : Reading) (kind : Token.Kind) (size : Nat) : Reading :=
  let page := r.page.skip size
  { r.push ⟨kind, r.spot, page.spot⟩ with page := page }

/-! ## Candidates -/

/-- The mistake of a key without a colon. -/
def missingColon {α : Type} (c : Candidate) (spot : Spot) : Except Refusal α :=
  Refusal.within "while scanning a simple key" c.spot "could not find expected ':'" spot

/-- Whether a candidate is too far behind to become a key: a key is on one line, and short. -/
def isStale (spot : Spot) (c : Candidate) : Bool :=
  decide (c.spot.line < spot.line) || decide (c.spot.index + longestKey < spot.index)

/-- The candidates, outermost first, without those that are too far behind. -/
def freshen (spot : Spot) : List (Option Candidate) → Except Refusal (List (Option Candidate))
  | [] => .ok []
  | none :: rest => do
    let rest ← freshen spot rest
    .ok (none :: rest)
  | some c :: rest =>
    if isStale spot c then
      if c.due then missingColon c spot
      else do
        let rest ← freshen spot rest
        .ok (none :: rest)
    else do
      let rest ← freshen spot rest
      .ok (some c :: rest)

/-- Gives up the candidates that are too far behind. -/
def dropStale (r : Reading) : Except Refusal Reading := do
  let candidates ← freshen r.spot r.candidates.reverse
  .ok { r with candidates := candidates.reverse }

/-- Gives up the innermost candidate. -/
def dropCandidate (r : Reading) : Except Refusal Reading :=
  match r.candidates with
  | some c :: rest =>
    if c.due then missingColon c r.spot else .ok { r with candidates := none :: rest }
  | _ => .ok r

/-- Takes the next token for a candidate if a key may come next. -/
def addCandidate (r : Reading) : Except Refusal Reading :=
  if r.keyAllowed then do
    let due := !r.inFlow && r.indents.head? = some r.spot.column
    let r ← r.dropCandidate
    .ok { r with candidates := some ⟨r.tokens.size, r.spot, due⟩ :: r.candidates.drop 1 }
  else .ok r

/-! ## Indentation -/

/-- Begins a collection if the column is further in than those that are open. -/
def indent (r : Reading) (number : Option Nat) (kind : Token.Kind) (spot : Spot) : Reading :=
  if r.inFlow || !(r.indents.head?.all fun i => decide (i < spot.column)) then r
  else { r.mark number kind spot with indents := spot.column :: r.indents }

/-- Ends the collections among `indents` that are further in than `column`, or all of them. -/
def dedentFrom (column : Option Nat) : List Nat → Reading → Reading
  | [], r => { r with indents := [] }
  | i :: rest, r =>
    if column.all fun c => decide (c < i) then
      dedentFrom column rest (r.mark none .blockEnd r.spot)
    else { r with indents := i :: rest }

/-- Ends the collections that are further in than `column`, or all of them. -/
def dedent (r : Reading) (column : Option Nat) : Reading :=
  if r.inFlow then r else dedentFrom column r.indents r

/-! ## What is between tokens -/

/-- Skips blanks, comments and line breaks, at most `fuel` lines of them. -/
def skipSpace : Nat → Reading → Reading
  | 0, r => r
  | fuel + 1, r =>
    let tabs := r.inFlow || !r.keyAllowed
    let page :=
      (r.page.dropWhile fun c => c = ' ' || (tabs && c = '\t')).dropComment
    if page.atBreak then
      skipSpace fuel { r with page := page.skip 1, keyAllowed := r.keyAllowed || !r.inFlow }
    else { r with page := page }

/-- Skips a mark that tells the encoding, at the start of a text. -/
def skipMark (r : Reading) : Reading :=
  if r.spot.index = 0 && r.page.has 0 (· = '\ufeff') then { r with page := r.page.skip 1 } else r

/-! ## Kinds of token -/

/-- The end of the text.  A last line that is not ended counts as ended. -/
def finish (r : Reading) : Except Refusal Reading := do
  let s := r.page.finish
  let s := if s.column = 0 then s else ⟨s.index, s.line + 1, 0⟩
  let r := { r with page := ⟨[], s⟩ }.dedent none
  let r ← r.dropCandidate
  .ok { r.take .streamEnd 0 with keyAllowed := false, finished := true }

/-- What ends everything that is open: a directive, or a mark between documents. -/
def outermost (r : Reading) : Except Refusal Reading := do
  let r ← (r.dedent none).dropCandidate
  .ok { r with keyAllowed := false }

/-- An opening bracket. -/
def opening (r : Reading) (kind : Token.Kind) : Except Refusal Reading := do
  let r ← r.addCandidate
  .ok { r.take kind 1 with candidates := none :: r.candidates, keyAllowed := true }

/-- A closing bracket. -/
def closing (r : Reading) (kind : Token.Kind) : Except Refusal Reading := do
  let r ← r.dropCandidate
  let candidates := if r.inFlow then r.candidates.drop 1 else r.candidates
  .ok { r.take kind 1 with candidates := candidates, keyAllowed := false }

/-- A mark that may only come where a key may, and begins a collection if it is further in. -/
def leading (r : Reading) (kind : Token.Kind) (problem : String) : Except Refusal Reading :=
  if r.inFlow then .ok r
  else if !r.keyAllowed then .error (.layout problem r.spot none)
  else .ok (r.indent none kind r.spot)

/-- The mark of an item of a sequence. -/
def item (r : Reading) : Except Refusal Reading := do
  let r ← r.leading .blockSequenceStart
    "block sequence entries are not allowed in this context"
  let r ← r.dropCandidate
  .ok { r.take .blockEntry 1 with keyAllowed := true }

/-- The mark before a key. -/
def keyMark (r : Reading) : Except Refusal Reading := do
  let r ← r.leading .blockMappingStart "mapping keys are not allowed in this context"
  let r ← r.dropCandidate
  .ok { r.take .key 1 with keyAllowed := !r.inFlow }

/-- The mark between a key and its value. -/
def valueMark (r : Reading) : Except Refusal Reading :=
  match r.candidates with
  | some c :: rest =>
    let r := r.mark (some c.number) .key c.spot
    let r := r.indent (some c.number) .blockMappingStart c.spot
    .ok { r.take .value 1 with candidates := none :: rest, keyAllowed := false }
  | _ => do
    let r ← r.leading .blockMappingStart "mapping values are not allowed in this context"
    .ok { r.take .value 1 with keyAllowed := !r.inFlow }

/-- A token that can be a key, or part of one, read by `read`. -/
def node (r : Reading) (read : Page → Except Refusal (Token.Kind × Page)) :
    Except Refusal Reading := do
  let r ← r.addCandidate
  let (kind, page) ← read r.page
  .ok { r.push ⟨kind, r.spot, page.spot⟩ with page := page, keyAllowed := false }

/-- A block. -/
def blockScalar (r : Reading) (literal : Bool) : Except Refusal Reading := do
  let r ← r.dropCandidate
  let (s, page) ← block literal r.indents.head? r.page
  .ok { r.push ⟨.scalar s, r.spot, page.spot⟩ with page := page, keyAllowed := true }

/-- A plain scalar. -/
def plainScalar (r : Reading) : Except Refusal Reading := do
  let r ← r.addCandidate
  let outer := (r.indents.head?.map (· + 1)).getD 0
  let e ← plain ⟨r.inFlow, outer⟩ r.page
  .ok { r.push ⟨.scalar e.scalar, r.spot, e.rest.spot⟩ with page := e.rest, keyAllowed := e.broken }

/-! ## The next token -/

/-- Whether a character cannot begin a plain scalar, unless what follows it says otherwise. -/
def isIndicator (c : Char) : Bool :=
  ['-', '?', ':', ',', '[', ']', '\x7b', '\x7d', '#', '&', '*', '!', '|', '>', '\'', '"', '%', '@',
    '`'].contains c

/-- Whether a plain scalar begins here. -/
def beginsPlain (r : Reading) (c : Char) : Bool :=
  !(c = ' ' || c = '\t' || isIndicator c) ||
    (c = '-' && !(r.page.has 1 fun d => d = ' ' || d = '\t')) ||
    (!r.inFlow && (c = '?' || c = ':') && !r.page.blankAt 1)

/-- Reads the token that begins with the character `c`. -/
def token (r : Reading) (c : Char) : Except Refusal Reading :=
  let loose := r.inFlow || r.page.blankAt 1
  if r.spot.column = 0 && c = '%' then do
    let r ← r.outermost
    let (t, page) ← directive r.page
    .ok { r.push t with page := page }
  else if r.page.parts '-' then do
    let r ← r.outermost
    .ok (r.take .documentStart 3)
  else if r.page.parts '.' then do
    let r ← r.outermost
    .ok (r.take .documentEnd 3)
  else if c = '[' then r.opening .flowSequenceStart
  else if c = '\x7b' then r.opening .flowMappingStart
  else if c = ']' then r.closing .flowSequenceEnd
  else if c = '\x7d' then r.closing .flowMappingEnd
  else if c = ',' then do
    let r ← r.dropCandidate
    .ok { r.take .flowEntry 1 with keyAllowed := true }
  else if c = '-' && r.page.blankAt 1 then r.item
  else if c = '?' && loose then r.keyMark
  else if c = ':' && loose then r.valueMark
  else if c = '*' then
    r.node fun p => (anchor "while scanning an alias" p).map fun (name, p) => (.alias name, p)
  else if c = '&' then
    r.node fun p => (anchor "while scanning an anchor" p).map fun (name, p) => (.anchor name, p)
  else if c = '!' then r.node (tag r.inFlow)
  else if c = '|' && !r.inFlow then r.blockScalar true
  else if c = '>' && !r.inFlow then r.blockScalar false
  else if c = '\'' then r.node fun p => (quoted true p).map fun (s, p) => (.scalar s, p)
  else if c = '"' then r.node fun p => (quoted false p).map fun (s, p) => (.scalar s, p)
  else if r.beginsPlain c then r.plainScalar
  else
    Refusal.within "while scanning for the next token" r.spot
      "found character that cannot start any token" r.spot

/-- Reads on to the next token, and gives up the candidates that are then too far behind. -/
def step (r : Reading) : Except Refusal Reading := do
  let r := r.skipMark.skipSpace (r.page.glyphs.length + 1)
  let r ← r.dropStale
  let r := r.dedent (some r.spot.column)
  let r ←
    match r.page.char? 0 with
    | none => r.finish
    | some c => r.token c
  r.dropStale

/-- The tokens that can be relied on: those before the first candidate. -/
def reliable (r : Reading) : List Token :=
  let pending := r.candidates.filterMap (·.map Candidate.number)
  r.tokens.toList.take (pending.foldl min r.tokens.size)

/-- Reads to the end of the text, in at most `fuel` steps. -/
def run : Nat → Reading → List Token × Option Refusal
  | 0, r => (r.tokens.toList, none)
  | fuel + 1, r =>
    if r.finished then (r.tokens.toList, none)
    else
      match r.step with
      | .ok r => run fuel r
      | .error e => (r.reliable, some e)

end Reading

/-- The tokens of a text up to a mistake, and the mistake. -/
def Token.ofText (s : List Char) : List Token × Option Refusal :=
  match firstControl? s with
  | some offset => ([], some (.controlCharacter offset))
  | none => (Reading.start s).run (s.length + 2)

end Yaml
end RaceLink
