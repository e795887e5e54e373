import RaceLink.Json.Lexeme

/-!
# Reading a tree

The grammar of JSON over the list of unread characters.

* `hasItem`, `hasMember` — whether another item or member follows, which is where commas and
  closing brackets are checked.
* `items`, `members` — the inside of an array or an object, for any reader of what it holds.
* `tree` — a value whose brackets are nested no deeper than allowed; the recursion is on that
  allowance, so that the loops inside it run on a reader that is already known.
* `document` — a whole text: one value and nothing but blanks after it.
-/

set_option autoImplicit false

namespace RaceLink
namespace Json
namespace Read

open Refusal (here past)

/-- The number of brackets that may be open at once. -/
def deepest : Nat := 127

/-! ## Between the parts -/

/-- Whether another item of an array follows.  If one does, it is the next thing to be read; if
not, the closing bracket is. -/
def hasItem (first : Bool) : Reader Bool := fun s =>
  match skipBlanks s with
  | [] => here .endOfList []
  | c :: rest =>
    if c = ']' then .ok (false, c :: rest)
    else if first then .ok (true, c :: rest)
    else if c = ',' then
      match skipBlanks rest with
      | [] => here .endOfValue []
      | d :: rest =>
        if d = ']' then past .trailingComma (d :: rest) else .ok (true, d :: rest)
    else past .expectedCommaOrBracket (c :: rest)

/-- Whether another member of an object follows.  If one does, what is unread begins after the
opening quote of its name; if not, it begins with the closing bracket. -/
def hasMember (first : Bool) : Reader Bool := fun s =>
  match skipBlanks s with
  | [] => here .endOfObject []
  | c :: rest =>
    if c = '\x7d' then .ok (false, c :: rest)
    else if first then
      if c = '"' then .ok (true, rest) else past .keyNotString (c :: rest)
    else if c = ',' then
      match skipBlanks rest with
      | [] => here .endOfValue []
      | d :: rest =>
        if d = '"' then .ok (true, rest)
        else if d = '\x7d' then past .trailingComma (d :: rest)
        else past .keyNotString (d :: rest)
    else past .expectedCommaOrBrace (c :: rest)

/-- Reads the colon after a name. -/
def colon : Reader Unit := fun s =>
  match skipBlanks s with
  | [] => here .endOfObject []
  | c :: rest => if c = ':' then .ok ((), rest) else past .expectedColon (c :: rest)

/-! ## Arrays and objects -/

/-- Reads the items of an array and its closing bracket, in at most `steps` items. -/
def itemsWithin {α : Type} (item : Reader α) : Nat → Bool → Reader (List α)
  | 0, _, _ => here .endOfList []
  | steps + 1, first, s => do
    let (more, s) ← hasItem first s
    if more then
      let (v, s) ← item s
      let (vs, s) ← itemsWithin item steps false s
      .ok (v :: vs, s)
    else .ok ([], s.drop 1)

/-- Reads the items of an array after its opening bracket. -/
def items {α : Type} (item : Reader α) : Reader (List α) := fun s =>
  itemsWithin item (s.length + 1) true s

/-- Reads the members of an object and its closing bracket, in at most `steps` members. -/
def membersWithin {α : Type} (value : Reader α) : Nat → Bool → Reader (List (String × α))
  | 0, _, _ => here .endOfObject []
  | steps + 1, first, s => do
    let (more, s) ← hasMember first s
    if more then
      let (name, s) ← quoted s
      let ((), s) ← colon s
      let (v, s) ← value s
      let (ms, s) ← membersWithin value steps false s
      .ok ((name, v) :: ms, s)
    else .ok ([], s.drop 1)

/-- Reads the members of an object after its opening bracket. -/
def members {α : Type} (value : Reader α) : Reader (List (String × α)) := fun s =>
  membersWithin value (s.length + 1) true s

/-! ## Values -/

/-- Reads a value that opens no bracket, given the reader for those that do. -/
def scalarOr (bracketed : Char → Reader Json) : Reader Json := fun s =>
  match skipBlanks s with
  | [] => here .endOfValue []
  | 'n' :: rest => do
    let ((), s) ← word ['u', 'l', 'l'] rest
    .ok (.null, s)
  | 't' :: rest => do
    let ((), s) ← word ['r', 'u', 'e'] rest
    .ok (.flag true, s)
  | 'f' :: rest => do
    let ((), s) ← word ['a', 'l', 's', 'e'] rest
    .ok (.flag false, s)
  | '-' :: rest => do
    let (n, s) ← number false rest
    .ok (.number n, s)
  | '"' :: rest => do
    let (t, s) ← quoted rest
    .ok (.text t, s)
  | c :: rest =>
    if isDigit c then do
      let (n, s) ← number true (c :: rest)
      .ok (.number n, s)
    else if c = '[' ∨ c = '\x7b' then bracketed c (c :: rest)
    else past .expectedValue (c :: rest)

/-- Reads a value in which at most `depth` brackets are open at once. -/
def tree : Nat → Reader Json
  | 0 => scalarOr fun _ s => past .tooDeep s
  | depth + 1 => scalarOr fun bracket s =>
    if bracket = '[' then do
      let (vs, s) ← items (tree depth) (s.drop 1)
      .ok (.array vs, s)
    else do
      let (ms, s) ← members (tree depth) (s.drop 1)
      .ok (.object ms, s)

/-- Requires that nothing but blanks is left. -/
def finished : List Char → Except Refusal Unit := fun s =>
  match skipBlanks s with
  | [] => .ok ()
  | rest => past .trailingCharacters rest

/-- Reads a whole text with a reader of its one value. -/
def whole {α : Type} (reader : Reader α) (text : List Char) : Except Refusal α := do
  let (v, rest) ← reader text
  finished rest
  .ok v

end Read

/-- The tree of a whole text, as it was written. -/
def document (text : List Char) : Except Refusal Json := Read.whole (Read.tree Read.deepest) text

/-- The tree of a whole text, in canonical form. -/
def parse (text : List Char) : Except Refusal Json := (document text).map canonical

end Json
end RaceLink
