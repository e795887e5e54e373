import RaceLink.Json.Skip
import RaceLink.Record.Layout
import RaceLink.Text.Quoted

/-!
# Records in JSON

The two ways a record is read: from a tree that has been read before, and straight from a text.
Both follow the same `Layout`; the second can say where the text went wrong.

* `ofTree` — a record from an object, or from an array of its fields in order.
* `Read.record` — the same from unread characters.  A field is read where it stands, so of several
  faults in a text the first one counts; what is missing is noticed at the closing bracket.

In a text, a value of the wrong kind is still read over before it is refused, and the place of the
refusal is behind it; brackets are not entered.
-/

set_option autoImplicit false

namespace RaceLink
namespace Json

open Record (Mismatch Found Kind Slot Layout Word)

/-! ## Kinds of value -/

/-- What a number is, in the terms of a message. -/
def Number.found : Number → Found
  | .natural n => .whole n
  | .negative n => .whole (-n)
  | .real x => .real x

/-- What a tree is, in the terms of a message. -/
def found : Json → Found
  | null => .nothing
  | flag b => .flag b
  | number n => Number.found n
  | text s => .text (Text.quote s)
  | array _ => .sequence
  | object _ => .map

/-- A number as a word of a given size: integers may be out of range, reals are of another kind. -/
def wordOf (w : Word) : Number → Except Mismatch Nat
  | .natural n => if w.fits n then .ok n else .error (.wrongValue (.whole n) w.name)
  | .negative n => .error (.wrongValue (.whole (-n)) w.name)
  | .real x => .error (.wrongKind (.real x) w.name)

/-- A tree as a value of a kind. -/
def kindOf (k : Kind) (v : Json) : Except Mismatch k.Value :=
  match k, v with
  | .word w, number n => wordOf w n
  | .flag, flag b => .ok b
  | .text, text s => .ok s
  | .optionalWord _, null => .ok none
  | .optionalWord w, number n => (wordOf w n).map some
  | k, v => .error (.wrongKind v.found k.expected)

/-! ## From a tree -/

section Tree

variable {σ α : Type}

/-- Fills the field a member answers to; members without a field are passed over, or refused by a
closed layout. -/
def takeMember (l : Layout σ α) (draft : σ) (m : String × Json) : Except Mismatch σ :=
  match l.field? m.1 with
  | some f =>
    if f.filled draft then .error (.duplicate f.name)
    else (kindOf f.kind m.2).map (f.put draft)
  | none => if l.closed then .error (.unknownField m.1 (l.fields.map (·.name))) else .ok draft

/-- A record from the members of an object. -/
def ofMembers (l : Layout σ α) (members : List (String × Json)) : Except Mismatch α := do
  let draft ← members.foldlM (takeMember l) l.blank
  l.finish draft

/-- Fills the fields from items in order, and returns the items that are left. -/
def takeItems (l : Layout σ α) : Nat → List (Slot σ) → σ → List Json →
    Except Mismatch (σ × List Json)
  | _, [], draft, rest => .ok (draft, rest)
  | index, _ :: fields, draft, [] =>
    if l.lenient then takeItems l (index + 1) fields draft []
    else .error (.wrongLength index l.lengthExpected)
  | index, f :: fields, draft, v :: rest => do
    let x ← kindOf f.kind v
    takeItems l (index + 1) fields (f.put draft x) rest

/-- A record from the items of an array; `surplus` is the refusal of an array that is too long. -/
def ofItems (l : Layout σ α) (surplus : Mismatch) (items : List Json) : Except Mismatch α := do
  let (draft, rest) ← takeItems l 0 l.fields l.blank items
  let record ← l.finish draft
  if rest.isEmpty then .ok record else .error surplus

/-- A record from a tree. -/
def ofTree (l : Layout σ α) : Json → Except Mismatch α
  | object members => ofMembers l members
  | array items => ofItems l (.wrongLength items.length "fewer elements in array") items
  | v => .error (.wrongKind v.found l.name)

end Tree

/-! ## From a text -/

namespace Read

open Refusal (here past)

/-- A mismatch noticed behind what has been read. -/
def mismatch {α : Type} (m : Mismatch) (s : List Char) : Except Refusal α := here (.mismatch m) s

/-- Attaches a place to the mismatch of a value that has been read. -/
def checked {α : Type} (result : Except Mismatch α) : Reader α := fun s =>
  match result with
  | .ok a => .ok (a, s)
  | .error m => mismatch m s

/-- Reads over a value of the wrong kind and refuses it. -/
def misfit {α : Type} (expected : String) : Reader α := fun s =>
  match s with
  | [] => here .endOfValue []
  | 'n' :: rest => do
    let ((), s) ← word ['u', 'l', 'l'] rest
    mismatch (.wrongKind .nothing expected) s
  | 't' :: rest => do
    let ((), s) ← word ['r', 'u', 'e'] rest
    mismatch (.wrongKind (.flag true) expected) s
  | 'f' :: rest => do
    let ((), s) ← word ['a', 'l', 's', 'e'] rest
    mismatch (.wrongKind (.flag false) expected) s
  | '-' :: rest => do
    let (n, s) ← number false rest
    mismatch (.wrongKind (Number.found n) expected) s
  | '"' :: rest => do
    let (t, s) ← quoted rest
    mismatch (.wrongKind (.text (Text.quote t)) expected) s
  | '[' :: _ => mismatch (.wrongKind .sequence expected) s
  | '\x7b' :: _ => mismatch (.wrongKind .map expected) s
  | c :: rest =>
    if isDigit c then do
      let (n, s) ← number true (c :: rest)
      mismatch (.wrongKind (Number.found n) expected) s
    else past .expectedValue (c :: rest)

/-- Reads an unsigned integer. -/
def wholeWord (w : Word) : Reader Nat := fun s =>
  match skipBlanks s with
  | '-' :: rest => do
    let (n, s) ← number false rest
    checked (wordOf w n) s
  | c :: rest =>
    if isDigit c then do
      let (n, s) ← number true (c :: rest)
      checked (wordOf w n) s
    else misfit w.name (c :: rest)
  | [] => here .endOfValue []

/-- Reads a boolean. -/
def boolean : Reader Bool := fun s =>
  match skipBlanks s with
  | 't' :: rest => do
    let ((), s) ← word ['r', 'u', 'e'] rest
    .ok (true, s)
  | 'f' :: rest => do
    let ((), s) ← word ['a', 'l', 's', 'e'] rest
    .ok (false, s)
  | s => misfit Kind.flag.expected s

/-- Reads a string for which messages use the given name. -/
def string (expected : String) : Reader String := fun s =>
  match skipBlanks s with
  | '"' :: rest => quoted rest
  | s => misfit expected s

/-- Reads a value of a kind. -/
def kind : (k : Kind) → Reader k.Value
  | .word w => wholeWord w
  | .flag => boolean
  | .text => string Kind.text.expected
  | .optionalWord w => fun s =>
    match skipBlanks s with
    | 'n' :: rest => do
      let ((), s) ← word ['u', 'l', 'l'] rest
      .ok (none, s)
    | s => do
      let (n, s) ← wholeWord w s
      .ok (some n, s)

section Record

variable {σ α : Type}

/-- Reads members into a draft up to the closing bracket, which stays unread. -/
def fieldsWithin (l : Layout σ α) : Nat → Bool → σ → Reader σ
  | 0, _, _, _ => here .endOfObject []
  | steps + 1, first, draft, s => do
    let (more, s) ← hasMember first s
    if more then
      let (name, s) ← quoted s
      match l.field? name with
      | some f =>
        if f.filled draft then
          .error ⟨.mismatch (.duplicate f.name), some (Text.weight (closed '\x7d' s))⟩
        else
          let ((), s) ← colon s
          let (x, s) ← kind f.kind s
          fieldsWithin l steps false (f.put draft x) s
      | none =>
        if l.closed then
          .error ⟨.mismatch (.unknownField name (l.fields.map (·.name))),
            some (Text.weight (closed '\x7d' s))⟩
        else
          let ((), s) ← colon s
          let ((), s) ← Skip.value s
          fieldsWithin l steps false draft s
    else .ok (draft, s)
where
  /-- A refusal inside an object is placed behind blanks, and behind the closing bracket if that
  comes next. -/
  closed (bracket : Char) (s : List Char) : List Char :=
    match skipBlanks s with
    | c :: rest => if c = bracket then rest else c :: rest
    | [] => []

/-- Reads items into the fields of a draft, in order. -/
def itemFields (l : Layout σ α) : Nat → List (Slot σ) → σ → Reader σ
  | _, [], draft, s => .ok (draft, s)
  | index, f :: fields, draft, s => do
    let (more, s) ← hasItem (index == 0) s
    if more then
      let (x, s) ← kind f.kind s
      itemFields l (index + 1) fields (f.put draft x) s
    else if l.lenient then itemFields l (index + 1) fields draft s
    else mismatch (.wrongLength index l.lengthExpected) (s.drop 1)

/-- Reads the end of an array all of whose items have been read. -/
def arrayEnd : Reader Unit := fun s =>
  match skipBlanks s with
  | [] => here .endOfList []
  | c :: rest =>
    if c = ']' then .ok ((), rest)
    else if c = ',' then
      match skipBlanks rest with
      | ']' :: rest => past .trailingComma (']' :: rest)
      | rest => past .trailingCharacters rest
    else past .trailingCharacters (c :: rest)

/-- Reads a record. -/
def record (l : Layout σ α) : Reader α := fun s =>
  match skipBlanks s with
  | [] => here .endOfValue []
  | '\x7b' :: rest => do
    let (draft, s) ← fieldsWithin l (rest.length + 1) true l.blank rest
    checked (l.finish draft) (s.drop 1)
  | '[' :: rest => do
    let (draft, s) ← itemFields l 0 l.fields l.blank rest
    match l.finish draft with
    | .ok r => do
      let ((), s) ← arrayEnd s
      .ok (r, s)
    | .error m => mismatch m (s.drop 1)
  | s => misfit l.name s

end Record

end Read
end Json
end RaceLink
