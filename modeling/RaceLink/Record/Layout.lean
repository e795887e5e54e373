import RaceLink.Record.Mismatch

/-!
# Layouts of records

A record is read field by field, from a format that is not known here.  A `Layout` says what the
fields are called, what kind of value each takes and how a record is assembled from the fields that
were met; the readers of the formats do the rest.

* `Kind` — the kinds of value a field can take, with the type a value of each has once read.
* `Slot` — a named slot of a record under construction.
* `Layout` — the fields in the order of their declaration, and what is to be done about missing
  and unknown ones.
-/

set_option autoImplicit false

namespace RaceLink
namespace Record

/-- An unsigned integer type: its size in bits and the name messages give it. -/
structure Word where
  bits : Nat
  name : String
  deriving DecidableEq, Repr

namespace Word

def u8 : Word := ⟨8, "u8"⟩
def u16 : Word := ⟨16, "u16"⟩
def u32 : Word := ⟨32, "u32"⟩
def u64 : Word := ⟨64, "u64"⟩
/-- A count of things held in memory: as wide as an address. -/
def count : Word := ⟨64, "usize"⟩

/-- Whether a number fits the type. -/
def fits (w : Word) (n : Nat) : Bool := decide (n < Nat.pow 2 w.bits)

end Word

/-- The kinds of value a field can take. -/
inductive Kind where
  | word (w : Word)
  | flag
  | text
  /-- A number that may also be given as an explicit nothing. -/
  | optionalWord (w : Word)
  deriving DecidableEq, Repr

namespace Kind

/-- The type of a value of a kind, once it has been read. -/
abbrev Value : Kind → Type
  | word _ => Nat
  | flag => Bool
  | text => String
  | optionalWord _ => Option Nat

/-- The way messages name what a kind asks for. -/
def expected : Kind → String
  | word w => w.name
  | flag => "a boolean"
  | text => "a string"
  | optionalWord w => w.name

end Kind

/-- A named slot of a record under construction. -/
structure Slot (σ : Type) where
  name : String
  /-- A second name under which the field is accepted as well. -/
  otherName : Option String
  kind : Kind
  /-- Whether the slot has been filled already. -/
  filled : σ → Bool
  put : σ → kind.Value → σ

namespace Slot

/-- Whether a name denotes the field. -/
def answersTo {σ : Type} (f : Slot σ) (name : String) : Bool :=
  f.name == name || f.otherName == some name

end Slot

/-- How a record of type `α` is read by way of a draft of type `σ`. -/
structure Layout (σ α : Type) where
  /-- The way messages name the record. -/
  name : String
  /-- The draft with no field filled. -/
  blank : σ
  /-- The fields in the order of their declaration. -/
  fields : List (Slot σ)
  /-- The finished record, or the first field that is missing from it. -/
  finish : σ → Except Mismatch α
  /-- Whether names that no field answers to are refused. -/
  closed : Bool
  /-- Whether a sequence may end before the last field. -/
  lenient : Bool

namespace Layout

/-- The field that answers to a name. -/
def field? {σ α : Type} (l : Layout σ α) (name : String) : Option (Slot σ) :=
  l.fields.find? (·.answersTo name)

/-- The way a message names the number of elements a sequence should have. -/
def lengthExpected {σ α : Type} (l : Layout σ α) : String :=
  let n := l.fields.length
  let noun := if n = 1 then "element" else "elements"
  s!"{l.name} with {n} {noun}"

end Layout

end Record
end RaceLink
