import RaceLink.Json.Record

/-!
# Choices in JSON

A value that is one of several named alternatives.  An alternative without a payload is written as
its name; one with a payload as an object whose only member has that name.

* `Read.variant` — the name of one of the known alternatives.
* `Read.choice` — a choice in either form.
-/

set_option autoImplicit false

namespace RaceLink
namespace Json
namespace Read

open Record (Mismatch)
open Refusal (here past)

/-- The way messages name the name of an alternative. -/
def variantExpected : String := "variant identifier"

/-- A name, if it is one of the known alternatives. -/
def knownVariant (known : List String) (name : String) : Except Mismatch String :=
  if known.contains name then .ok name else .error (.unknownVariant name known)

/-- Reads the name of one of the known alternatives. -/
def variant (known : List String) : Reader String := fun s => do
  let (name, s) ← string variantExpected s
  checked (knownVariant known name) s

/-- Reads the payload of an alternative that has none, as it stands in an object. -/
def noPayload : Reader Unit := fun s =>
  match skipBlanks s with
  | 'n' :: rest => word ['u', 'l', 'l'] rest
  | s => misfit "unit" s

/-- Reads a choice: `bare` gives the alternative of a lone name, `payload` reads what a name
introduces. -/
def choice {α : Type} (known : List String) (bare : String → Except Refusal α)
    (payload : String → Reader α) : Reader α := fun s =>
  match skipBlanks s with
  | [] => here .endOfValue []
  | '"' :: rest => do
    let (name, s) ← variant known ('"' :: rest)
    let a ← bare name
    .ok (a, s)
  | '\x7b' :: rest => do
    let (name, s) ← variant known rest
    let ((), s) ← colon s
    let (a, s) ← payload name s
    match skipBlanks s with
    | [] => here .endOfObject []
    | '\x7d' :: rest => .ok (a, rest)
    | s => here .expectedValue s
  | s => past .expectedValue s

end Read
end Json
end RaceLink
