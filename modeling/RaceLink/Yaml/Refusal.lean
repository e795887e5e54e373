import RaceLink.Record.Mismatch
import RaceLink.Decimal.Shortest
import RaceLink.Yaml.Glyph

/-!
# Refusals of documents

Why a document could not be read.

* `Refusal` — a mistake in the layout of a document, or a value of the wrong shape.
* `Refusal.message` — the text of a refusal, with the places it mentions.
-/

set_option autoImplicit false

namespace RaceLink
namespace Yaml

/-- Why a document could not be read. -/
inductive Refusal where
  /-- A mistake in the layout, where it was met, and what was being read, with its place. -/
  | layout (problem : String) (spot : Spot) (context : Option (String × Spot))
  /-- A control character behind this many bytes. -/
  | controlCharacter (offset : Nat)
  /-- A reference to a name that nothing has. -/
  | unknownAnchor (spot : Spot)
  /-- The document ended where a value was due. -/
  | endOfDocument
  | manyDocuments
  /-- A value of the wrong shape, with the names of the fields that lead to it. -/
  | mismatch (path : Option String) (what : Record.Mismatch) (spot : Spot)

/-- How a float is written in a message about a document: always in full. -/
def realStyle : Decimal.Style := ⟨none, 1, "NaN", "inf"⟩

/-- The wording of mismatches met in a document. -/
def wording : Record.Wording := ⟨"unit value", realStyle.text⟩

namespace Refusal

/-- A place at the end of a message; the first place of a text is not mentioned. -/
def placeText (s : Spot) : String := if s.isStart then "" else " at " ++ s.text

/-- The text of a refusal. -/
def message : Refusal → String
  | layout problem spot context =>
    problem ++ placeText spot ++
      (match context with
        | none => ""
        | some (what, began) =>
          ", " ++ what ++
            (if began.line = spot.line && began.column = spot.column then "" else placeText began))
  | controlCharacter offset =>
    "control characters are not allowed" ++ (if offset = 0 then "" else s!" at position {offset}")
  | unknownAnchor spot => "unknown anchor" ++ placeText spot
  | endOfDocument => "EOF while parsing a value"
  | manyDocuments => "deserializing from YAML containing more than one document is not supported"
  | mismatch path what spot =>
    (match path with
      | none => ""
      | some p => p ++ ": ") ++
      what.message wording ++ placeText spot

/-- Refuses the layout at `spot`, while something that began at `began` was being read. -/
def within {α : Type} (context : String) (began : Spot) (problem : String) (spot : Spot) :
    Except Refusal α :=
  .error (.layout problem spot (some (context, began)))

end Refusal
end Yaml
end RaceLink
