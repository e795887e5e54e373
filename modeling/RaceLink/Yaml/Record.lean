import RaceLink.Yaml.Document
import RaceLink.Yaml.Meaning

/-!
# Records in documents

A record is read from a document that is a mapping of its fields.  Names that no field answers to
are refused, and a document without content is a record of which no field is given.

* `record` — the record that a text holds.

The nodes are read in order, so of several faults the first one counts; a mistake in the layout
counts where the nodes before it end.
-/

set_option autoImplicit false

namespace RaceLink
namespace Yaml

open Record (Mismatch Layout Slot)

section

variable {σ α : Type}

/-- The text of a key; only a scalar is one. -/
def keyText (e : Event) : Except Mismatch String :=
  match e.kind with
  | .scalar _ s => .ok (String.ofList s.text)
  | _ => .error (mismatch e "field identifier")

/-- The field that a key names. -/
def fieldFor (l : Layout σ α) (e : Event) : Except Mismatch (Slot σ) := do
  let name ← keyText e
  match l.field? name with
  | some f => .ok f
  | none => .error (.unknownField name (l.fields.map (·.name)))

/-- The way a message names the value behind a key; a key that is only referred to is not looked
up. -/
def pathOf (key : Node) : String :=
  match key.borrowed, keyText key.event with
  | false, .ok name => name
  | _, _ => "?"

/-- The refusal where nodes are missing. -/
def exhausted (ending : Option Refusal) : Refusal := ending.getD .endOfDocument

/-- Reads the entries of a mapping that began at `began`. -/
def entries (l : Layout σ α) (began : Spot) (ending : Option Refusal) :
    σ → List Node → Except Refusal α
  | _, [] => .error (exhausted ending)
  | draft, key :: rest =>
    if key.event.kind = .mappingEnd then
      (l.finish draft).mapError fun m => .mismatch none m began
    else
      match fieldFor l key.event with
      | .error m => .error (.mismatch none m key.event.spot)
      | .ok f =>
        if f.filled draft then .error (.mismatch none (.duplicate f.name) began)
        else
          match rest with
          | [] => .error (exhausted ending)
          | value :: rest =>
            match valueOf f.kind value.event with
            | .error m => .error (.mismatch (some (pathOf key)) m value.event.spot)
            | .ok x => entries l began ending (f.put draft x) rest

/-- Whether a node is a scalar without any text. -/
def isBlank (e : Event) : Bool :=
  match e.kind with
  | .scalar _ s => s.style = .plain && s.text.isEmpty
  | _ => false

/-- The record that the nodes of a document stand for. -/
def ofDocument (l : Layout σ α) (d : Document) : Except Refusal α :=
  let blank (spot : Spot) : Except Refusal α :=
    (l.finish l.blank).mapError fun m => .mismatch none m spot
  match d.nodes, d.ending with
  | [], some r => .error r
  | [], none => blank .start
  | ⟨e, _⟩ :: rest, ending =>
    match e.kind with
    | .mappingStart _ => entries l e.spot ending l.blank rest
    | _ => if isBlank e then blank e.spot else .error (.mismatch none (mismatch e l.name) e.spot)

/-- The record that a text holds. -/
def record (l : Layout σ α) (text : List Char) : Except Refusal α := do
  let d := Document.ofText text
  let value ← ofDocument l d
  match d.ending with
  | some r => .error r
  | none => if d.followed then .error .manyDocuments else .ok value

end

end Yaml
end RaceLink
