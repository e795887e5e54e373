import RaceLink.Yaml.Event

/-!
# Documents

A text may hold several documents.  Of the first one, this module tells the nodes in order, with
every reference replaced by the start of the node it refers to, and how the text goes on.

* `Node` — a node or one end of it, and whether it is only referred to where it stands.
* `Document` — the nodes of the first document of a text.
* `Document.ofText` — the first document of a text.

A node that is referred to has a name; the latest node of that name is meant.  Names are numbered as
they come, by the count of different names met before, and it is the numbers that refer: after a
name has been given twice, the next new name shares its number.
-/

set_option autoImplicit false

namespace RaceLink
namespace Yaml

/-- The names that nodes have been given. -/
structure Anchors where
  numbers : List (List Char × Nat)
  targets : List (Nat × Event)

namespace Anchors

/-- No names. -/
def empty : Anchors := ⟨[], []⟩

/-- Gives a node a name. -/
def add (a : Anchors) (name : List Char) (target : Event) : Anchors :=
  let number := a.numbers.length
  ⟨(name, number) :: a.numbers.filter (·.1 ≠ name), (number, target) :: a.targets⟩

/-- Gives a node the name it comes with, if any. -/
def note (a : Anchors) (e : Event) : Anchors :=
  match e.kind with
  | .scalar ⟨some name, _⟩ _ | .sequenceStart ⟨some name, _⟩ | .mappingStart ⟨some name, _⟩ =>
    a.add name e
  | _ => a

/-- The start of the node with a name. -/
def find? (a : Anchors) (name : List Char) : Option Event :=
  (a.numbers.lookup name).bind fun n => a.targets.lookup n

end Anchors

/-- A node of a document, or one end of it. -/
structure Node where
  event : Event
  /-- Whether the node stands elsewhere, and is only referred to. -/
  borrowed : Bool
  deriving DecidableEq, Repr

/-- The first document of a text. -/
structure Document where
  /-- Its nodes; none if the text has no document. -/
  nodes : List Node
  /-- The mistake at which the document ends. -/
  ending : Option Refusal
  /-- Whether something comes after the document. -/
  followed : Bool

namespace Document

/-- The nodes among events, up to the end of the document. -/
def gather (a : Anchors) (ending : Option Refusal) : List Event → Document
  | [] => ⟨[], ending, false⟩
  | e :: rest =>
    match e.kind with
    | .documentStart => gather a ending rest
    | .streamEnd => ⟨[], none, false⟩
    | .documentEnd =>
      ⟨[], none,
        match rest with
        | [⟨.streamEnd, _⟩] => false
        | _ => true⟩
    | .alias name =>
      match a.find? name with
      | none => ⟨[], some (.unknownAnchor e.spot), false⟩
      | some target =>
        let d := gather a ending rest
        { d with nodes := ⟨target, true⟩ :: d.nodes }
    | _ =>
      let d := gather (a.note e) ending rest
      { d with nodes := ⟨e, false⟩ :: d.nodes }

/-- The first document of a text. -/
def ofText (s : List Char) : Document :=
  let (events, ending) := Event.ofText s
  gather .empty ending events

end Document
end Yaml
end RaceLink
