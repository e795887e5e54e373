import RaceLink.Json.Choice
import RaceLink.Json.Printer

/-!
# Sessions

* `SessionId` — the number of a session, shown as `#1`.
* `LinkState` — whether a session is open, being sought, or never to come again.
-/

set_option autoImplicit false

namespace RaceLink

/-- The number of a session; sessions are counted from one. -/
structure SessionId where
  number : UInt64
  deriving DecidableEq, Repr

namespace SessionId

/-- The way an identity is shown. -/
def display (id : SessionId) : String := s!"#{id.number.toNat}"

/-- Reads an identity. -/
def read : Json.Reader SessionId := fun s => do
  let (n, s) ← Json.Read.wholeWord .u64 s
  .ok (⟨UInt64.ofNat n⟩, s)

/-- The tree that is written for an identity. -/
def toJson (id : SessionId) : Json := .number (.natural id.number.toNat)

end SessionId

/-- What a client says about its connection. -/
inductive LinkState where
  | connecting
  | isOpen
  | closed
  deriving DecidableEq, Repr, Inhabited

namespace LinkState

/-- The name of a state. -/
def name : LinkState → String
  | connecting => "connecting"
  | isOpen => "open"
  | closed => "closed"

/-- The names of all states. -/
def names : List String := [connecting.name, isOpen.name, closed.name]

/-- The state of a name; names are checked before they come here. -/
def ofName (n : String) : LinkState :=
  if n = connecting.name then connecting else if n = isOpen.name then isOpen else closed

/-- Reads a state. -/
def read : Json.Reader LinkState :=
  Json.Read.choice names (fun n => .ok (ofName n)) fun n s => do
    let ((), s) ← Json.Read.noPayload s
    .ok (ofName n, s)

/-- The tree that is written for a state. -/
def toJson (s : LinkState) : Json := .text s.name

end LinkState
end RaceLink
