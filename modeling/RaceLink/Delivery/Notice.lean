import RaceLink.Race.Model
import RaceLink.Race.Session

/-!
# Notices

What a client tells those who watch it.
-/

set_option autoImplicit false

namespace RaceLink

/-- A part of the model changed, or the connection did. -/
inductive Notice where
  | link (state : LinkState) (session : Option SessionId)
  | model (change : Change)
  deriving DecidableEq, Repr

end RaceLink
