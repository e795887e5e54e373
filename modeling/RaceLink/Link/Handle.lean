import RaceLink.Link.Run
import RaceLink.Settings.Valid

/-!
# Handles

How a client is started, and what a handle to it offers.

* `Settings.start` — a client with these settings, if they can be used.
* `Settings.connect` — the same over web sockets, which do not wait for ever.
* `Wish` — the calls of a handle that lead to a request.
* `Wish.request` — the request of a call; a frequency out of the band leads to none.
-/

set_option autoImplicit false

namespace RaceLink

namespace Settings

/-- How a client with these settings behaves towards the connection. -/
def terms (s : Settings) : Terms := ⟨s.reconnectDelay.toNat, s.idleTimeout.toNat, s.resync⟩

/-- The hub of a client with these settings, with some observers. -/
def hub (s : Settings) (observers : Nat) : Hub :=
  { Hub.make s.noticeCapacity.toNat with observers := observers }

/-- A client with these settings that has just been started, with one handle; `script` is what its
attempts will meet. -/
def start (s : Settings) (script : List Attempt) (observers : Nat) : Except Fault Link :=
  s.validate.map fun _ => Link.start s.terms script (s.hub observers)

/-- A client with these settings over web sockets.  Whatever its attempts meet, a socket that has
not opened within the time of the settings is given up. -/
def connect (s : Settings) (script : List Attempt) : Except Fault Link :=
  s.start (script.map (Attempt.within s.connectTimeout.toNat)) 0

end Settings

/-- A call of a handle that leads to a request. -/
inductive Wish where
  | startRace
  | stopRace
  | resetRace
  | refresh
  | setFrequency (mhz : UInt16)
  | setThreshold (value : UInt8)
  | send (c : Command)
  deriving DecidableEq, Repr

namespace Wish

/-- The request of a call, or why there is none. -/
def request : Wish → Except Fault Request
  | startRace => .ok (.send .startRace)
  | stopRace => .ok (.send .stopRace)
  | resetRace => .ok .reset
  | refresh => .ok .refresh
  | setFrequency mhz => (Command.setFrequency? mhz).map .send
  | setThreshold value => .ok (.send (.setThreshold value))
  | send c => .ok (.send c)

end Wish
end RaceLink
