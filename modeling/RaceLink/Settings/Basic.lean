import RaceLink.Json.Printer
import RaceLink.Json.Record

/-!
# Settings

What the user decides about a client.  The defaults are those of the timer, which runs a network of
its own and serves its socket there.

* `Settings.layout` — the fields of the settings; a field that is not given keeps its default, and
  a name that is not known is refused.
* `Settings.toJson` — the tree that is written for them.
-/

set_option autoImplicit false

namespace RaceLink

/-- The settings of a client; times are in milliseconds. -/
structure Settings where
  endpoint : String
  reconnectDelay : UInt64
  connectTimeout : UInt64
  /-- How long a session may be silent; zero for any length of time. -/
  idleTimeout : UInt64
  /-- Whether the state of the timer is asked for when a session opens. -/
  resync : Bool
  /-- How many requests may wait to be taken. -/
  requestBuffer : UInt64
  /-- How many notices are kept for streams. -/
  noticeCapacity : UInt64
  deriving DecidableEq, Repr

namespace Settings

/-- The path at which the timer serves its socket. -/
def socketPath : String := "/ws"

/-- The settings that reach a timer on its own network. -/
def default : Settings :=
  ⟨"ws://192.168.4.1" ++ socketPath, 3000, 10000, 10000, true, 32, 256⟩

/-- The default settings with another endpoint. -/
def withEndpoint (endpoint : String) : Settings := { default with endpoint := endpoint }

/-! ## As a record -/

/-- Settings of which some fields have been read. -/
structure Draft where
  endpoint : Option String
  reconnectDelay : Option Nat
  connectTimeout : Option Nat
  idleTimeout : Option Nat
  resync : Option Bool
  requestBuffer : Option Nat
  noticeCapacity : Option Nat

/-- The fields of the settings. -/
def fields : List (Record.Slot Draft) :=
  [⟨"endpoint", none, .text, fun d => d.endpoint.isSome, fun d v => { d with endpoint := some v }⟩,
   ⟨"reconnect_delay_ms", none, .word .u64, fun d => d.reconnectDelay.isSome,
    fun d v => { d with reconnectDelay := some v }⟩,
   ⟨"connect_timeout_ms", none, .word .u64, fun d => d.connectTimeout.isSome,
    fun d v => { d with connectTimeout := some v }⟩,
   ⟨"idle_timeout_ms", none, .word .u64, fun d => d.idleTimeout.isSome,
    fun d v => { d with idleTimeout := some v }⟩,
   ⟨"resync_on_connect", none, .flag, fun d => d.resync.isSome,
    fun d v => { d with resync := some v }⟩,
   ⟨"request_buffer", none, .word .count, fun d => d.requestBuffer.isSome,
    fun d v => { d with requestBuffer := some v }⟩,
   ⟨"notification_capacity", none, .word .count, fun d => d.noticeCapacity.isSome,
    fun d v => { d with noticeCapacity := some v }⟩]

/-- A word that was read, or the default if none was. -/
def wordOr (given : Option Nat) (otherwise : UInt64) : UInt64 :=
  match given with
  | some n => UInt64.ofNat n
  | none => otherwise

/-- The settings in which what was left out has its default. -/
def finish (d : Draft) : Settings :=
  { endpoint := d.endpoint.getD default.endpoint
    reconnectDelay := wordOr d.reconnectDelay default.reconnectDelay
    connectTimeout := wordOr d.connectTimeout default.connectTimeout
    idleTimeout := wordOr d.idleTimeout default.idleTimeout
    resync := d.resync.getD default.resync
    requestBuffer := wordOr d.requestBuffer default.requestBuffer
    noticeCapacity := wordOr d.noticeCapacity default.noticeCapacity }

/-- The layout of the settings. -/
def layout : Record.Layout Draft Settings :=
  { name := "struct ClientConfig"
    blank := ⟨none, none, none, none, none, none, none⟩
    fields := fields
    finish := fun d => .ok (finish d)
    closed := true
    lenient := true }

/-- The tree that is written for the settings. -/
def toJson (s : Settings) : Json :=
  .object [("endpoint", .text s.endpoint),
    ("reconnect_delay_ms", .number (.natural s.reconnectDelay.toNat)),
    ("connect_timeout_ms", .number (.natural s.connectTimeout.toNat)),
    ("idle_timeout_ms", .number (.natural s.idleTimeout.toNat)),
    ("resync_on_connect", .flag s.resync),
    ("request_buffer", .number (.natural s.requestBuffer.toNat)),
    ("notification_capacity", .number (.natural s.noticeCapacity.toNat))]

end Settings
end RaceLink
