/-!
# Faults

Why a call of the library failed.  None is fatal: a lost connection is sought again, a frame that
cannot be read is dropped, and so is a command while no session is open.

* `Fault.message` — the text of a fault.
* `Fault.retryable` — whether trying again later can help.
* `Fault.suggestions` — what the user may do about it.
-/

set_option autoImplicit false

namespace RaceLink

/-- Why a call failed; `source` is the text of an underlying cause, where one is kept. -/
inductive Fault where
  | transport (reason : String) (source : Option String)
  | decode (details : String) (source : Option String)
  | notConnected (command : String)
  | invalidParameter (parameter : String) (value : Int) (reason : String)
  | invalidEndpoint (endpoint : String) (reason : String)
  | config (context : String) (details : String)
  | file (path : String) (source : String)
  | shutdown
  deriving DecidableEq, Repr

namespace Fault

/-- The text of a fault. -/
def message : Fault → String
  | transport reason _ => s!"Transport error: {reason}"
  | decode details _ => s!"Failed to decode message: {details}"
  | notConnected command => s!"No open session, dropped command '{command}'"
  | invalidParameter parameter value reason =>
    s!"Invalid value {value} for '{parameter}': {reason}"
  | invalidEndpoint endpoint reason => s!"Invalid endpoint '{endpoint}': {reason}"
  | config context details => s!"Configuration error in {context}: {details}"
  | file path _ => s!"Config file error: {path}"
  | shutdown => "Client has been shut down"

/-- The text of the underlying cause, where one is kept. -/
def source? : Fault → Option String
  | transport _ source => source
  | decode _ source => source
  | file _ source => some source
  | _ => none

/-- Whether the same call may succeed later: only what depends on the connection may. -/
def retryable : Fault → Bool
  | transport _ _ => true
  | notConnected _ => true
  | _ => false

/-- What the user may do about a fault. -/
def suggestions : Fault → List String
  | transport _ _ =>
    ["Check that the lap timer is powered and reachable",
     "Verify you are joined to the timer's WiFi network",
     "Wait for the automatic reconnect"]
  | decode _ _ =>
    ["Check that the timer firmware speaks the same message format",
     "Inspect the raw frame in debug logs"]
  | notConnected _ =>
    ["Wait for the connection to come back and send the command again",
     "Check the connection state before issuing commands"]
  | invalidParameter _ _ _ =>
    ["Use a frequency between 5645 and 5945 MHz",
     "Check the value entered in the UI"]
  | invalidEndpoint _ _ =>
    ["Use a ws:// or wss:// URL",
     "Derive the endpoint from the page origin with ClientConfig::for_origin"]
  | config _ _ =>
    ["Check the configuration file syntax",
     "Compare field names against ClientConfig"]
  | file _ _ =>
    ["Check file exists and is readable",
     "Check file permissions"]
  | shutdown => ["Create a new client"]

end Fault
end RaceLink
