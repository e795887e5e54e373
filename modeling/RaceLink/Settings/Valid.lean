import RaceLink.Endpoint.Url
import RaceLink.Fault
import RaceLink.Settings.Basic

/-!
# Settings that can be used

* `Settings.validate` — the address of the timer, if the settings can be used.
* `Settings.endpointFor` — the address of the socket for a page served from an origin: on the same
  machine, and as safe as the page itself.
* `Settings.forOrigin` — the settings for such a page.
-/

set_option autoImplicit false

namespace RaceLink

open Endpoint (Url Scheme)

namespace Settings

/-- The first limit that is zero although it must not be. -/
def zeroLimit? (s : Settings) : Option String :=
  [("reconnect_delay_ms", s.reconnectDelay), ("connect_timeout_ms", s.connectTimeout),
    ("request_buffer", s.requestBuffer), ("notification_capacity", s.noticeCapacity)].findSome?
    fun (name, limit) => if limit = 0 then some name else none

/-- The address that the endpoint stands for; only sockets will do. -/
def url (s : Settings) : Except Fault Url :=
  let invalid (reason : String) : Fault := .invalidEndpoint s.endpoint reason
  match Url.parse s.endpoint with
  | .error r => .error (invalid r.message)
  | .ok (.server u) =>
    match u.scheme with
    | .ws | .wss => .ok u
    | scheme => .error (invalid s!"unsupported scheme '{scheme.name}', expected ws or wss")
  | .ok (.other scheme) =>
    .error (invalid s!"unsupported scheme '{scheme}', expected ws or wss")

/-- The address of the timer, if the settings can be used. -/
def validate (s : Settings) : Except Fault Url :=
  match s.zeroLimit? with
  | some name => .error (.config name "must be at least 1")
  | none => s.url

/-! ## Settings for a page -/

/-- The scheme of the socket for a page of this scheme: safe for a safe page. -/
def socketScheme? : Scheme → Option Scheme
  | .https | .wss => some .wss
  | .http | .ws => some .ws
  | .ftp => none

/-- The text of the address of the socket on the server of a page. -/
def socketText (scheme : Scheme) (page : Url) : String :=
  scheme.name ++ "://" ++ page.host.text ++ String.ofList page.portText ++ socketPath

/-- What stands for the text of an address in a fault if the text is not known. -/
def unparsed : String := "<unparsed>"

/-- The fault of a text that is not an address, where the text is not known. -/
def unparsedFault (r : Endpoint.Refusal) : Fault := .invalidEndpoint unparsed r.message

/-- The address of the socket for a page served from `origin`. -/
def endpointFor (origin : String) : Except Fault Url :=
  let invalid (reason : String) : Fault := .invalidEndpoint origin reason
  let unusable (scheme : String) : Fault :=
    invalid s!"cannot derive a socket URL from scheme '{scheme}'"
  match Url.parse origin with
  | .error r => .error (invalid r.message)
  | .ok (.other scheme) => .error (unusable scheme)
  | .ok (.server page) =>
    match socketScheme? page.scheme with
    | none => .error (unusable page.scheme.name)
    | some scheme =>
      match Url.parse (socketText scheme page) with
      | .error r => .error (unparsedFault r)
      | .ok (.other scheme) => .error (unusable scheme)
      | .ok (.server socket) => .ok socket

/-- The settings for a page served from `origin`. -/
def forOrigin (origin : String) : Except Fault Settings :=
  (endpointFor origin).map fun u => withEndpoint u.text

end Settings
end RaceLink
