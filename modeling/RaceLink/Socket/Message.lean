/-!
# Messages of a web socket

What the two ends of a web socket send each other: texts, bytes, and messages about the connection
itself.  They are tungstenite's (0.26), as its `read` hands them over: each one whole, and texts in
UTF-8.

* `Message` — one whole message.
* `Closing` — why an end closes the connection, if it says so.
-/

set_option autoImplicit false

namespace RaceLink
namespace Socket

/-- Why an end closes the connection (`CloseFrame`). -/
structure Closing where
  code : UInt16
  reason : String
  deriving DecidableEq, Repr

namespace Closing

/-- Whether an end may give this code: those of the protocol that are meant to be sent, and those
left to libraries and programs (`CloseCode::is_allowed`). -/
def isAllowed (c : Closing) : Bool :=
  [1000, 1001, 1002, 1003, 1007, 1008, 1009, 1010, 1011, 1012, 1013].contains c.code ||
    (decide (3000 ≤ c.code) && decide (c.code ≤ 4999))

/-- What is answered to a code that may not be given (`do_close`). -/
def violation : Closing := ⟨1002, "Protocol violation"⟩

/-- What is answered to a closing message: the same, if it may be given (`do_close`). -/
def echo (c : Closing) : Closing := if c.isAllowed then c else violation

end Closing

/-- One whole message. -/
inductive Message where
  | text (t : String)
  | binary (bytes : List UInt8)
  | ping (bytes : List UInt8)
  | pong (bytes : List UInt8)
  | close (why : Option Closing)
  deriving DecidableEq, Repr

namespace Message

/-- The text of a message that is one. -/
def text? : Message → Option String
  | text t => some t
  | _ => none

end Message
end Socket
end RaceLink
