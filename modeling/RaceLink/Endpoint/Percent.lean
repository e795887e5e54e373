import RaceLink.Text.Table

/-!
# Escapes in addresses

A byte that may not stand in a part of an address is written as `%` and two hexadecimal digits.
Which bytes those are depends on the part, so encoding takes the set as a test on characters;
everything beyond ASCII is always escaped, byte by byte of its UTF-8 form.

* `Percent.encode` — escapes what has to be escaped.
* `Percent.decode` — reads the escapes back; a `%` that starts none stands for itself.
-/

set_option autoImplicit false

namespace RaceLink
namespace Endpoint
namespace Percent

/-- The escape of a byte, with capital digits. -/
def escape (b : UInt8) : List Char :=
  ['%', (Nat.digitChar (b.toNat / 16)).toUpper, (Nat.digitChar (b.toNat % 16)).toUpper]

/-- Whether a character is escaped everywhere. -/
def always (c : Char) : Bool := decide (c.toNat < 32) || decide (127 ≤ c.toNat)

/-- The text with every character escaped that is in the set or is escaped everywhere. -/
def encode (set : Char → Bool) (s : List Char) : List Char :=
  s.flatMap fun c => if always c || set c then (String.utf8EncodeChar c).flatMap escape else [c]

/-- The bytes of a text, with its escapes read. -/
def bytes : List Char → List UInt8
  | [] => []
  | '%' :: a :: b :: rest =>
    match Text.hexValue? a, Text.hexValue? b with
    | some x, some y => UInt8.ofNat (16 * x + y) :: bytes rest
    | _, _ => 37 :: bytes (a :: b :: rest)
  | c :: rest => String.utf8EncodeChar c ++ bytes rest

/-- The text that is meant; `none` if the escapes spell no text.  A text without escapes is meant
as it stands. -/
def decode (s : List Char) : Option (List Char) :=
  if s.contains '%' then (String.fromUTF8? (bytes s).toByteArray).map String.toList else some s

/-! ## Which characters are escaped where -/

/-- In a fragment. -/
def inFragment (c : Char) : Bool := [' ', '"', '<', '>', '`'].contains c

/-- In a path. -/
def inPath (c : Char) : Bool := inFragment c || ['#', '?', '\x7b', '\x7d'].contains c

/-- In a query. -/
def inQuery (c : Char) : Bool := [' ', '"', '#', '<', '>', '\''].contains c

/-- In the name of a user or a password. -/
def inUserInfo (c : Char) : Bool :=
  inPath c || ['/', ':', ';', '=', '@', '[', '\\', ']', '^', '|'].contains c

end Percent
end Endpoint
end RaceLink
