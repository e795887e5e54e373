import RaceLink.Json.Basic

/-!
# Writing JSON

Text without blanks.

* `escaped` — the characters that stand for one character inside a string: quotes, backslashes and
  controls are escaped, all else is written as it is.
* `Json.chars` — the text of a tree, members in the order they have.
-/

set_option autoImplicit false

namespace RaceLink
namespace Json

/-- The digits of a natural number. -/
def decimalDigits (n : Nat) : List Char := Nat.toDigits 10 n

/-- A sixteenth digit. -/
def hexDigit (n : Nat) : Char := Nat.digitChar n

/-- The characters that stand for one character inside a string. -/
def escaped (c : Char) : List Char :=
  if c = '"' then ['\\', '"']
  else if c = '\\' then ['\\', '\\']
  else if c = '\x08' then ['\\', 'b']
  else if c = '\t' then ['\\', 't']
  else if c = '\n' then ['\\', 'n']
  else if c = '\x0c' then ['\\', 'f']
  else if c = '\r' then ['\\', 'r']
  else if c.toNat < 0x20 then
    ['\\', 'u', '0', '0', hexDigit (c.toNat / 16), hexDigit (c.toNat % 16)]
  else [c]

/-- A string between its quotes. -/
def quotedChars (s : String) : List Char := '"' :: (s.toList.flatMap escaped ++ ['"'])

/-- The text of a number. -/
def numberChars : Number → List Char
  | .natural n => decimalDigits n
  | .negative n => '-' :: decimalDigits n
  | .real x => (realStyle.text x).toList

mutual

/-- The text of a tree. -/
def chars : Json → List Char
  | null => ['n', 'u', 'l', 'l']
  | flag true => ['t', 'r', 'u', 'e']
  | flag false => ['f', 'a', 'l', 's', 'e']
  | number n => numberChars n
  | text s => quotedChars s
  | array items => '[' :: itemChars items
  | object members => '\x7b' :: memberChars members

/-- The items of an array, separated by commas, and the closing bracket. -/
def itemChars : List Json → List Char
  | [] => [']']
  | v :: [] => chars v ++ [']']
  | v :: rest => chars v ++ ',' :: itemChars rest

/-- The members of an object, separated by commas, and the closing bracket. -/
def memberChars : List (String × Json) → List Char
  | [] => ['\x7d']
  | (n, v) :: [] => quotedChars n ++ ':' :: chars v ++ ['\x7d']
  | (n, v) :: rest => quotedChars n ++ ':' :: chars v ++ ',' :: memberChars rest

end

/-- The text of a tree as a string. -/
def render (v : Json) : String := String.ofList (chars v)

end Json
end RaceLink
