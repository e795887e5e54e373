import RaceLink.Json.Basic
import RaceLink.Record.Mismatch
import RaceLink.Text.Place

/-!
# Refusals

Why a text or a tree could not be read.

* `Issue` — the causes: those of the grammar, and values of the wrong shape.
* `Refusal` — a cause together with the number of bytes that were unread when it was met; a cause
  met in a tree has no such place.
* `Reader` — a function from unread characters to a value and what is still unread.

A cause of the grammar is met either *at* the unread characters or *past* the first byte of them,
that is at a byte which was looked at and found wrong.
-/

set_option autoImplicit false

namespace RaceLink
namespace Json

open Record (Mismatch Found)

/-- Why a reader stopped. -/
inductive Issue where
  | endOfValue
  | endOfList
  | endOfObject
  | endOfString
  | expectedColon
  | expectedCommaOrBracket
  | expectedCommaOrBrace
  | expectedWord
  | expectedValue
  | badEscape
  | badNumber
  | numberOutOfRange
  | controlCharacter
  | keyNotString
  | loneSurrogate
  | missingLowSurrogate
  | trailingComma
  | trailingCharacters
  | tooDeep
  | mismatch (m : Mismatch)

/-- The wording of mismatches met in JSON. -/
def wording : Record.Wording := ⟨"null", realStyle.text⟩

/-- The text of a cause. -/
def Issue.message : Issue → String
  | .endOfValue => "EOF while parsing a value"
  | .endOfList => "EOF while parsing a list"
  | .endOfObject => "EOF while parsing an object"
  | .endOfString => "EOF while parsing a string"
  | .expectedColon => "expected `:`"
  | .expectedCommaOrBracket => "expected `,` or `]`"
  | .expectedCommaOrBrace => "expected `,` or `\x7d`"
  | .expectedWord => "expected ident"
  | .expectedValue => "expected value"
  | .badEscape => "invalid escape"
  | .badNumber => "invalid number"
  | .numberOutOfRange => "number out of range"
  | .controlCharacter => "control character (\\u0000-\\u001F) found while parsing a string"
  | .keyNotString => "key must be a string"
  | .loneSurrogate => "lone leading surrogate in hex escape"
  | .missingLowSurrogate => "unexpected end of hex escape"
  | .trailingComma => "trailing comma"
  | .trailingCharacters => "trailing characters"
  | .tooDeep => "recursion limit exceeded"
  | .mismatch m => m.message wording

/-- A cause, and the number of bytes that were unread when it was met, if there is a place. -/
structure Refusal where
  issue : Issue
  left : Option Nat

namespace Refusal

/-- The text of a refusal met while reading `text`. -/
def message (r : Refusal) (text : List Char) : String :=
  match r.left with
  | none => r.issue.message
  | some left => r.issue.message ++ (Text.Place.before text left).suffix

/-- A cause met at the unread characters. -/
def here {α : Type} (issue : Issue) (unread : List Char) : Except Refusal α :=
  .error ⟨issue, some (Text.weight unread)⟩

/-- A cause met at the first byte of the unread characters, which counts as read. -/
def past {α : Type} (issue : Issue) (unread : List Char) : Except Refusal α :=
  .error ⟨issue, some (Text.weight unread - 1)⟩

/-- A mismatch without a place. -/
def placeless {α : Type} (m : Mismatch) : Except Refusal α :=
  .error ⟨.mismatch m, none⟩

/-- Gives a refusal that has no place the place of the unread characters. -/
def settle (r : Refusal) (unread : List Char) : Refusal :=
  match r.left with
  | none => ⟨r.issue, some (Text.weight unread)⟩
  | some _ => r

end Refusal

/-- A reader takes the unread characters to a value and to what is unread after it. -/
abbrev Reader (α : Type) : Type := List Char → Except Refusal (α × List Char)

end Json
end RaceLink
