import RaceLink.Json.Tree

/-!
# Passing over a value

A record ignores the fields it does not know, and what they hold is passed over without being
built.  Less is checked on the way than when a tree is read: any depth is allowed, a real may be of
any size, and the two halves of a wide character need not match.

* `Skip.value` — passes over one value.  The brackets that are open are kept in a list, so the
  whole is one loop over the text.
-/

set_option autoImplicit false

namespace RaceLink
namespace Json
namespace Skip

open Refusal (here past)
open Read (skipBlanks word isDigit digitNext skipDigits shortEscape? quad)

/-- Passes over what follows the exponent mark of a number. -/
def exponentPart : Reader Unit := fun s =>
  let s : List Char :=
    match s with
    | '+' :: rest => rest
    | '-' :: rest => rest
    | _ => s
  match s with
  | [] => here .badNumber []
  | c :: rest => if isDigit c then .ok ((), skipDigits rest) else past .badNumber (c :: rest)

/-- Passes over the exponent part of a number, if there is one. -/
def numberTail : Reader Unit := fun s =>
  match s with
  | c :: rest => if c = 'e' ∨ c = 'E' then exponentPart rest else .ok ((), s)
  | [] => .ok ((), [])

/-- Passes over what follows the digits before the point of a number. -/
def fractionPart : Reader Unit := fun s =>
  match s with
  | '.' :: rest =>
    if digitNext rest then numberTail (skipDigits rest) else past .badNumber rest
  | _ => numberTail s

/-- Passes over a number after its sign. -/
def number : Reader Unit := fun s =>
  match s with
  | [] => here .badNumber []
  | c :: rest =>
    if c = '0' then if digitNext rest then past .badNumber rest else fractionPart rest
    else if isDigit c then fractionPart (skipDigits rest)
    else past .badNumber (c :: rest)

/-- Passes over what follows the backslash of an escape. -/
def escape : Reader Unit := fun s =>
  match s with
  | [] => here .endOfString []
  | c :: rest =>
    if (shortEscape? c).isSome then .ok ((), rest)
    else if c = 'u' then do
      let (_, s) ← quad rest
      .ok ((), s)
    else past .badEscape (c :: rest)

/-- Passes over the rest of a string, in at most `steps` characters. -/
def quotedWithin : Nat → Reader Unit
  | 0, _ => here .endOfString []
  | _ + 1, [] => here .endOfString []
  | steps + 1, c :: rest =>
    if c = '"' then .ok ((), rest)
    else if c = '\\' then do
      let ((), s) ← escape rest
      quotedWithin steps s
    else if c.toNat < 0x20 then here .controlCharacter (c :: rest)
    else quotedWithin steps rest

/-- Passes over a string after its opening quote. -/
def quoted : Reader Unit := fun s => quotedWithin (s.length + 1) s

/-- A kind of bracket. -/
inductive Bracket where
  | square
  | curly
  deriving DecidableEq

/-- The character that closes a bracket. -/
def Bracket.closing : Bracket → Char
  | square => ']'
  | curly => '\x7d'

/-- The cause of a text that ends inside a bracket. -/
def Bracket.unclosed : Bracket → Issue
  | square => .endOfList
  | curly => .endOfObject

/-- The cause of a missing comma inside a bracket. -/
def Bracket.unseparated : Bracket → Issue
  | square => .expectedCommaOrBracket
  | curly => .expectedCommaOrBrace

/-- Passes over a value that opens no bracket, or over the opening bracket. -/
def head : Reader (Option Bracket) := fun s =>
  match skipBlanks s with
  | [] => here .endOfValue []
  | 'n' :: rest => do
    let ((), s) ← word ['u', 'l', 'l'] rest
    .ok (none, s)
  | 't' :: rest => do
    let ((), s) ← word ['r', 'u', 'e'] rest
    .ok (none, s)
  | 'f' :: rest => do
    let ((), s) ← word ['a', 'l', 's', 'e'] rest
    .ok (none, s)
  | '-' :: rest => do
    let ((), s) ← number rest
    .ok (none, s)
  | '"' :: rest => do
    let ((), s) ← quoted rest
    .ok (none, s)
  | '[' :: rest => .ok (some .square, rest)
  | '\x7b' :: rest => .ok (some .curly, rest)
  | c :: rest =>
    if isDigit c then do
      let ((), s) ← number (c :: rest)
      .ok (none, s)
    else past .expectedValue (c :: rest)

/-- Passes over closing brackets until another value has to follow.  The answer is the list of the
brackets still open; it is empty when the value has ended. -/
def closings : Nat → Bool → List Bracket → Reader (List Bracket)
  | _, _, [], s => .ok ([], s)
  | 0, _, _ :: _, s => here .endOfValue s
  | steps + 1, afterValue, b :: outer, s =>
    match skipBlanks s with
    | [] => here b.unclosed []
    | c :: rest =>
      if c = ',' ∧ afterValue then .ok (b :: outer, rest)
      else if c = b.closing then closings steps true outer rest
      else if afterValue then past b.unseparated (c :: rest)
      else .ok (b :: outer, c :: rest)

/-- Passes over the name of a member and its colon, if the innermost bracket is a curly one. -/
def name : List Bracket → Reader Unit
  | .curly :: _, s =>
    match skipBlanks s with
    | [] => here .endOfObject []
    | '"' :: rest => do
      let ((), s) ← quoted rest
      Read.colon s
    | s => past .keyNotString s
  | _, s => .ok ((), s)

/-- Passes over the values inside the open brackets, in at most `steps` values. -/
def valueWithin : Nat → List Bracket → Reader Unit
  | 0, _, s => here .endOfValue s
  | steps + 1, brackets, s => do
    let (opened, s) ← head s
    let brackets := opened.toList ++ brackets
    let (brackets, s) ← closings (s.length + 1) opened.isNone brackets s
    match brackets with
    | [] => .ok ((), s)
    | _ :: _ =>
      let ((), s) ← name brackets s
      valueWithin steps brackets s

/-- Passes over one value. -/
def value : Reader Unit := fun s => valueWithin (s.length + 1) [] s

end Skip
end Json
end RaceLink
