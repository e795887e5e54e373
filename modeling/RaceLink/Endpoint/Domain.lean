import RaceLink.Endpoint.Punycode
import RaceLink.Text.Fold
import RaceLink.Text.Joiner

/-!
# Domain names

A domain name is a row of labels with dots between them.  However it was spelled, it is asked for in
one form, in ASCII: folded, composed, and with every label that has other characters written in
Punycode behind `xn--`.

* `Domain.ascii` — the ASCII form of a name; `none` if the name has none.
* `Domain.sound` — what a label must be, whether it was given as it is or in its ASCII form.

A label that comes in its ASCII form is read only to see that it is sound, and that it is the form
of something: it says what it says, so that the ASCII form of an ASCII form is the form itself, as
long as no label is too long to be read.
-/

set_option autoImplicit false

namespace RaceLink
namespace Endpoint
namespace Domain

/-- What the ASCII form of a label with other characters begins with. -/
def marker : List Char := "xn--".toList

/-- The longest label that is written in Punycode. -/
def longestWritten : Nat := 1000

/-- The longest text that is read as Punycode. -/
def longestRead : Nat := 2000

/-- The characters of ASCII that no name of a host may have: blanks, controls, and what parts an
address. -/
def forbidden (c : Char) : Bool :=
  decide (c.toNat ≤ 32) || c = '\x7f' ||
    ['%', '#', '/', ':', '<', '>', '?', '@', '[', '\\', ']', '^', '|'].contains c

/-- Whether all characters of a text are in ASCII. -/
def plain (s : List Char) : Bool := s.all fun c => decide (c.toNat < 128)

/-- Whether a character is a mark, which has to have a letter before it. -/
def isMark (c : Char) : Bool := Text.Direction.of c = .mark

/-- Whether a label with characters beyond ASCII can be part of a name: it is in folded and composed
form, does not begin with a mark, and has joiners only where they join. -/
def sound (label : List Char) : Bool :=
  Text.Fold.text label = some label && Text.Compose.text label = label &&
    (label.head?.all fun c => !isMark c) && Text.Joiner.fits label

/-- A label of a name, read. -/
structure Label where
  /-- What the label says. -/
  said : List Char
  /-- How it is asked for. -/
  asked : List Char
  deriving DecidableEq, Repr

/-- A folded and composed label, read. -/
def label? (s : List Char) : Option Label :=
  if s.any forbidden then none
  else if marker.isPrefixOf s then
    let written := s.drop marker.length
    if written.length ≤ longestRead then
      match Punycode.decode written with
      | some said => if !plain said && sound said then some ⟨said, s⟩ else none
      | none => none
    else none
  else if plain s then some ⟨s, s⟩
  else if sound s && decide (s.length ≤ longestWritten) then
    some ⟨s, marker ++ Punycode.encode s⟩
  else none

/-- Whether the labels of a name can be shown side by side: if one of them runs leftwards, each
keeps to one direction. -/
def steady (labels : List Label) : Bool :=
  !(labels.any fun l => Text.Direction.mixes l.said) ||
    labels.all fun l => Text.Direction.steady l.said

/-- The ASCII form of a name. -/
def ascii (name : List Char) : Option (List Char) := do
  let folded ← Text.Fold.text name
  let labels ← (Text.partsAt (· = '.') (Text.Compose.text folded)).mapM label?
  if steady labels then some (List.intercalate ['.'] (labels.map Label.asked)) else none

end Domain
end Endpoint
end RaceLink
