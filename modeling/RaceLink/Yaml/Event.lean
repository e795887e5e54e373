import RaceLink.Yaml.Tokens

/-!
# Events of a document

The tokens of a text say which nodes it has.  An event is one node that holds no others, or the
start or the end of one that does; between the marks of a mapping or a sequence a node may also be
left out, and then it is empty.

* `Event` — a node or one end of it, with the place where it begins.
* `Course` — where one is between two events: the open collections, innermost first, and what each
  is waiting for.
* `Event.ofText` — the events of a text, and the mistake at which they end, if there is one.
-/

set_option autoImplicit false

namespace RaceLink
namespace Yaml

/-- What is said of a node besides what it holds. -/
structure Properties where
  anchor : Option (List Char)
  tag : Option (List Char)
  deriving DecidableEq, Repr

/-- A node, or one end of it. -/
inductive Event.Kind where
  | documentStart
  | documentEnd
  | streamEnd
  | alias (name : List Char)
  | scalar (properties : Properties) (s : Scalar)
  | sequenceStart (properties : Properties)
  | sequenceEnd
  | mappingStart (properties : Properties)
  | mappingEnd
  deriving DecidableEq, Repr

/-- An event and the place where it begins. -/
structure Event where
  kind : Event.Kind
  spot : Spot
  deriving DecidableEq, Repr

/-- What is due next in a document or in a collection, which may have begun at a place. -/
inductive Due where
  | document (first : Bool)
  | content
  | documentEnd
  | node
  | blockItem (began : Spot)
  | looseItem
  | blockKey (began : Spot)
  | blockValue (began : Spot)
  | flowItem (began : Spot) (first : Bool)
  /-- The key of a mapping of one entry between the brackets of a sequence. -/
  | pairKey (began : Spot)
  | pairValue (began : Spot)
  | pairEnd (began : Spot)
  | flowKey (began : Spot) (first : Bool)
  | flowValue (began : Spot) (empty : Bool)
  deriving DecidableEq, Repr

/-- Where one is between two events. -/
structure Course where
  tokens : List Token
  /-- What is due, innermost first. -/
  due : List Due
  /-- The short names of tags, and what they stand for. -/
  tags : List (List Char × List Char)

/-- What comes of one step. -/
inductive Course.Turn where
  | event (e : Event) (rest : Course)
  | quiet (rest : Course)
  | stop (e : Event)
  | starved
  | fault (r : Refusal)

namespace Course

/-- The tag that two parts stand for; none for a short name that is not known. -/
def expand (c : Course) (handle rest : List Char) : Option (List Char) :=
  if handle.isEmpty then some rest else (c.tags.lookup handle).map (· ++ rest)

/-- The short names that every document has. -/
def standardTags : List (List Char × List Char) :=
  [("!".toList, "!".toList), ("!!".toList, "tag:yaml.org,2002:".toList)]

/-- The course after what was due, with something else due instead. -/
def next (c : Course) (tokens : List Token) (due : List Due) : Course :=
  { c with tokens := tokens, due := due ++ c.due.drop 1 }

/-- An empty node at a place. -/
def emptyAt (spot : Spot) : Event := ⟨.scalar ⟨none, none⟩ ⟨[], .plain⟩, spot⟩

/-- A mistake at a token, while something that began at `began` was being read. -/
def wrong (context : String) (began : Spot) (problem : String) (t : Token) : Turn :=
  .fault (.layout problem t.spot (some (context, began)))

/-! ## Nodes -/

/-- The properties in front of a node: where they begin, and what is unread behind them. -/
structure Head where
  anchor : Option (List Char)
  tag : Option (List Char × List Char × Spot)
  tokens : List Token

/-- Reads an anchor and a tag, in either order; none if a token is missing. -/
def head : List Token → Head
  | ⟨.anchor a, _, _⟩ :: ⟨.tag h r, s, _⟩ :: rest => ⟨some a, some (h, r, s), rest⟩
  | ⟨.tag h r, s, _⟩ :: ⟨.anchor a, _, _⟩ :: rest => ⟨some a, some (h, r, s), rest⟩
  | ⟨.anchor a, _, _⟩ :: rest => ⟨some a, none, rest⟩
  | ⟨.tag h r, s, _⟩ :: rest => ⟨none, some (h, r, s), rest⟩
  | tokens => ⟨none, none, tokens⟩

/-- Reads a node that begins with `tokens`; what follows it is due next.  Only a node outside of
brackets may be laid out by indentation, and only in a mapping may the items of a sequence be
indented no further than the keys. -/
def node (c : Course) (inBlock loose : Bool) (tokens : List Token) (due : List Due) : Turn :=
  match tokens with
  | [] => .starved
  | ⟨.alias name, s, _⟩ :: rest => .event ⟨.alias name, s⟩ (c.next rest due)
  | first :: _ =>
    let h := head tokens
    match h.tokens with
    | [] => .starved
    | t :: rest =>
      let tag? :=
        match h.tag with
        | none => some none
        | some (handle, text, _) => (c.expand handle text).map some
      match tag? with
      | none =>
        .fault (.layout "found undefined tag handle"
          ((h.tag.map fun (_, _, s) => s).getD first.spot)
          (some ("while parsing a node", first.spot)))
      | some tag =>
        let given : Properties := ⟨h.anchor, tag⟩
        let emit (kind : Event.Kind) (course : Course) : Turn := .event ⟨kind, first.spot⟩ course
        match t.kind with
        | .scalar s =>
          let plainTag := if tag = some ['!'] then none else tag
          emit (.scalar ⟨h.anchor, plainTag⟩ s) (c.next rest due)
        | .flowSequenceStart =>
          emit (.sequenceStart given) (c.next rest (.flowItem t.spot true :: due))
        | .flowMappingStart =>
          emit (.mappingStart given) (c.next rest (.flowKey t.spot true :: due))
        | kind =>
          if loose && kind = .blockEntry then
            emit (.sequenceStart given) (c.next (t :: rest) (.looseItem :: due))
          else if inBlock && kind = .blockSequenceStart then
            emit (.sequenceStart given) (c.next rest (.blockItem t.spot :: due))
          else if inBlock && kind = .blockMappingStart then
            emit (.mappingStart given) (c.next rest (.blockKey t.spot :: due))
          else if h.anchor.isSome || tag.isSome then
            emit (.scalar given ⟨[], .plain⟩) (c.next (t :: rest) due)
          else
            wrong (if inBlock then "while parsing a block node" else "while parsing a flow node")
              first.spot "did not find expected node content" t

/-! ## Documents -/

/-- The directives in front of a document: whether a version was given, and the short names. -/
def directives (version : Bool) (tags : List (List Char × List Char)) :
    List Token → Except Refusal (List (List Char × List Char) × List Token)
  | [] => .ok (tags, [])
  | t :: rest =>
    match t.kind with
    | .version major minor =>
      if version then .error (.layout "found duplicate %YAML directive" t.spot none)
      else if major ≠ 1 ∨ (minor ≠ 1 ∧ minor ≠ 2) then
        .error (.layout "found incompatible YAML document" t.spot none)
      else directives true tags rest
    | .tagShort handle expansion =>
      if (tags.lookup handle).isSome then
        .error (.layout "found duplicate %TAG directive" t.spot none)
      else directives version (tags ++ [(handle, expansion)]) rest
    | _ => .ok (tags, t :: rest)

/-- The start of a document that begins with a mark. -/
def explicitDocument (c : Course) (t : Token) (rest : List Token) : Turn :=
  match directives false [] (t :: rest) with
  | .error r => .fault r
  | .ok (_, []) => .starved
  | .ok (tags, mark :: rest) =>
    if mark.kind = .documentStart then
      let c := c.next rest [.content, .documentEnd]
      .event ⟨.documentStart, t.spot⟩ { c with tags := tags ++ standardTags }
    else .fault (.layout "did not find expected <document start>" mark.spot none)

/-- The start of a document, or the end of the text.  Only the first document may begin without a
mark. -/
def document (c : Course) (first : Bool) (t : Token) (rest : List Token) : Turn :=
  match t.kind with
  | .streamEnd => .stop ⟨.streamEnd, t.spot⟩
  | .documentEnd =>
    if first then
      let c := c.next (t :: rest) [.node, .documentEnd]
      .event ⟨.documentStart, t.spot⟩ { c with tags := standardTags }
    else .quiet (c.next rest [.document false])
  | .version _ _ | .tagShort _ _ | .documentStart => c.explicitDocument t rest
  | _ =>
    if first then
      let c := c.next (t :: rest) [.node, .documentEnd]
      .event ⟨.documentStart, t.spot⟩ { c with tags := standardTags }
    else c.explicitDocument t rest

/-- The content of a document that began with a mark; it may be left out. -/
def content (c : Course) (t : Token) (rest : List Token) : Turn :=
  match t.kind with
  | .version _ _ | .tagShort _ _ | .documentStart | .documentEnd | .streamEnd =>
    .event (emptyAt t.spot) (c.next (t :: rest) [])
  | _ => c.node true false (t :: rest) []

/-! ## Collections laid out by indentation -/

/-- An item of a sequence, or its end. -/
def blockItem (c : Course) (began : Spot) (t : Token) (rest : List Token) : Turn :=
  match t.kind, rest with
  | .blockEntry, [] => .starved
  | .blockEntry, u :: _ =>
    if u.kind = .blockEntry ∨ u.kind = .blockEnd then
      .event (emptyAt t.finish) (c.next rest [.blockItem began])
    else c.node true false rest [.blockItem began]
  | .blockEnd, _ => .event ⟨.sequenceEnd, t.spot⟩ (c.next rest [])
  | _, _ => wrong "while parsing a block collection" began "did not find expected '-' indicator" t

/-- Whether a token ends the entry of a mapping that is laid out by indentation. -/
def endsEntry (t : Token) : Bool := t.kind = .key || t.kind = .value || t.kind = .blockEnd

/-- An item of a sequence that is indented no further than the keys around it, or its end. -/
def looseItem (c : Course) (t : Token) (rest : List Token) : Turn :=
  match t.kind, rest with
  | .blockEntry, [] => .starved
  | .blockEntry, u :: _ =>
    if u.kind = .blockEntry || endsEntry u then
      .event (emptyAt t.finish) (c.next rest [.looseItem])
    else c.node true false rest [.looseItem]
  | _, _ => .event ⟨.sequenceEnd, t.spot⟩ (c.next (t :: rest) [])

/-- A key of a mapping, or its end. -/
def blockKey (c : Course) (began : Spot) (t : Token) (rest : List Token) : Turn :=
  match t.kind, rest with
  | .key, [] => .starved
  | .key, u :: _ =>
    if endsEntry u then .event (emptyAt t.finish) (c.next rest [.blockValue began])
    else c.node true true rest [.blockValue began]
  | .blockEnd, _ => .event ⟨.mappingEnd, t.spot⟩ (c.next rest [])
  | _, _ => wrong "while parsing a block mapping" began "did not find expected key" t

/-- A value of a mapping. -/
def blockValue (c : Course) (began : Spot) (t : Token) (rest : List Token) : Turn :=
  match t.kind, rest with
  | .value, [] => .starved
  | .value, u :: _ =>
    if endsEntry u then .event (emptyAt t.finish) (c.next rest [.blockKey began])
    else c.node true true rest [.blockKey began]
  | _, _ => .event (emptyAt t.spot) (c.next (t :: rest) [.blockKey began])

/-! ## Collections between brackets -/

/-- An item of a sequence behind its comma. -/
def flowEntry (c : Course) (began : Spot) (t : Token) (rest : List Token) : Turn :=
  match t.kind with
  | .flowSequenceEnd => .event ⟨.sequenceEnd, t.spot⟩ (c.next rest [])
  | .key => .event ⟨.mappingStart ⟨none, none⟩, t.spot⟩ (c.next rest [.pairKey began])
  | _ => c.node false false (t :: rest) [.flowItem began false]

/-- An item of a sequence, or its end. -/
def flowItem (c : Course) (began : Spot) (first : Bool) (t : Token) (rest : List Token) : Turn :=
  if first || t.kind = .flowSequenceEnd then c.flowEntry began t rest
  else if t.kind = .flowEntry then
    match rest with
    | [] => .starved
    | u :: rest => c.flowEntry began u rest
  else wrong "while parsing a flow sequence" began "did not find expected ',' or ']'" t

/-- Whether a token ends an item of a sequence. -/
def endsItem (t : Token) : Bool := t.kind = .flowEntry || t.kind = .flowSequenceEnd

/-- The key of a mapping of one entry. -/
def pairKey (c : Course) (began : Spot) (t : Token) (rest : List Token) : Turn :=
  if t.kind = .value || endsItem t then
    .event (emptyAt t.finish) (c.next rest [.pairValue began])
  else c.node false false (t :: rest) [.pairValue began]

/-- The value of a mapping of one entry. -/
def pairValue (c : Course) (began : Spot) (t : Token) (rest : List Token) : Turn :=
  match t.kind, rest with
  | .value, [] => .starved
  | .value, u :: _ =>
    if endsItem u then .event (emptyAt u.spot) (c.next rest [.pairEnd began])
    else c.node false false rest [.pairEnd began]
  | _, _ => .event (emptyAt t.spot) (c.next (t :: rest) [.pairEnd began])

/-- Whether a token ends an entry of a mapping. -/
def endsMember (t : Token) : Bool := t.kind = .flowEntry || t.kind = .flowMappingEnd

/-- An entry of a mapping behind its comma. -/
def flowMember (c : Course) (began : Spot) (t : Token) (rest : List Token) : Turn :=
  match t.kind, rest with
  | .flowMappingEnd, _ => .event ⟨.mappingEnd, t.spot⟩ (c.next rest [])
  | .key, [] => .starved
  | .key, u :: _ =>
    if u.kind = .value || endsMember u then
      .event (emptyAt u.spot) (c.next rest [.flowValue began false])
    else c.node false false rest [.flowValue began false]
  | _, _ => c.node false false (t :: rest) [.flowValue began true]

/-- An entry of a mapping, or its end. -/
def flowKey (c : Course) (began : Spot) (first : Bool) (t : Token) (rest : List Token) : Turn :=
  if first || t.kind = .flowMappingEnd then c.flowMember began t rest
  else if t.kind = .flowEntry then
    match rest with
    | [] => .starved
    | u :: rest => c.flowMember began u rest
  else wrong "while parsing a flow mapping" began "did not find expected ',' or '\x7d'" t

/-- The value of an entry; one without a key mark has none. -/
def flowValue (c : Course) (began : Spot) (empty : Bool) (t : Token) (rest : List Token) : Turn :=
  let due : List Due := [.flowKey began false]
  match t.kind, rest with
  | .value, [] => if empty then .event (emptyAt t.spot) (c.next [t] due) else .starved
  | .value, u :: _ =>
    if empty then .event (emptyAt t.spot) (c.next (t :: rest) due)
    else if endsMember u then .event (emptyAt u.spot) (c.next rest due)
    else c.node false false rest due
  | _, _ => .event (emptyAt t.spot) (c.next (t :: rest) due)

/-! ## All events -/

/-- The next event. -/
def step (c : Course) : Turn :=
  match c.due, c.tokens with
  | [], _ => .starved
  | _, [] => .starved
  | due :: _, t :: rest =>
    match due with
    | .document first => c.document first t rest
    | .content => c.content t rest
    | .documentEnd =>
      let rest' := if t.kind = .documentEnd then rest else t :: rest
      .event ⟨.documentEnd, t.spot⟩ (c.next rest' [.document false])
    | .node => c.node true false (t :: rest) []
    | .blockItem began => c.blockItem began t rest
    | .looseItem => c.looseItem t rest
    | .blockKey began => c.blockKey began t rest
    | .blockValue began => c.blockValue began t rest
    | .flowItem began first => c.flowItem began first t rest
    | .pairKey began => c.pairKey began t rest
    | .pairValue began => c.pairValue began t rest
    | .pairEnd began =>
      .event ⟨.mappingEnd, t.spot⟩ (c.next (t :: rest) [.flowItem began false])
    | .flowKey began first => c.flowKey began first t rest
    | .flowValue began empty => c.flowValue began empty t rest

/-- The events of at most `fuel` steps.  `ending` is the mistake at which the tokens end. -/
def run (ending : Option Refusal) : Nat → Course → List Event × Option Refusal
  | 0, _ => ([], ending)
  | fuel + 1, c =>
    match c.step with
    | .event e c =>
      let (es, r) := run ending fuel c
      (e :: es, r)
    | .quiet c => run ending fuel c
    | .stop e => ([e], none)
    | .starved => ([], ending)
    | .fault r => ([], some r)

end Course

/-- The events of a text up to a mistake, and the mistake. -/
def Event.ofText (s : List Char) : List Event × Option Refusal :=
  let (tokens, ending) := Token.ofText s
  -- the first token only says that the text starts
  Course.run ending (4 * tokens.length + 8) ⟨tokens.drop 1, [.document true], []⟩

end Yaml
end RaceLink
