import ChartValues.Yaml.Event

set_option autoImplicit false

/-!
# From tokens to events

The grammar of a stream. What may come next is a stack of expectations; each step takes the
topmost, looks at the next token, and leaves the expectations that remain. A node that the grammar
allows to be missing becomes an empty plain scalar.

## Main definitions

* `Yaml.Expectation` — what may come next.
* `Yaml.Expectation.step?` — the events of one step and what is expected after it.
* `Yaml.documentEvents` — the events of the first document of a stream.
-/

namespace ChartValues

namespace Yaml

/-! ## Tag handles -/

/-- The meaning of tag handles. -/
abbrev Handles := List (Text × List UInt8)

/-- The handles that need no directive. -/
def Handles.standard : Handles :=
  [(['!'], asciiBytes ['!']), (['!', '!'], asciiBytes "tag:yaml.org,2002:".toList)]

/-- The tag in full; a tag without a handle is full already. -/
def Handles.resolve? (hs : Handles) (handle : Text) (suffix : List UInt8) : Option Tag :=
  if handle = [] then some suffix else ((hs ++ standard).lookup handle).map (· ++ suffix)

/-! ## Expectations -/

/-- What may come next. -/
inductive Expectation where
  /-- The content of a document whose start is marked. -/
  | content
  /-- The end of a document. -/
  | documentEnd
  /-- A node; in a block, and where the entries of a list may be indented like its key. -/
  | node (block indentless : Bool)
  /-- An entry or the end of a block list. -/
  | blockItem
  /-- An entry of a block list that is indented like its key. -/
  | indentlessItem
  /-- A key or the end of a block mapping. -/
  | blockKey
  /-- The value of a key in a block mapping. -/
  | blockValue
  /-- An item or the end of a flow list, whether or not it is the first. -/
  | flowItem (first : Bool)
  /-- The key of a pair in a flow list. -/
  | pairKey
  /-- The value of a pair in a flow list. -/
  | pairValue
  /-- The end of a pair in a flow list. -/
  | pairEnd
  /-- A key or the end of a flow mapping, whether or not it is the first. -/
  | flowKey (first : Bool)
  /-- The value of a key in a flow mapping, if it has one. -/
  | flowValue (absent : Bool)
deriving DecidableEq, Repr

/-- What a step leaves: its events, what is expected before all else, and the tokens. -/
structure Step where
  events : List (Event Text)
  expected : List Expectation
  tokens : List Token

/-- The properties in front of a node, each at most once and in either order. -/
def properties? (hs : Handles) : List Token → Option (Properties × List Token)
  | .anchor a :: .tag h s :: ts => (hs.resolve? h s).map fun t => (⟨some a, some t⟩, ts)
  | .tag h s :: .anchor a :: ts => (hs.resolve? h s).map fun t => (⟨some a, some t⟩, ts)
  | .tag h s :: ts => (hs.resolve? h s).map fun t => (⟨none, some t⟩, ts)
  | .anchor a :: ts => some (⟨some a, none⟩, ts)
  | ts => some (⟨none, none⟩, ts)

/-- A node: an alias, or properties and a content. Without any content properties stand for an
empty scalar. -/
def node? (hs : Handles) (block indentless : Bool) : List Token → Option Step
  | .alias a :: ts => some ⟨[.alias a], [], ts⟩
  | ts =>
    match properties? hs ts with
    | none => none
    | some (p, ts) =>
      match ts, block, indentless with
      | .blockEntry :: rest, _, true =>
        some ⟨[.sequenceStart p], [.indentlessItem], .blockEntry :: rest⟩
      | .scalar content plain :: rest, _, _ => some ⟨[.scalar p content plain], [], rest⟩
      | .flowSequenceStart :: rest, _, _ => some ⟨[.sequenceStart p], [.flowItem true], rest⟩
      | .flowMappingStart :: rest, _, _ => some ⟨[.mappingStart p], [.flowKey true], rest⟩
      | .blockSequenceStart :: rest, true, _ => some ⟨[.sequenceStart p], [.blockItem], rest⟩
      | .blockMappingStart :: rest, true, _ => some ⟨[.mappingStart p], [.blockKey], rest⟩
      | [], _, _ => none
      | rest, _, _ =>
        if p.anchor.isSome || p.tag.isSome then some ⟨[.scalar p [] true], [], rest⟩ else none

/-- A node that is missing if one of the given tokens comes next. -/
def nodeUnless (ends : List Token) (block indentless : Bool) (next : Expectation)
    (ts : List Token) : Option Step :=
  match ts with
  | [] => none
  | t :: _ =>
    if ends.elem t then some ⟨[.missing], [next], ts⟩
    else some ⟨[], [.node block indentless, next], ts⟩

/-- The events of one step and what is expected after it. There is none if the tokens do not
follow the grammar, or if there are no more. -/
def Expectation.step? (hs : Handles) : Expectation → List Token → Option Step
  | _, [] => none
  | .content, t :: ts =>
    match t with
    | .version _ _ | .tagHandle _ _ | .documentStart | .documentEnd | .streamEnd =>
      some ⟨[.missing], [], t :: ts⟩
    | _ => some ⟨[], [.node true false], t :: ts⟩
  | .documentEnd, t :: ts => some ⟨[], [], if t = .documentEnd then ts else t :: ts⟩
  | .node block indentless, ts => node? hs block indentless ts
  | .blockItem, t :: ts =>
    match t with
    | .blockEntry => nodeUnless [.blockEntry, .blockEnd] true false .blockItem ts
    | .blockEnd => some ⟨[.sequenceEnd], [], ts⟩
    | _ => none
  | .indentlessItem, t :: ts =>
    match t with
    | .blockEntry =>
      nodeUnless [.blockEntry, .key, .value, .blockEnd] true false .indentlessItem ts
    | _ => some ⟨[.sequenceEnd], [], t :: ts⟩
  | .blockKey, t :: ts =>
    match t with
    | .key => nodeUnless [.key, .value, .blockEnd] true true .blockValue ts
    | .blockEnd => some ⟨[.mappingEnd], [], ts⟩
    | _ => none
  | .blockValue, t :: ts =>
    match t with
    | .value => nodeUnless [.key, .value, .blockEnd] true true .blockKey ts
    | _ => some ⟨[.missing], [.blockKey], t :: ts⟩
  | .flowItem first, t :: ts =>
    match first, t, ts with
    | _, .flowSequenceEnd, ts => some ⟨[.sequenceEnd], [], ts⟩
    | false, .flowEntry, [] => none
    | false, .flowEntry, .flowSequenceEnd :: ts => some ⟨[.sequenceEnd], [], ts⟩
    | false, .flowEntry, .key :: ts => some ⟨[.mappingStart ⟨none, none⟩], [.pairKey], ts⟩
    | false, .flowEntry, ts => some ⟨[], [.node false false, .flowItem false], ts⟩
    | false, _, _ => none
    | true, .key, ts => some ⟨[.mappingStart ⟨none, none⟩], [.pairKey], ts⟩
    | true, t, ts => some ⟨[], [.node false false, .flowItem false], t :: ts⟩
  | .pairKey, t :: ts =>
    match t with
    | .value | .flowEntry | .flowSequenceEnd => some ⟨[.missing], [.pairValue], ts⟩
    | _ => some ⟨[], [.node false false, .pairValue], t :: ts⟩
  | .pairValue, t :: ts =>
    match t with
    | .value => nodeUnless [.flowEntry, .flowSequenceEnd] false false .pairEnd ts
    | _ => some ⟨[.missing], [.pairEnd], t :: ts⟩
  | .pairEnd, ts => some ⟨[.mappingEnd], [.flowItem false], ts⟩
  | .flowKey first, t :: ts =>
    match first, t, ts with
    | _, .flowMappingEnd, ts => some ⟨[.mappingEnd], [], ts⟩
    | false, .flowEntry, [] => none
    | false, .flowEntry, .flowMappingEnd :: ts => some ⟨[.mappingEnd], [], ts⟩
    | false, .flowEntry, .key :: ts =>
      nodeUnless [.value, .flowEntry, .flowMappingEnd] false false (.flowValue false) ts
    | false, .flowEntry, ts => some ⟨[], [.node false false, .flowValue true], ts⟩
    | false, _, _ => none
    | true, .key, ts =>
      nodeUnless [.value, .flowEntry, .flowMappingEnd] false false (.flowValue false) ts
    | true, t, ts => some ⟨[], [.node false false, .flowValue true], t :: ts⟩
  | .flowValue absent, t :: ts =>
    match absent, t with
    | false, .value => nodeUnless [.flowEntry, .flowMappingEnd] false false (.flowKey false) ts
    | _, _ => some ⟨[.missing], [.flowKey false], t :: ts⟩

/-- The events until nothing more is expected, and the tokens that are left then. There are no
such tokens if the stream does not follow the grammar. A step takes a token or an expectation, so
the number of steps is bounded by the number of tokens. -/
def eventsOf (hs : Handles) : Nat → List Expectation → List Token →
    List (Event Text) × Option (List Token)
  | _, [], ts => ([], some ts)
  | 0, _ :: _, _ => ([], none)
  | n + 1, e :: es, ts =>
    match e.step? hs ts with
    | none => ([], none)
    | some s =>
      let r := eventsOf hs n (s.expected ++ es) s.tokens
      (s.events ++ r.1, r.2)

/-! ## Documents -/

/-- Whether documents of a version are understood. -/
def isKnownVersion (major minor : Nat) : Bool := major == 1 && (minor == 1 || minor == 2)

/-- The handles that the directives define, and the tokens after them. A version may be given once
and a handle defined once. -/
def directives? (hs : Handles) (versioned : Bool) : List Token → Option (Handles × List Token)
  | .version major minor :: ts =>
    if versioned || !isKnownVersion major minor then none else directives? hs true ts
  | .tagHandle handle bytes :: ts =>
    if (hs.lookup handle).isSome then none else directives? (hs ++ [(handle, bytes)]) versioned ts
  | ts => some (hs, ts)

/-- The events of the first document of a stream, and the tokens after it. A stream may have no
document at all, which is like a document without events. The start of the first document need
not be marked, unless directives come before it. -/
def documentEvents (ts : List Token) : List (Event Text) × Option (List Token) :=
  let steps := 8 * ts.length + 8
  match ts with
  | .streamEnd :: _ => ([], some ts)
  | .version _ _ :: _ | .tagHandle _ _ :: _ | .documentStart :: _ =>
    match directives? [] false ts with
    | some (hs, .documentStart :: ts) => eventsOf hs steps [.content, .documentEnd] ts
    | _ => ([], none)
  | _ => eventsOf [] steps [.node true false, .documentEnd] ts

/-- Whether something other than the end of the stream follows a document. -/
def hasMore (ts : List Token) : Bool :=
  (ts.dropWhile (· == .documentEnd)).head? != some .streamEnd

end Yaml

end ChartValues
