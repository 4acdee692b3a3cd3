import ChartValues.Yaml.Event.Grammar
import ChartValues.Yaml.Token.Lexer

set_option autoImplicit false

/-!
# Documents

The events of a document in which every alias refers to the position of its node. An anchor takes
as its number how many different names have been used for anchors before it, and keeps it; so an
anchor whose name is used again shares its number with the next new name. The node of an alias is
the last node of the document with the number of the alias.

## Main definitions

* `Yaml.Document` — the events of a document and what ends it.
* `Yaml.Document.ofText` — the first document of a text.
-/

namespace ChartValues

namespace Yaml

/-- What ends a document. -/
inductive Ending where
  /-- Something that is no YAML, at the end of the events. -/
  | broken
  /-- The end of the stream. -/
  | last
  /-- The end of the document and more after it. -/
  | followed
deriving DecidableEq, Repr

/-- The events of a document and what ends it. -/
structure Document where
  events : List (Event Nat)
  ending : Ending

/-! ## Anchors -/

/-- The numbers of anchors: by name, the newest first, and by position, the last position first. -/
structure Anchors where
  names : List (Text × Nat)
  nodes : List (Nat × Nat)

namespace Anchors

/-- How many different names have been used. -/
def size (a : Anchors) : Nat := (a.names.map Prod.fst).eraseDups.length

/-- The anchors and one more, on the node at a position. -/
def add (a : Anchors) (name : Text) (position : Nat) : Anchors :=
  ⟨(name, a.size) :: a.names, (a.size, position) :: a.nodes⟩

/-- Gives every alias its number, up to an alias without an anchor. The last part of the answer
says whether all events could be kept. -/
def number (a : Anchors) (position : Nat) : List (Event Text) → List (Event Nat) × Anchors × Bool
  | [] => ([], a, true)
  | e :: es =>
    let go (e : Event Nat) (a : Anchors) :=
      let r := a.number (position + 1) es
      (e :: r.1, r.2)
    let named (p : Properties) := p.anchor.elim a fun name => a.add name position
    match e with
    | .alias name =>
      match a.names.lookup name with
      | none => ([], a, false)
      | some n => go (.alias n) a
    | .scalar p content plain => go (.scalar p content plain) (named p)
    | .sequenceStart p => go (.sequenceStart p) (named p)
    | .mappingStart p => go (.mappingStart p) (named p)
    | .sequenceEnd => go .sequenceEnd a
    | .mappingEnd => go .mappingEnd a

/-- Replaces the number of an alias by the position of its node. -/
def place (a : Anchors) : Event Nat → Event Nat
  | .alias n => .alias ((a.nodes.lookup n).getD 0)
  | e => e

end Anchors

/-! ## Documents -/

/-- The document with the given events, each alias placed at its node. -/
def Document.ofEvents (events : List (Event Text)) (rest : Option (List Token)) : Document :=
  let (numbered, anchors, complete) := Anchors.number ⟨[], []⟩ 0 events
  ⟨numbered.map anchors.place,
    match complete, rest with
    | true, some ts => if hasMore ts then .followed else .last
    | _, _ => .broken⟩

/-- The first document of a text. -/
def Document.ofText (t : Text) : Document :=
  let (events, rest) := documentEvents (tokens t)
  .ofEvents events rest

end Yaml

end ChartValues
