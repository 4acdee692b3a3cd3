import ChartValues.Yaml.Token

set_option autoImplicit false

/-!
# Events

A document as the sequence of its nodes in the order in which they begin, with the ends of the
collections between them.

## Main definitions

* `Yaml.Tag` — a tag in full, as the bytes of its name.
* `Yaml.Properties` — the anchor and the tag of a node.
* `Yaml.Event` — the events of a document.
-/

namespace ChartValues

namespace Yaml

/-- A tag in full, as the bytes of its name. -/
abbrev Tag := List UInt8

/-- The anchor and the tag of a node. -/
structure Properties where
  anchor : Option Text
  tag : Option Tag
deriving DecidableEq, Repr

/-- The events of a document. What an alias refers to its node by is left open: it is the name of
an anchor at first, and a position among the events later on. -/
inductive Event (Reference : Type) where
  | alias (node : Reference)
  | scalar (properties : Properties) (content : Text) (plain : Bool)
  | sequenceStart (properties : Properties)
  | sequenceEnd
  | mappingStart (properties : Properties)
  | mappingEnd
deriving DecidableEq, Repr

/-- The properties of the node that begins with an event. -/
def Event.properties? {Reference : Type} : Event Reference → Option Properties
  | .scalar p _ _ => some p
  | .sequenceStart p => some p
  | .mappingStart p => some p
  | .alias _ | .sequenceEnd | .mappingEnd => none

/-- A scalar that is not written at all. -/
def Event.missing {Reference : Type} : Event Reference := .scalar ⟨none, none⟩ [] true

end Yaml

end ChartValues
