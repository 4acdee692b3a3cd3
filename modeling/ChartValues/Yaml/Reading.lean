import ChartValues.Yaml.Document
import ChartValues.Yaml.Scalar

set_option autoImplicit false

/-!
# From documents to values

The value of a document is read from its events. Collections may be nested up to a depth, no
mapping may have the same key twice, and the number of aliases that are followed is limited by the
size of the document, so that a small document cannot stand for a huge value.

## Main definitions

* `Yaml.ReadError` — why a document has no value.
* `Yaml.Reader` — reads a value from the events at a place.
* `Yaml.Document.value` — the value of a document.
-/

namespace ChartValues

namespace Yaml

/-- Why a document has no value. -/
inductive ReadError where
  /-- The text follows no grammar, or an alias has no anchor. -/
  | malformed
  /-- Collections are nested too deep. -/
  | tooDeep
  /-- A mapping has the same key twice. -/
  | duplicateKey
  /-- A tag asks for a value that the text does not write, or an integer is too large. -/
  | unfitScalar
  /-- Too many aliases are followed. -/
  | tooManyAliases
  /-- More than one document, or something after the document that belongs to none. -/
  | moreThanOneDocument
deriving DecidableEq, Repr

/-- A place among the events, and how many aliases have been followed on the way. -/
structure Progress where
  events : List (Event Nat)
  jumps : Nat

/-- Reads something from the events at a place, and says where it ends. -/
abbrev Reader (α : Type) := Progress → Except ReadError (α × Progress)

/-! ## Tags -/

/-- The text that bytes encode. -/
def textOfBytes? (bytes : List UInt8) : Option Text :=
  (ByteArray.utf8Decode? ⟨bytes.toArray⟩).map Array.toList

/-- The name that a tag gives to a value: what follows the tag indicator. The indicator alone is a
name of its own, and a second indicator is dropped. Only tags that begin with the indicator, and
are texts, name a value. -/
def tagName? (tag : Tag) : Option Text :=
  match textOfBytes? tag with
  | some ['!'] => some ['!']
  | some ['!', '!'] => some ['!']
  | some ('!' :: '!' :: name) => some name
  | some ('!' :: name) => some name
  | _ => none

/-! ## Collections -/

/-- Reads the items of a list, of which there are at most `n`. -/
def readItems (item : Reader Value) : Nat → Reader (List Value)
  | 0, _ => .error .malformed
  | n + 1, p =>
    match p.events with
    | [] => .error .malformed
    | .sequenceEnd :: es => .ok ([], ⟨es, p.jumps⟩)
    | _ => do
      let (v, p) ← item p
      let (vs, p) ← readItems item n p
      return (v :: vs, p)

/-- Reads the entries of a mapping, of which there are at most `n`, after those that have been read
before. -/
def readEntries (node : Reader Value) (before : List (Value × Value)) :
    Nat → Reader (List (Value × Value))
  | 0, _ => .error .malformed
  | n + 1, p =>
    match p.events with
    | [] => .error .malformed
    | .mappingEnd :: es => .ok (before, ⟨es, p.jumps⟩)
    | _ => do
      let (k, p) ← node p
      if (Value.find? before k).isSome then .error .duplicateKey
      let (v, p) ← node p
      readEntries node (before ++ [(k, v)]) n p

/-! ## Nodes -/

/-- Reads the content of a node. The tag says what kind of scalar it is, unless it has given the
node a name already; this is what `named` says. The nodes of a collection are read by `child`;
without it, collections are nested too deep here. -/
def readContent (child : Option (Reader Value)) (named : Bool) : Reader Value := fun p =>
  match p.events, child with
  | .scalar props content plain :: es, _ =>
    match scalarValue? (if named then none else props.tag) content plain with
    | some v => .ok (v, ⟨es, p.jumps⟩)
    | none => .error .unfitScalar
  | .sequenceStart _ :: _, none | .mappingStart _ :: _, none => .error .tooDeep
  | .sequenceStart _ :: es, some child => do
    let (items, p) ← readItems child (es.length + 1) ⟨es, p.jumps⟩
    return (.list items, p)
  | .mappingStart _ :: es, some child => do
    let (entries, p) ← readEntries child [] (es.length + 1) ⟨es, p.jumps⟩
    return (.map entries, p)
  | _, _ => .error .malformed

/-- Reads a node that is no alias, with the name that its tag gives it. -/
def readTagged (child : Option (Reader Value)) : Reader Value := fun p =>
  let tag? := (p.events.head?.bind Event.properties?).bind Properties.tag
  match tag?.bind tagName? with
  | none => readContent child false p
  | some name => do
    let (v, p) ← readContent child true p
    return (.tagged name v, p)

/-- Reads a node. An alias stands for the node that it refers to. -/
def readNode (all : List (Event Nat)) (child : Option (Reader Value)) : Reader Value := fun p =>
  match p.events with
  | .alias target :: es =>
    if 100 * all.length < p.jumps + 1 then .error .tooManyAliases
    else do
      let (v, q) ← readTagged child ⟨all.drop target, p.jumps + 1⟩
      return (v, ⟨es, q.jumps⟩)
  | _ => readTagged child p

/-- Reads a node whose collections are nested at most `depth` deep. -/
def readDepth (all : List (Event Nat)) : Nat → Reader Value
  | 0 => readNode all none
  | depth + 1 => readNode all (some (readDepth all depth))

/-- How deep collections may be nested. -/
def maxDepth : Nat := 128

/-! ## Documents -/

/-- The value of a document. A document without events is null. What is wrong with the events is
found before what is wrong after them. -/
def Document.value (d : Document) : Except ReadError Value := do
  let v ←
    match d.events, d.ending with
    | [], .broken => .error .malformed
    | [], _ => .ok .null
    | es, _ => (readDepth es maxDepth ⟨es, 0⟩).map Prod.fst
  match d.ending with
  | .broken => .error .malformed
  | .last => return v
  | .followed => .error .moreThanOneDocument

end Yaml

end ChartValues
