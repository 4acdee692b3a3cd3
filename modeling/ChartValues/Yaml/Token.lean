import ChartValues.Yaml.Stream

set_option autoImplicit false

/-!
# Tokens

The words of a YAML stream. Indentation appears among them as the start and the end of block
collections, and a key of one line as a key indicator before it.

## Main definitions

* `Yaml.Token` — the tokens of a stream.
* `Yaml.asciiBytes` — the bytes of ASCII characters.
-/

namespace ChartValues

namespace Yaml

/-- The tokens of a stream. Names of tags are byte strings, since escapes in them may spell bytes
that are no text. -/
inductive Token where
  | streamEnd
  | version (major minor : Nat)
  | tagHandle (handle : Text) (replacement : List UInt8)
  | documentStart
  | documentEnd
  | blockSequenceStart
  | blockMappingStart
  | blockEnd
  | flowSequenceStart
  | flowSequenceEnd
  | flowMappingStart
  | flowMappingEnd
  | blockEntry
  | flowEntry
  | key
  | value
  | alias (anchor : Text)
  | anchor (name : Text)
  | tag (handle : Text) (suffix : List UInt8)
  | scalar (content : Text) (plain : Bool)
deriving DecidableEq, Repr

/-- The bytes of ASCII characters. -/
def asciiBytes (t : Text) : List UInt8 := t.map fun c => UInt8.ofNat c.toNat

end Yaml

end ChartValues
