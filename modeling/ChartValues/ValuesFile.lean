import ChartValues.Yaml.Merging
import ChartValues.Yaml.Reading

set_option autoImplicit false

/-!
# Values files

The text of a values file is one YAML document in which merge keys have been followed.

## Main definitions

* `ParseError` — why a text is no values file.
* `ParseError.message?` — the message of an error that is not about a place in the text.
* `ParseError.message` — the words for any error.
* `parseValues` — the value that a text stands for.
-/

namespace ChartValues

/-- Why a text is no values file. -/
inductive ParseError where
  | document (cause : Yaml.ReadError)
  | merge (cause : Yaml.MergeError)
deriving DecidableEq, Repr

/-- The message of an error that is not about a place in the text. Errors about a place are
reported without a message. -/
def ParseError.message? : ParseError → Option Text
  | .document .tooManyAliases => some "repetition limit exceeded".toList
  | .document .moreThanOneDocument =>
    some "deserializing from YAML containing more than one document is not supported".toList
  | .document _ => none
  | .merge .scalar =>
    some "expected a mapping or list of mappings for merging, but found scalar".toList
  | .merge .scalarItem => some "expected a mapping for merging, but found scalar".toList
  | .merge .listItem => some "expected a mapping for merging, but found sequence".toList
  | .merge .tagged => some "unexpected tagged value in merge".toList

/-- The words for an error. -/
def ParseError.message (e : ParseError) : Text :=
  e.message?.getD "the text is no YAML document".toList

/-- The value that the text of a values file stands for. -/
def parseValues (t : Text) : Except ParseError Value :=
  match (Yaml.Document.ofText t).value with
  | .error cause => .error (.document cause)
  | .ok v =>
    match Yaml.merge v with
    | .error cause => .error (.merge cause)
    | .ok v => .ok v

end ChartValues
