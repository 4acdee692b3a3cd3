import ChartValues.Value.Literal

set_option autoImplicit false

/-!
# Parameters

A parameter is a key of the values file that has been documented: where it stands, what its
comments say, and what its default value is.

## Main definitions

* `Parameter` — a documented key.
-/

namespace ChartValues

/-- A documented key of the values file. -/
structure Parameter where
  /-- The title of the banner above, or nothing if no banner stands above. -/
  sectionTitle : Text
  /-- The keys from the root of the file, with dots between them. -/
  name : Text
  description : Text
  kind : Kind
  /-- The default value, as the documentation shows it. -/
  shown : Text
  examples : List Text
deriving DecidableEq, Repr

end ChartValues
