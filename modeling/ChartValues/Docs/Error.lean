import ChartValues.Text.Basic

set_option autoImplicit false

/-!
# Errors of a run

## Main definitions

* `DocsError` — why the documentation cannot be generated.
* `DocsError.message` — the words for an error.
-/

namespace ChartValues

/-- Why the documentation cannot be generated: the path at fault, and the details. -/
inductive DocsError where
  /-- There is no values file. -/
  | missingValues (path : Text)
  /-- The values file cannot be read. -/
  | read (path details : Text)
  /-- The values file is no document. -/
  | parse (path details : Text)
  /-- The directory of a page cannot be created. -/
  | createDirectory (path details : Text)
  /-- A page cannot be written. -/
  | write (path details : Text)
deriving DecidableEq, Repr

namespace DocsError

/-- What failed, at which path, and why. -/
def failed (what path details : Text) : Text :=
  "failed to ".toList ++ what ++ " '".toList ++ path ++ "': ".toList ++ details

/-- The words for an error. -/
def message : DocsError → Text
  | .missingValues path => "values.yaml not found at ".toList ++ path
  | .read path details => failed "read".toList path details
  | .parse path details => failed "parse YAML at".toList path details
  | .createDirectory path details => failed "create output directory".toList path details
  | .write path details => failed "write".toList path details

end DocsError

end ChartValues
