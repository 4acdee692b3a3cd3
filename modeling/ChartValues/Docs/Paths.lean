import ChartValues.Host.Basic

set_option autoImplicit false

/-!
# Where the documentation lives

A chart repository keeps its values file and its documentation at fixed places below its root.

## Main definitions

* `DocPaths` — the values file and the two pages.
* `DocPaths.ofRoot` — the places below the root of a repository.
* `DocPaths.findRoot` — the nearest root above a path.
-/

namespace ChartValues

/-- Where the values file is read and where the pages are written. -/
structure DocPaths where
  values : Text
  reference : Text
  guide : Text
deriving DecidableEq, Repr

namespace DocPaths

/-- The places below the root of a repository. -/
def ofRoot (root : Text) : DocPaths :=
  let docs := Path.join root "docs".toList
  { values := ["charts", "bunkerweb", "values.yaml"].foldl (fun p s => Path.join p s.toList) root
    reference := Path.join docs "values-reference.md".toList
    guide := Path.join docs "values.md".toList }

/-- The nearest path, from the given one upwards, that has a values file at its place. -/
def findRoot {m : Type → Type} [Monad m] [Host m] (start : Text) : m (Option Text) :=
  (Path.ancestors start).findM? fun root => Host.isFile (ofRoot root).values

end DocPaths

end ChartValues
