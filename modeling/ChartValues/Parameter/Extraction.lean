import ChartValues.Line.Ancestry
import ChartValues.Line.Banner
import ChartValues.Line.CommentBlock
import ChartValues.Parameter.Basic
import ChartValues.Text.Lines

set_option autoImplicit false

/-!
# Extraction

The tree of a values file is the authority on types and defaults. Its text only says which keys
are documented, in which order, under which banner and with which comments. The text is read line
by line; below a banner line, the look-ahead for the title says how many lines are passed over.

## Main definitions

* `Finding` — a key line whose path leads to a value worth documenting.
* `findAt` — what is found at a line.
* `findings` — all that is found in a file.
* `parameters` — the documented keys of a file.

## Main results

* `findingsFrom_skip` — passing over lines only moves them above.
-/

namespace ChartValues

/-- A key line whose path leads to a value worth documenting. -/
structure Finding where
  sectionTitle : Text
  /-- The keys from the root of the file. -/
  path : List Text
  /-- The key of the line itself. -/
  key : Text
  value : Value
  comments : CommentBlock
deriving Repr

namespace Finding

/-- The description, or a sentence about the key where there is none. -/
def description (found : Finding) : Text :=
  if found.comments.description.isEmpty then "Configuration for ".toList ++ found.key
  else found.comments.description

/-- The parameter that a finding documents. -/
def parameter (found : Finding) : Parameter where
  sectionTitle := found.sectionTitle
  name := Text.joinWith ['.'] found.path
  description := found.description
  kind := found.value.kind
  shown := found.value.shown
  examples := found.comments.examples

end Finding

/-! ## One line -/

/-- Whether a key line only opens the block of the mapping that it leads to. -/
def opensBlock (line : KeyLine) (v : Value) : Bool :=
  !line.hasInlineValue && v.entries?.any fun es => !es.isEmpty

/-- What is found at a line. The lines above are given from the nearest to the farthest. -/
def findAt (root : Value) (sectionTitle : Text) (above : List Text) (line : Text) :
    Option Finding := do
  let keyLine ← KeyLine.parse? line
  let path := (Line.climb keyLine.indent above).reverse ++ [keyLine.key]
  let value ← root.resolve? path
  guard (!value.isNull && !opensBlock keyLine value)
  return {
    sectionTitle
    path
    key := keyLine.key
    value
    comments := CommentBlock.ofLines (Line.commentRun above) }

/-! ## All lines -/

/-- What is found in the lines below a place, after passing over some of them. -/
def findingsFrom (root : Value) (sectionTitle : Text) (above : List Text) :
    Nat → List Text → List Finding
  | _, [] => []
  | skip + 1, line :: below => findingsFrom root sectionTitle (line :: above) skip below
  | 0, line :: below =>
    if Line.isBanner line then
      let ahead := Line.outlook below
      findingsFrom root (ahead.title?.getD sectionTitle) (line :: above) ahead.passed below
    else
      (findAt root sectionTitle above line).toList
        ++ findingsFrom root sectionTitle (line :: above) 0 below

/-- All that is found in the text of a values file, given the value that the text stands for. -/
def findings (t : Text) (root : Value) : List Finding := findingsFrom root [] [] 0 t.lines

/-- The documented keys of a values file, in the order of the file. -/
def parameters (t : Text) (root : Value) : List Parameter :=
  (findings t root).map Finding.parameter

/-- Passing over lines only moves them above. -/
theorem findingsFrom_skip (root : Value) (sectionTitle : Text) (above : List Text) (skip : Nat)
    (below : List Text) :
    findingsFrom root sectionTitle above skip below =
      findingsFrom root sectionTitle ((below.take skip).reverse ++ above) 0 (below.drop skip) := by
  induction below generalizing above skip with
  | nil => cases skip <;> simp [findingsFrom]
  | cons line below ih =>
    cases skip with
    | zero => simp
    | succ skip => simp [findingsFrom, ih (line :: above) skip]

end ChartValues
