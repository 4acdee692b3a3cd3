import ChartValues.Parameter.Basic
import ChartValues.Text.Lowercase

set_option autoImplicit false

/-!
# Sections

The parameters of a page are shown section by section. Sections come in the order in which they are
first met; parameters below the same title come together, wherever they stand in the file.

## Main definitions

* `Section` — the parameters below one title.
* `Parameter.sectionName` — the name of the section of a parameter.
* `sections` — the parameters, section by section.
* `slug` — the link target of a heading.

## Main results

* `sections_append` — parameters are added one after the other.
-/

namespace ChartValues

/-- The parameters below one title. -/
structure Section where
  name : Text
  parameters : List Parameter
deriving DecidableEq, Repr

/-- The section of the parameters that stand below no banner. -/
def general : Text := "General".toList

/-- The name of the section of a parameter. -/
def Parameter.sectionName (p : Parameter) : Text :=
  if p.sectionTitle.isEmpty then general else p.sectionTitle

/-- The sections after a parameter has been added. -/
def addParameter (p : Parameter) : List Section → List Section
  | [] => [⟨p.sectionName, [p]⟩]
  | s :: rest =>
    if s.name = p.sectionName then ⟨s.name, s.parameters ++ [p]⟩ :: rest
    else s :: addParameter p rest

/-- The parameters, section by section. -/
def sections (ps : List Parameter) : List Section :=
  ps.foldl (fun done p => addParameter p done) []

/-- Parameters are added one after the other. -/
theorem sections_append (ps : List Parameter) (p : Parameter) :
    sections (ps ++ [p]) = addParameter p (sections ps) := by
  simp [sections]

/-- The link target of a heading: in lower case, with hyphens for spaces, and without parentheses
and slashes. -/
def slug (name : Text) : Text :=
  (name.lowercase.filter fun c => !(c == '(' || c == ')' || c == '/')).map fun c =>
    if c = ' ' then '-' else c

/-- The link target of the heading of a section. -/
def Section.anchor (s : Section) : Text := slug s.name

end ChartValues
