import ChartValues.Section

set_option autoImplicit false

/-!
# Tables of contents

Both pages begin with links to their sections.

## Main definitions

* `Page.heading` — the heading of a section.
* `Page.contents` — the lines of the table of contents.
-/

namespace ChartValues

namespace Page

/-- The heading of a section. -/
def heading (s : Section) : Text := "## ".toList ++ s.name

/-- The link to a section. -/
def link (s : Section) : Text := "- [".toList ++ s.name ++ "](#".toList ++ s.anchor ++ [')']

/-- The lines of the table of contents. -/
def contents (ss : List Section) : List Text :=
  ["## Table of Contents".toList, []] ++ ss.map link ++ [[]]

end Page

end ChartValues
