import ChartValues.Parameter.Basic

set_option autoImplicit false

/-!
# Parameter tables

The parameters of a section are shown as the rows of a table with four columns.

## Main definitions

* `Page.cell` — a text in which pipes are escaped and line feeds are spelt out.
* `Page.row` — the row of a parameter.
* `Page.table` — the table of the parameters of a section.

## Main results

* `Page.not_mem_lineFeed_cell` — a cell stays on its line.
-/

namespace ChartValues

namespace Page

/-- The characters that stand for one character of a cell. -/
def cellChar (c : Char) : Text :=
  if c = '|' then ['\\', '|'] else if c = '\n' then ['\\', 'n'] else [c]

/-- The text of a cell, in which pipes are escaped and line feeds are spelt out. -/
def cell (t : Text) : Text := t.flatMap cellChar

/-- A text as a code span. -/
def codeSpan (t : Text) : Text := '\x60' :: t ++ ['\x60']

/-- The row of a parameter. -/
def row (p : Parameter) : Text :=
  "| ".toList ++ codeSpan p.name ++ " | ".toList ++ cell p.description ++ " | ".toList
    ++ codeSpan p.kind.name ++ " | ".toList ++ cell p.shown ++ " |".toList

/-- The two lines that every table begins with. -/
def tableHead : List Text :=
  ["| Parameter | Description | Type | Default |".toList,
    "|-----------|-------------|------|---------|".toList]

/-- The table of the parameters of a section. Without parameters there is no table. -/
def table (ps : List Parameter) : Text :=
  if ps.isEmpty then [] else Text.joinWith ['\n'] (tableHead ++ ps.map row)

/-- A cell stays on its line. -/
theorem not_mem_lineFeed_cell (t : Text) : '\n' ∉ cell t := by
  simp only [cell, List.mem_flatMap, not_exists, not_and]
  intro c _
  simp only [cellChar]
  split
  · decide
  · split
    · decide
    · rename_i h
      simpa using Ne.symm h

end Page

end ChartValues
