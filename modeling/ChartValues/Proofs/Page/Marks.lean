import ChartValues.Page.Guide
import ChartValues.Page.Reference
import ChartValues.Proofs.Parameter.Provenance
import ChartValues.Proofs.Section

set_option autoImplicit false

/-!
# The marks of a page

Seen as text, a page is its lines split at line feeds. Those that begin a section or show a
parameter are its marks. No text that comes from the values file can begin a line of its own, so
the marks of both pages are what they are meant to be: the headings of the sections, and below
each one the rows of its parameters.

## Main definitions

* `Page.marks` — the headings and rows of a page.
* `Page.rows` — the rows of a page.
* `Page.sectionMarks` — the heading of a section and the rows of its parameters.

## Main results

* `Page.marks_append` — the marks of a page are those of its parts.
* `Page.marks_reference`, `Page.marks_guide` — the marks of the two pages.
* `Page.marks_of_parameters` — both pages carry exactly the parameters of the values file.
-/

namespace ChartValues

namespace Page

/-! ## Marks -/

/-- Whether a line is a heading of a section. -/
def isHeading (line : Text) : Bool := line.startsWith "## ".toList

/-- Whether a line is the row of a parameter. -/
def isRow (line : Text) : Bool := line.startsWith ['|', ' ', '\x60']

/-- Whether a line begins a section or shows a parameter. -/
def isMark (line : Text) : Bool := isHeading line || isRow line

/-- The headings and rows of a page. -/
def marks (page : List Text) : List Text := ((Text.unlines page).splitOn '\n').filter isMark

/-- The rows of a page. -/
def rows (page : List Text) : List Text := ((Text.unlines page).splitOn '\n').filter isRow

/-- The heading of a section and the rows of its parameters. -/
def sectionMarks (s : Section) : List Text := heading s :: s.parameters.map row

/-- The rows of a page are marks. -/
lemma rows_eq_filter_marks (page : List Text) : rows page = (marks page).filter isRow := by
  rw [rows, marks, List.filter_filter]
  refine List.filter_congr fun line _ => ?_
  cases hrow : isRow line <;> simp [isMark, hrow]

/-! ## Marks of parts

The pieces of a page are split one by one, so the marks of a page are those of its pieces. A piece
on one line is a mark or none. -/

/-- The marks of a page are those of its pieces. -/
lemma marks_eq_flatMap (page : List Text) :
    marks page = page.flatMap fun piece => (piece.splitOn '\n').filter isMark := by
  by_cases hpage : page = []
  · subst hpage
    rfl
  · rw [marks, Text.splitOn_unlines hpage, List.filter_flatMap]

/-- The marks of a page are those of its parts. -/
lemma marks_append (page rest : List Text) : marks (page ++ rest) = marks page ++ marks rest := by
  simp only [marks_eq_flatMap, List.flatMap_append]

lemma marks_flatMap {α : Type} (parts : List α) (page : α → List Text) :
    marks (parts.flatMap page) = parts.flatMap fun part => marks (page part) := by
  simp only [marks_eq_flatMap, List.flatMap_assoc]

/-- A page whose pieces are on one line each is read back as it was. -/
lemma marks_eq_filter {page : List Text} (h : ∀ piece ∈ page, '\n' ∉ piece) :
    marks page = page.filter isMark := by
  by_cases hpage : page = []
  · subst hpage
    rfl
  · rw [marks, Text.splitOn_unlines_of_notMem hpage h]

/-! ## Headings and rows -/

lemma isMark_heading (s : Section) : isMark (heading s) = true := rfl

lemma isRow_heading (s : Section) : isRow (heading s) = false := rfl

lemma isMark_link (s : Section) : isMark (link s) = false := rfl

lemma isRow_row (p : Parameter) : isRow (row p) = true := rfl

lemma isMark_row (p : Parameter) : isMark (row p) = true := rfl

/-- The row of a parameter whose name is on one line is on one line: everything else that comes
from the values file stands in cells. -/
lemma lineFeed_notMem_row {p : Parameter} (h : '\n' ∉ p.name) : '\n' ∉ row p := by
  have hkind : '\n' ∉ p.kind.name := by
    cases p.kind <;> decide
  have hspan : ∀ t : Text, '\n' ∉ t → '\n' ∉ codeSpan t := by
    intro t ht
    simp [codeSpan, ht]
  have hopen : '\n' ∉ "| ".toList := by decide
  have hbar : '\n' ∉ " | ".toList := by decide
  have hclose : '\n' ∉ " |".toList := by decide
  unfold row
  simp only [List.mem_append, hopen, hbar, hclose, hspan _ h, hspan _ hkind,
    not_mem_lineFeed_cell, or_self, not_false_eq_true]

/-- Split at line feeds, a table is its head and the rows of its parameters. -/
lemma splitOn_table {ps : List Parameter} (hne : ps ≠ []) (h : ∀ p ∈ ps, '\n' ∉ p.name) :
    (table ps).splitOn '\n' = tableHead ++ ps.map row := by
  have hlines : ∀ line ∈ tableHead ++ ps.map row, '\n' ∉ line := by
    intro line hline
    have hhead : ∀ line ∈ tableHead, '\n' ∉ line := by decide
    rcases List.mem_append.1 hline with hline | hline
    · exact hhead line hline
    · obtain ⟨p, hp, rfl⟩ := List.mem_map.1 hline
      exact lineFeed_notMem_row (h p hp)
  have htable : table ps = Text.unlines (tableHead ++ ps.map row) := by
    rw [table, if_neg (by simpa using hne), Text.unlines]
  have hne : tableHead ++ ps.map row ≠ [] := List.cons_ne_nil _ _
  rw [htable, Text.splitOn_unlines_of_notMem hne hlines]

/-- The marks of a table are the rows of its parameters. -/
lemma marks_table {ps : List Parameter} (h : ∀ p ∈ ps, '\n' ∉ p.name) :
    marks [table ps] = ps.map row := by
  by_cases hps : ps = []
  · subst hps
    rfl
  · have hrows : (ps.map row).filter isMark = ps.map row :=
      List.filter_eq_self.2 fun line hline => by
        obtain ⟨p, -, rfl⟩ := List.mem_map.1 hline
        exact isMark_row p
    have hhead : tableHead.filter isMark = [] := by decide
    -- the table is one piece of its page, but it was made of lines
    rw [marks_eq_flatMap, List.flatMap_singleton, splitOn_table hps h, List.filter_append, hhead,
      hrows, List.nil_append]

/-! ## Sections -/

/-- The name of a section and the names of its parameters are on one line each. -/
structure StaysOnLines (s : Section) : Prop where
  name : '\n' ∉ s.name
  parameters : ∀ p ∈ s.parameters, '\n' ∉ p.name

/-- Tables of contents have one mark: links are none. -/
lemma marks_contents {ss : List Section} (h : ∀ s ∈ ss, StaysOnLines s) :
    marks (contents ss) = ["## Table of Contents".toList] := by
  have hlinks : marks (ss.map link) = [] := by
    have hlines : ∀ line ∈ ss.map link, '\n' ∉ line := by
      intro line hline
      obtain ⟨s, hs, rfl⟩ := List.mem_map.1 hline
      have hanchor : '\n' ∉ s.anchor := lineFeed_notMem_slug (h s hs).name
      unfold link
      simp [(h s hs).name, hanchor]
    rw [marks_eq_filter hlines, List.filter_eq_nil_iff]
    intro line hline
    obtain ⟨s, -, rfl⟩ := List.mem_map.1 hline
    simp [isMark_link]
  rw [contents, marks_append, marks_append, hlinks]
  decide

lemma marks_heading {s : Section} (h : '\n' ∉ s.name) : marks [heading s, []] = [heading s] := by
  have hheading : '\n' ∉ heading s := by
    unfold heading
    simp [h]
  rw [marks_eq_filter (by simp [hheading]), List.filter_cons_of_pos (isMark_heading s)]
  rfl

/-- No topic brings in a heading or a row. -/
lemma marks_introduction {name : Text} {topic : Topic} (h : topic? name = some topic) :
    marks (introduction topic) = [] := by
  unfold topic? at h
  split_ifs at h <;> cases h <;> decide +kernel

/-- The marks of a section of the reference page. -/
lemma marks_referenceSection {s : Section} (h : StaysOnLines s) :
    marks (referenceSection s) = sectionMarks s := by
  have hparts : referenceSection s = [heading s, []] ++ ([table s.parameters] ++ [[]]) := rfl
  have hgap : marks [[]] = [] := rfl
  rw [hparts, marks_append, marks_append, marks_heading h.name, marks_table h.parameters, hgap,
    List.append_nil, List.singleton_append, sectionMarks]

/-- The marks of a section of the guide page are the same: neither its topic nor what stands above
its table brings in more. -/
lemma marks_guideSection {s : Section} (h : StaysOnLines s) :
    marks (guideSection s) = sectionMarks s := by
  have hparts : guideSection s = [heading s, []] ++ (((topic? s.name).map introduction).getD []
      ++ (["### Configuration Values".toList, []] ++ ([table s.parameters] ++ [[]]))) :=
    List.append_assoc _ _ _
  have hintroduction : marks (((topic? s.name).map introduction).getD []) = [] := by
    cases htopic : topic? s.name with
    | none => rfl
    | some topic => exact marks_introduction htopic
  have htitle : marks ["### Configuration Values".toList, []] = [] := by decide
  have hgap : marks [[]] = [] := rfl
  rw [hparts, marks_append, marks_append, marks_append, marks_append, marks_heading h.name,
    hintroduction, htitle, marks_table h.parameters, hgap, List.append_nil, List.nil_append,
    List.nil_append, List.singleton_append, sectionMarks]

/-! ## Pages -/

/-- The marks of the reference page. -/
lemma marks_reference {ps : List Parameter} (h : ∀ s ∈ sections ps, StaysOnLines s) :
    marks (reference ps) = "## Table of Contents".toList ::
      ((sections ps).flatMap sectionMarks ++ ["## Further Reading".toList]) := by
  have hopening : marks referenceOpening = [] := by decide +kernel
  have hclosing : marks referenceClosing = ["## Further Reading".toList] := by decide +kernel
  have hsections : marks ((sections ps).flatMap referenceSection) =
      (sections ps).flatMap sectionMarks := by
    rw [marks_flatMap]
    exact List.flatMap_congr fun s hs => marks_referenceSection (h s hs)
  simp only [reference, marks_append, hopening, marks_contents h, hsections, hclosing,
    List.nil_append, List.cons_append, List.append_assoc]

/-- The marks of the guide page. -/
lemma marks_guide {ps : List Parameter} (h : ∀ s ∈ sections ps, StaysOnLines s) :
    marks (guide ps) = "## Quick Start".toList :: "## Table of Contents".toList ::
      ((sections ps).flatMap sectionMarks
        ++ ["## Best Practices".toList, "## Examples".toList]) := by
  have hopening : marks guideOpening = [] := by decide +kernel
  have hstart : marks quickStart = ["## Quick Start".toList] := by decide +kernel
  have hclosing : marks guideClosing = ["## Best Practices".toList, "## Examples".toList] := by
    decide +kernel
  have hsections : marks ((sections ps).flatMap guideSection) =
      (sections ps).flatMap sectionMarks := by
    rw [marks_flatMap]
    exact List.flatMap_congr fun s hs => marks_guideSection (h s hs)
  simp only [guide, marks_append, hopening, hstart, marks_contents h, hsections,
    hclosing, List.nil_append, List.cons_append, List.append_assoc]

/-- The rows among the marks of a section are those of its parameters. -/
lemma filter_isRow_sectionMarks (s : Section) :
    (sectionMarks s).filter isRow = s.parameters.map row := by
  rw [sectionMarks, List.filter_cons_of_neg (by simp [isRow_heading]), List.filter_eq_self]
  intro line hline
  obtain ⟨p, -, rfl⟩ := List.mem_map.1 hline
  exact isRow_row p

/-! ## Parameters -/

/-- The sections of the parameters of a values file stay on their lines. -/
lemma staysOnLines_of_mem_sections {t : Text} {root : Value} {s : Section}
    (h : s ∈ sections (parameters t root)) : StaysOnLines s := by
  obtain ⟨hname, hparameters⟩ := of_mem_sections h
  obtain ⟨p, hp, hname⟩ := List.mem_map.1 hname
  constructor
  · rw [← hname, Parameter.sectionName]
    split_ifs
    · decide
    · exact (lineFeed_notMem_of_mem_parameters hp).1
  · rw [hparameters]
    intro q hq
    exact (lineFeed_notMem_of_mem_parameters (List.mem_of_mem_filter hq)).2

/-- **Both pages carry exactly the parameters of the values file.** For every text and tree, split
each page at line feeds and keep the lines that begin with two hashes and a space, or with a pipe,
a space and a backtick. On both pages they are the heading of each section in order, each followed
by one row per parameter of the section, with the fixed headings of the page before and after. So
the rows of both pages agree, and there are as many as parameters; sections have different names,
each one holds the parameters with its name in their order, and no parameter is lost or shown
twice.

**Proof sketch.** Titles and names never reach over the end of a line
(`lineFeed_notMem_of_mem_parameters`), cells spell line feeds out (`not_mem_lineFeed_cell`), and
all other texts are fixed. So every piece of a page but its tables is on one line, and a table is
split into its head and its rows (`marks_table`). -/
theorem marks_of_parameters (t : Text) (root : Value) :
    let ps := parameters t root
    let body := (sections ps).flatMap fun s => heading s :: s.parameters.map row
    marks (reference ps) =
        "## Table of Contents".toList :: (body ++ ["## Further Reading".toList]) ∧
      marks (guide ps) = "## Quick Start".toList :: "## Table of Contents".toList ::
        (body ++ ["## Best Practices".toList, "## Examples".toList]) ∧
      rows (reference ps) = (sections ps).flatMap (fun s => s.parameters.map row) ∧
      rows (guide ps) = rows (reference ps) ∧
      (rows (reference ps)).length = ps.length ∧
      ((sections ps).map Section.name).Nodup ∧
      (∀ s ∈ sections ps, s.parameters = ps.filter fun p => p.sectionName = s.name) ∧
      ((sections ps).flatMap Section.parameters).Perm ps := by
  intro ps body
  have hlines : ∀ s ∈ sections ps, StaysOnLines s := fun s hs => staysOnLines_of_mem_sections hs
  have hreference : marks (reference ps) =
      "## Table of Contents".toList :: (body ++ ["## Further Reading".toList]) :=
    marks_reference hlines
  have hguide : marks (guide ps) = "## Quick Start".toList :: "## Table of Contents".toList ::
      (body ++ ["## Best Practices".toList, "## Examples".toList]) :=
    marks_guide hlines
  have hbody : body.filter isRow = (sections ps).flatMap (fun s => s.parameters.map row) := by
    rw [List.filter_flatMap]
    exact List.flatMap_congr fun s _ => filter_isRow_sectionMarks s
  have hrows : rows (reference ps) = (sections ps).flatMap (fun s => s.parameters.map row) := by
    rw [rows_eq_filter_marks, hreference, List.filter_cons_of_neg (by decide), List.filter_append,
      hbody]
    simp [isRow, Text.startsWith]
  have hsame : rows (guide ps) = rows (reference ps) := by
    rw [hrows, rows_eq_filter_marks, hguide, List.filter_cons_of_neg (by decide),
      List.filter_cons_of_neg (by decide), List.filter_append, hbody]
    simp [isRow, Text.startsWith]
  refine ⟨hreference, hguide, hrows, hsame, ?_, ?_, ?_, flatMap_sections_perm ps⟩
  · rw [hrows, ← List.map_flatMap, List.length_map]
    exact (flatMap_sections_perm ps).length_eq
  · have hnames : (sections ps).map Section.name = (ps.map Parameter.sectionName).eraseDups := by
      rw [sections_eq_map, List.map_map]
      exact List.map_id _
    rw [hnames]
    exact nodup_eraseDups _
  · intro s hs
    rw [sections_eq_map] at hs
    obtain ⟨name, -, rfl⟩ := List.mem_map.1 hs
    rfl

end Page

end ChartValues
