import ChartValues.Parameter.Extraction
import ChartValues.Proofs.Line.Above

set_option autoImplicit false

/-!
# The survey of a file

Extraction passes over lines below a banner. The survey passes over none: it looks at every line in
turn, and at a banner line it only takes note of the title. Both find the same, since all lines
that extraction passes over are comments, and since the banner lines among them have the title that
was already found.

## Main definitions

* `titleBelow` — the section title in force below a line.
* `survey` — what is found at each line, where none is passed over.
* `parameterAt` — the parameter that a single line documents, its section left out.

## Main results

* `findingsFrom_eq_survey` — extraction finds what the survey finds.
* `findAt_eq` — what is found at a line.
* `parameters_eq_filterMap_parameterAt` — the parameters of a file are those of its lines.
-/

namespace ChartValues

/-! ## Looking ahead -/

namespace Line

/-- What lies below the nearest line that is no comment is not seen. -/
lemma outlook_append_cons {line : Text} (h : isComment line = false) (nearer farther : List Text) :
    outlook (nearer ++ line :: farther) = outlook nearer := by
  induction nearer with
  | nil => simp [outlook, h]
  | cons next nearer ih => simp only [List.cons_append, outlook, ih]

/-- A line that is passed is a comment, and the look-ahead goes on below it. -/
lemma outlook_cons_of_pos {line : Text} {below : List Text}
    (h : 0 < (outlook (line :: below)).passed) :
    isComment line = true ∧
      outlook (line :: below) = ⟨(outlook below).title?, (outlook below).passed + 1⟩ := by
  rw [outlook] at h ⊢
  split_ifs at h ⊢ with hcomment htitle
  · exact absurd h (Nat.lt_irrefl 0)
  · exact absurd h (Nat.lt_irrefl 0)
  · exact ⟨by simpa using hcomment, rfl⟩

end Line

/-! ## One line -/

/-- The path of a key line: its ancestors and its key. The lines above are given from the nearest
to the farthest. -/
def KeyLine.path (found : KeyLine) (above : List Text) : List Text :=
  (Line.climb found.indent above).reverse ++ [found.key]

/-- Whether a key line documents the value that its path leads to. -/
def documents (found : KeyLine) (v : Value) : Bool := !v.isNull && !opensBlock found v

/-- What is found at a line: the value at the path of its key, if the line documents it. -/
lemma findAt_eq (root : Value) (title : Text) (above : List Text) (line : Text) :
    findAt root title above line =
      (KeyLine.parse? line).bind fun found =>
        (root.resolve? (found.path above)).bind fun value =>
          if documents found value then
            some ⟨title, found.path above, found.key, value,
              CommentBlock.ofLines (Line.commentRun above)⟩
          else none := by
  unfold findAt
  cases KeyLine.parse? line with
  | none => rfl
  | some found =>
    change (root.resolve? (found.path above)).bind _ = (root.resolve? (found.path above)).bind _
    congr 1
    funext value
    change Option.bind (guard (documents found value = true)) _ = _
    cases documents found value <;> rfl

/-- Nothing is found at a line that defines no key. -/
lemma findAt_of_none {line : Text} (h : KeyLine.parse? line = none) (root : Value) (title : Text)
    (above : List Text) : findAt root title above line = none := by
  rw [findAt_eq, h]
  rfl

/-! ## All lines -/

/-- The section title in force below a line, given the one that is in force at the line and the
lines below it. -/
def titleBelow (title line : Text) (below : List Text) : Text :=
  if Line.isBanner line then (Line.outlook below).title?.getD title else title

/-- Below a line that is no comment, the section title stays in force. -/
lemma titleBelow_of_not_isComment {line : Text} (h : Line.isComment line = false) (title : Text)
    (below : List Text) : titleBelow title line below = title := by
  unfold titleBelow
  rw [if_neg]
  intro hbanner
  rw [Line.isComment_of_isBanner hbanner] at h
  cases h

/-- What is found at each of the lines below a place, where none is passed over. -/
def survey (root : Value) (title : Text) (above : List Text) : List Text → List Finding
  | [] => []
  | line :: below =>
    (findAt root title above line).toList ++
      survey root (titleBelow title line below) (line :: above) below

/-- **Extraction finds what the survey finds**, also if it has to pass over some lines: they must
not reach beyond the look-ahead, and its title must already be in force.

**Proof sketch.** Induction on the lines below. A line that is passed over is a comment, where
nothing is found; if it is a banner line, the title below it is the one in force. At a banner line
that is not passed over, the title below it comes into force and extraction passes over what its
look-ahead has passed, so that both conditions hold for the lines that follow. -/
lemma findingsFrom_eq_survey (root : Value) (title : Text) (above : List Text) (skip : Nat)
    (below : List Text) (hpassed : skip ≤ (Line.outlook below).passed)
    (htitle : skip ≠ 0 → (Line.outlook below).title?.getD title = title) :
    findingsFrom root title above skip below = survey root title above below := by
  induction below generalizing title above skip with
  | nil => cases skip <;> rfl
  | cons line below ih =>
    cases skip with
    | zero =>
      unfold findingsFrom survey titleBelow
      split_ifs with hbanner
      · have hnone := KeyLine.parse?_of_isComment (Line.isComment_of_isBanner hbanner)
        rw [findAt_of_none hnone, Option.toList_none, List.nil_append]
        apply ih _ _ _ le_rfl
        intro _
        cases (Line.outlook below).title? <;> rfl
      · rw [ih _ _ 0 (Nat.zero_le _) (fun h => absurd rfl h)]
    | succ skip =>
      obtain ⟨hcomment, hahead⟩ := Line.outlook_cons_of_pos (Nat.lt_of_lt_of_le (by omega) hpassed)
      rw [hahead] at hpassed htitle
      have htitle : (Line.outlook below).title?.getD title = title := htitle (by omega)
      have hbelow : titleBelow title line below = title := by
        unfold titleBelow
        split_ifs
        · exact htitle
        · rfl
      unfold findingsFrom survey
      rw [findAt_of_none (KeyLine.parse?_of_isComment hcomment), hbelow,
        ih title _ skip (Nat.le_of_succ_le_succ hpassed) fun _ => htitle]
      rfl

/-- What is found in a file is what the survey of its lines finds. -/
lemma findings_eq_survey (t : Text) (root : Value) :
    findings t root = survey root [] [] t.lines :=
  findingsFrom_eq_survey root [] [] 0 t.lines (Nat.zero_le _) fun h => absurd rfl h

/-- What is found in a file is the value at its path. -/
lemma resolve?_of_mem_findings {t : Text} {root : Value} {f : Finding} (h : f ∈ findings t root) :
    root.resolve? f.path = some f.value := by
  rw [findings_eq_survey] at h
  generalize ([] : Text) = title, ([] : List Text) = above, t.lines = below at h
  induction below generalizing title above with
  | nil => cases h
  | cons line below ih =>
    rcases List.mem_append.1 h with h | h
    · rw [Option.mem_toList, findAt_eq] at h
      obtain ⟨found, -, h⟩ := Option.bind_eq_some_iff.1 h
      obtain ⟨value, hvalue, h⟩ := Option.bind_eq_some_iff.1 h
      split_ifs at h
      obtain rfl := Option.some.inj h
      exact hvalue
    · exact ih _ _ h

/-! ## The parameters of single lines -/

/-- The parameter, its section left out. -/
def Parameter.withoutSection (p : Parameter) : Parameter := { p with sectionTitle := [] }

/-- Whether the value is a mapping that has entries, looking through tags. -/
def Value.hasEntries (v : Value) : Bool := v.entries?.any fun entries => !entries.isEmpty

/-- The parameter that the line with the given index documents, its section left out. It is told
from the line itself, from the lines above it, and from the tree. -/
def parameterAt (lines : List Text) (root : Value) (index : Nat) : Option Parameter := do
  let line ← lines[index]?
  let found ← KeyLine.parse? line
  let path := Line.ancestors lines index found.indent ++ [found.key]
  let value ← root.resolve? path
  guard (!value.isNull && !(!found.hasInlineValue && value.hasEntries))
  let block := CommentBlock.ofLines (Line.commentsAbove lines index)
  return {
    sectionTitle := []
    name := Text.joinWith ['.'] path
    description :=
      if block.description.isEmpty then "Configuration for ".toList ++ found.key
      else block.description
    kind := value.kind
    shown := value.shown
    examples := block.examples }

/-- What a line documents is what is found at it. -/
lemma parameterAt_length (root : Value) (title : Text) (above : List Text) (line : Text)
    (below : List Text) :
    parameterAt (above.reverse ++ line :: below) root above.length =
      (findAt root title above line).map fun found => found.parameter.withoutSection := by
  have hline : (above.reverse ++ line :: below)[above.length]? = some line := by
    rw [List.getElem?_append_right (by simp)]
    simp
  have htake : ((above.reverse ++ line :: below).take above.length).reverse = above := by
    rw [List.take_left' (by simp), List.reverse_reverse]
  rw [findAt_eq]
  unfold parameterAt Line.ancestors Line.commentsAbove
  rw [hline, htake]
  change (KeyLine.parse? line).bind _ = _
  cases KeyLine.parse? line with
  | none => rfl
  | some found =>
    change (root.resolve? (found.path above)).bind _ =
      ((root.resolve? (found.path above)).bind _).map _
    cases root.resolve? (found.path above) with
    | none => rfl
    | some value =>
      change Option.bind (guard (documents found value = true)) _ = Option.map _ (ite _ _ _)
      cases documents found value <;> rfl

/-- The survey documents what its lines document, in their order. -/
lemma map_survey (root : Value) (title : Text) (above below : List Text) :
    (survey root title above below).map (fun found => found.parameter.withoutSection) =
      (List.range' above.length below.length).filterMap
        (parameterAt (above.reverse ++ below) root) := by
  induction below generalizing title above with
  | nil => rfl
  | cons line below ih =>
    have hline := parameterAt_length root title above line below
    have ih := ih (titleBelow title line below) (line :: above)
    rw [List.reverse_cons, List.append_assoc, List.singleton_append, List.length_cons] at ih
    rw [survey, List.map_append, ih, List.length_cons, List.range'_succ]
    cases hfound : findAt root title above line with
    | none =>
      rw [hfound] at hline
      rw [List.filterMap_cons_none hline]
      rfl
    | some found =>
      rw [hfound] at hline
      rw [List.filterMap_cons_some hline]
      rfl

/-- **The parameters of a file are those of its lines**: every line is looked at once, in the order
of the file, and documents what it documents on its own, wherever banners stand. The comments that
a parameter takes its description and examples from are the longest run of comments directly above
its line. -/
theorem parameters_eq_filterMap_parameterAt (t : Text) (root : Value) :
    (parameters t root).map Parameter.withoutSection =
        (List.range t.lines.length).filterMap (parameterAt t.lines root) ∧
      ∀ index run, Line.IsCommentRun t.lines index run ↔
        run = Line.commentsAbove t.lines index := by
  refine ⟨?_, fun index run => Line.isCommentRun_iff⟩
  rw [parameters, findings_eq_survey, List.map_map, List.range_eq_range']
  exact map_survey root [] [] t.lines

end ChartValues
