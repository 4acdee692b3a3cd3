import ChartValues.Proofs.Parameter.Survey

set_option autoImplicit false

/-!
# Lines inside a value

The text of a block scalar and the items of a list may look like keys. They stand below the key of
a value that is no mapping, and are indented deeper; so whatever their paths are, they go through
a dead end. Such lines can be inserted below the key without being noticed.

## Main definitions

* `IsDeadEnd` — a path that nothing lies below.

## Main results

* `resolve?_path_of_lt` — what stands below a dead end leads nowhere.
* `survey_append_inserted` — nothing is found at lines below a dead end.
* `parameters_insert` — lines inserted below a dead end change no parameter.
-/

namespace ChartValues

/-! ## Dead ends -/

/-- `IsDeadEnd root path` says that the path leads nowhere, or to a value that is no mapping,
looking through tags. -/
def IsDeadEnd (root : Value) (path : List Text) : Prop :=
  (root.resolve? path).bind Value.entries? = none

/-- No path leads through a dead end. -/
lemma IsDeadEnd.resolve?_append {root : Value} {path : List Text} (h : IsDeadEnd root path)
    (key : Text) (rest : List Text) : root.resolve? (path ++ key :: rest) = none := by
  rw [Value.resolve?_append]
  cases hpath : root.resolve? path with
  | none => rfl
  | some v =>
    have hentries : v.entries? = none := by simpa [IsDeadEnd, hpath] using h
    simp [Value.resolve?, Value.child?, hentries]

variable {root : Value} {line : Text} {found : KeyLine} {above : List Text}

/-- What stands below a dead end, with no line between that is indented as little as the dead end,
leads nowhere. -/
lemma resolve?_path_of_lt (hline : KeyLine.parse? line = some found)
    (hend : IsDeadEnd root (found.path above)) {key : KeyLine} {nearer : List Text}
    (hlt : found.indent < Line.frontier key.indent nearer) :
    root.resolve? (key.path (nearer ++ line :: above)) = none := by
  have hpath : key.path (nearer ++ line :: above) =
      found.path above ++ ((Line.climb key.indent nearer).reverse ++ [key.key]) := by
    unfold KeyLine.path
    rw [Line.climb_append, Line.climb_cons_of_lt hline hlt]
    simp
  obtain ⟨first, rest, hrest⟩ := List.exists_cons_of_ne_nil
    (l := (Line.climb key.indent nearer).reverse ++ [key.key]) (by simp)
  rw [hpath, hrest, hend.resolve?_append]

/-! ## Inserted lines -/

variable {inserted : List Text}

/-- **Nothing is found at lines inside a value**: below a dead end, lines that are no comments and
are indented deeper are passed, and leave the section as it is.

**Proof sketch.** Induction on the inserted lines, where those that were passed before stand
between the dead end and the current one. All of them are indented deeper than the dead end, so
that it is an ancestor of the current line. -/
lemma survey_append_inserted (hline : KeyLine.parse? line = some found)
    (hend : IsDeadEnd root (found.path above))
    (hcomment : ∀ l ∈ inserted, Line.isComment l = false)
    (hdeep : Line.AtLeast (found.indent + 1) inserted) {passed : List Text}
    (hpassed : Line.AtLeast (found.indent + 1) passed) (title : Text) (below : List Text) :
    survey root title (passed ++ line :: above) (inserted ++ below) =
      survey root title (inserted.reverse ++ passed ++ line :: above) below := by
  induction inserted generalizing passed with
  | nil => rfl
  | cons l inserted ih =>
    have hl : Line.isComment l = false := hcomment l (by simp)
    have hfind : findAt root title (passed ++ line :: above) l = none := by
      rw [findAt_eq]
      cases hparse : KeyLine.parse? l with
      | none => rfl
      | some key =>
        have hkey : found.indent + 1 ≤ key.indent := hdeep l (by simp) key hparse
        have hnone := resolve?_path_of_lt hline hend (Line.le_frontier hpassed hkey)
        rw [Option.bind_some, hnone]
        rfl
    have hnext : Line.AtLeast (found.indent + 1) (l :: passed) :=
      .cons (hdeep l (by simp)) hpassed
    have ih := ih (fun next hnext => hcomment next (by simp [hnext]))
      (fun next hnext => hdeep next (by simp [hnext])) hnext
    rw [List.cons_append, survey, hfind, titleBelow_of_not_isComment hl, ← List.cons_append, ih]
    simp

/-- A line below finds the same whether or not the lines are inserted.

**Proof sketch.** The inserted lines end a run of comments just as the dead end does. If the climb
reaches them with a frontier as low as the dead end, it passes over them. Otherwise it goes
through the dead end with and without them. -/
lemma findAt_inserted (hline : KeyLine.parse? line = some found)
    (hend : IsDeadEnd root (found.path above))
    (hcomment : ∀ l ∈ inserted, Line.isComment l = false)
    (hdeep : Line.AtLeast (found.indent + 1) inserted) (title : Text) (nearer : List Text)
    (l : Text) :
    findAt root title (nearer ++ (inserted ++ line :: above)) l =
      findAt root title (nearer ++ line :: above) l := by
  have hrun : Line.commentRun (nearer ++ (inserted ++ line :: above)) =
      Line.commentRun (nearer ++ line :: above) := by
    have hstop : ∀ next ∈ (line :: above).head?, Line.isComment next = false := by
      rintro next ⟨⟩
      exact KeyLine.isComment_of_parse? hline
    rw [Line.commentRun_append hstop, Line.commentRun_append]
    cases inserted with
    | nil => exact hstop
    | cons first rest =>
      rintro next ⟨⟩
      exact hcomment first (by simp)
  rw [findAt_eq, findAt_eq, hrun]
  cases KeyLine.parse? l with
  | none => rfl
  | some key =>
    rw [Option.bind_some, Option.bind_some]
    rcases Nat.lt_or_ge found.indent (Line.frontier key.indent nearer) with hlt | hle
    · have hlong : found.indent < Line.frontier key.indent (nearer ++ inserted) := by
        rw [Line.frontier_append]
        exact Line.le_frontier hdeep hlt
      rw [← List.append_assoc, resolve?_path_of_lt hline hend hlong,
        resolve?_path_of_lt hline hend hlt]
      rfl
    · have hpath : key.path (nearer ++ (inserted ++ line :: above)) =
          key.path (nearer ++ line :: above) := by
        unfold KeyLine.path
        rw [Line.climb_append key.indent nearer, Line.climb_append key.indent nearer,
          Line.climb_append_of_le hdeep (by omega)]
      rw [hpath]

/-! ## The rest of the file -/

/-- A survey depends on the lines above only through what is found below them. -/
lemma survey_congr {above above' : List Text}
    (h : ∀ title nearer l,
      findAt root title (nearer ++ above) l = findAt root title (nearer ++ above') l)
    (title : Text) (below : List Text) :
    survey root title above below = survey root title above' below := by
  induction below generalizing title above above' with
  | nil => rfl
  | cons line below ih =>
    have hline := h title [] line
    rw [List.nil_append, List.nil_append] at hline
    have hnext : ∀ title nearer l, findAt root title (nearer ++ line :: above) l =
        findAt root title (nearer ++ line :: above') l := by
      intro title nearer l
      have := h title (nearer ++ [line]) l
      simpa using this
    rw [survey, survey, hline, ih hnext]

/-- A survey up to a line that is no comment does not depend on what is below. -/
lemma survey_append_cons_congr (hline : Line.isComment line = false) {above : List Text}
    {below below' : List Text} (before : List Text)
    (h : ∀ title, survey root title (line :: (before.reverse ++ above)) below =
      survey root title (line :: (before.reverse ++ above)) below') (title : Text) :
    survey root title above (before ++ line :: below) =
      survey root title above (before ++ line :: below') := by
  induction before generalizing title above with
  | nil =>
    simp only [List.nil_append, survey, titleBelow_of_not_isComment hline]
    exact congrArg _ (h title)
  | cons first before ih =>
    have hnext := fun title => by simpa using h title
    simp only [List.cons_append, survey, titleBelow, Line.outlook_append_cons hline]
    rw [ih hnext]

/-- **The inside of a value is invisible**: below a key line whose path is a dead end, lines that
are no comments and define no key at its indentation or less can be inserted without any effect on
what is found in the file.

**Proof sketch.** The survey up to the key line does not see what is below
(`survey_append_cons_congr`). It finds nothing at the inserted lines (`survey_append_inserted`),
and finds the same at all later lines (`findAt_inserted`, `survey_congr`). -/
theorem parameters_insert {t t' : Text} {root : Value} {index : Nat} {found : KeyLine}
    {inserted : List Text} (hline : t.lines[index]?.bind KeyLine.parse? = some found)
    (hend : IsDeadEnd root (Line.ancestors t.lines index found.indent ++ [found.key]))
    (hcomment : ∀ l ∈ inserted, Line.isComment l = false)
    (hdeep : ∀ l ∈ inserted, ∀ key ∈ KeyLine.parse? l, found.indent < key.indent)
    (ht' : t'.lines = t.lines.take (index + 1) ++ inserted ++ t.lines.drop (index + 1)) :
    parameters t' root = parameters t root ∧ findings t' root = findings t root := by
  obtain ⟨line, hget, hparse⟩ := Option.bind_eq_some_iff.1 hline
  obtain ⟨hlt, hget⟩ := List.getElem?_eq_some_iff.1 hget
  have ht : t.lines = t.lines.take index ++ line :: t.lines.drop (index + 1) := by
    rw [← hget, ← List.drop_eq_getElem_cons, List.take_append_drop]
  have ht' : t'.lines =
      t.lines.take index ++ line :: (inserted ++ t.lines.drop (index + 1)) := by
    rw [ht', List.take_succ_eq_append_getElem hlt, hget]
    simp
  have hend : IsDeadEnd root (found.path (t.lines.take index).reverse) := hend
  have hfindings : findings t' root = findings t root := by
    rw [findings_eq_survey, findings_eq_survey, ht, ht']
    apply survey_append_cons_congr (KeyLine.isComment_of_parse? hparse)
    intro title
    rw [List.append_nil]
    have hpassed : Line.AtLeast (found.indent + 1) [] := by simp [Line.AtLeast]
    have hpass := survey_append_inserted hparse hend hcomment hdeep hpassed title
      (t.lines.drop (index + 1))
    rw [List.nil_append, List.append_nil] at hpass
    rw [hpass]
    apply survey_congr
    intro title nearer l
    exact findAt_inserted hparse hend
      (fun next hnext => hcomment next (List.mem_reverse.1 hnext))
      (fun next hnext => hdeep next (List.mem_reverse.1 hnext)) title nearer l
  exact ⟨congrArg _ hfindings, hfindings⟩

/-- A values file with a text of one line below a key. -/
def shortLog : Text :=
  "# =====\n# Output\n# =====\nlog: |\n  start\n# Listener\nport: 80\n".toList

/-- The same file, where more lines stand in the text, some of which look like keys. -/
def longLog : Text :=
  ("# =====\n# Output\n# =====\nlog: |\n  port: 81\n    log: 2\n  - end\n  start\n" ++
    "# Listener\nport: 80\n").toList

/-- The lines that look like keys change nothing. -/
theorem parameters_longLog :
    let root : Value := .map [(.text "log".toList, .text "start\n".toList),
      (.text "port".toList, .int 80)]
    IsDeadEnd root ["log".toList] ∧ parameters longLog root = parameters shortLog root ∧
      findings longLog root = findings shortLog root := by
  intro root
  have hend : IsDeadEnd root ["log".toList] := rfl
  have hline : shortLog.lines[3]?.bind KeyLine.parse? = some ⟨0, "log".toList, true⟩ := by decide
  have hlines : longLog.lines = shortLog.lines.take 4 ++
      ["  port: 81".toList, "    log: 2".toList, "  - end".toList] ++ shortLog.lines.drop 4 := by
    decide
  exact ⟨hend, parameters_insert hline hend (by decide) (by decide) hlines⟩

end ChartValues
