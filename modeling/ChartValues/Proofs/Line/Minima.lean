import ChartValues.Proofs.Line.Blocks

set_option autoImplicit false

/-!
# Ancestors as minima

The climb from a line is a scan with a frontier that falls. What it finds can be said without any
scan: a key line above is an ancestor exactly if it is indented less than the line itself and less
than all key lines in between, that is, if its indentation is a strict minimum of those from there
on. So indentations grow along a path, and nothing is lost by ending the climb at a line without
indentation.

## Main definitions

* `Line.IsSuffixMinimum` — a key line is indented less than all that follow it up to some place.
* `Line.suffixMinima` — all such key lines, in the order of the file.
* `Line.climbToTop` — a climb that does not end early.

## Main results

* `Line.climb_eq_climbToTop` — ending the climb early makes no difference.
* `Line.ancestors_eq_map_key` — the ancestors are the strict minima.
* `Line.ancestors_eq_map_suffixMinima` — all that is said about the ancestors of a line.
-/

namespace ChartValues

namespace Line

/-! ## Minima -/

/-- `IsSuffixMinimum lines index indent j found` says that the key line `found`, with the index `j`,
is indented less than `indent`, and less than every key line between it and the line `index`. -/
def IsSuffixMinimum (lines : List Text) (index indent j : Nat) (found : KeyLine) : Prop :=
  found.indent < indent ∧ ∀ between < index, j < between → ∀ other ∈ keyAt? lines between,
    found.indent < other.indent

instance (lines : List Text) (index indent j : Nat) (found : KeyLine) :
    Decidable (IsSuffixMinimum lines index indent j found) :=
  inferInstanceAs (Decidable (_ ∧ _))

/-- The key lines above a line that are indented less than `indent`, and less than every key line
between them and the line. They come in the order of the file. -/
def suffixMinima (lines : List Text) (index indent : Nat) : List KeyLine :=
  (List.range index).filterMap fun j =>
    (keyAt? lines j).filter fun found => IsSuffixMinimum lines index indent j found

variable {lines : List Text} {index indent : Nat} {found : KeyLine}

/-- A strict minimum up to the next line is one up to this line, where this line lowers the
bound. -/
lemma isSuffixMinimum_succ_iff {j : Nat} (hj : j < index) :
    IsSuffixMinimum lines (index + 1) indent j found ↔
      IsSuffixMinimum lines index indent j found ∧
        ∀ other ∈ keyAt? lines index, found.indent < other.indent := by
  constructor
  · rintro ⟨hless, hbetween⟩
    exact ⟨⟨hless, fun between hlt => hbetween between (by omega)⟩, hbetween index (by omega) hj⟩
  · rintro ⟨⟨hless, hbetween⟩, hindex⟩
    refine ⟨hless, fun between hlt hgt => ?_⟩
    rcases Nat.lt_succ_iff_lt_or_eq.1 hlt with hlt | rfl
    · exact hbetween between hlt hgt
    · exact hindex

/-- The minima up to the next line: those of the lines above, filtered anew, and the line itself. -/
lemma suffixMinima_succ (lines : List Text) (index indent : Nat) :
    suffixMinima lines (index + 1) indent =
      ((List.range index).filterMap fun j => (keyAt? lines j).filter fun found =>
          IsSuffixMinimum lines (index + 1) indent j found) ++
        ((keyAt? lines index).filter fun found => found.indent < indent).toList := by
  have hself : ∀ found, IsSuffixMinimum lines (index + 1) indent index found ↔
      found.indent < indent := fun found =>
    ⟨And.left, fun hlt => ⟨hlt, fun between hlt hgt => by omega⟩⟩
  unfold suffixMinima
  rw [List.range_succ, List.filterMap_append]
  congr 1
  cases hkey : keyAt? lines index with
  | none => simp [hkey]
  | some found =>
    simp only [List.filterMap_cons, List.filterMap_nil, hkey, Option.filter_some]
    by_cases hlt : found.indent < indent <;> simp [hself, hlt]

/-- Minima can be told by any bound that says the same. -/
lemma filterMap_isSuffixMinimum_congr {index' indent' : Nat}
    (h : ∀ j < index, ∀ found, IsSuffixMinimum lines (index + 1) indent j found ↔
      IsSuffixMinimum lines index' indent' j found) :
    ((List.range index).filterMap fun j => (keyAt? lines j).filter fun found =>
        IsSuffixMinimum lines (index + 1) indent j found) =
      (List.range index).filterMap fun j => (keyAt? lines j).filter fun found =>
        IsSuffixMinimum lines index' indent' j found := by
  refine List.filterMap_congr fun j hj => ?_
  simp only [h j (List.mem_range.1 hj)]

/-- A line that is no key line, or is not indented less, is no minimum and lowers no bound. -/
lemma suffixMinima_succ_of_forall_le
    (h : ∀ other, keyAt? lines index = some other → indent ≤ other.indent) :
    suffixMinima lines (index + 1) indent = suffixMinima lines index indent := by
  have hnone : (keyAt? lines index).filter (fun found => found.indent < indent) = none := by
    rw [Option.filter_eq_none_iff]
    intro other hother
    simpa using h other hother
  rw [suffixMinima_succ, hnone, Option.toList_none, List.append_nil]
  refine filterMap_isSuffixMinimum_congr fun j hj found => ?_
  rw [isSuffixMinimum_succ_iff hj, and_iff_left_iff_imp]
  exact fun hminimum other hother => lt_of_lt_of_le hminimum.1 (h other hother)

/-- A key line that is indented less is a minimum, and lowers the bound for those above. -/
lemma suffixMinima_succ_of_lt (h : keyAt? lines index = some found) (hlt : found.indent < indent) :
    suffixMinima lines (index + 1) indent = suffixMinima lines index found.indent ++ [found] := by
  have hself : (keyAt? lines index).filter (fun found => found.indent < indent) = some found := by
    simp [h, hlt]
  rw [suffixMinima_succ, hself, Option.toList_some]
  congr 1
  refine filterMap_isSuffixMinimum_congr fun j hj other => ?_
  rw [isSuffixMinimum_succ_iff hj, h]
  constructor
  · rintro ⟨⟨-, hbetween⟩, hindex⟩
    exact ⟨hindex found rfl, hbetween⟩
  · rintro ⟨hless, hbetween⟩
    refine ⟨⟨hless.trans hlt, hbetween⟩, ?_⟩
    rintro _ ⟨⟩
    exact hless

/-- Along the minima, indentations grow. -/
lemma pairwise_suffixMinima (lines : List Text) (index indent : Nat) :
    (suffixMinima lines index indent).Pairwise fun a b => a.indent < b.indent := by
  refine List.Pairwise.filterMap _ ?_ (List.Pairwise.and_mem.1 List.pairwise_lt_range)
  rintro j k ⟨-, hk, hjk⟩ a ha b hb
  obtain ⟨-, ha⟩ := Option.filter_eq_some_iff.1 ha
  obtain ⟨hb, -⟩ := Option.filter_eq_some_iff.1 hb
  exact (of_decide_eq_true ha).2 k (List.mem_range.1 hk) hjk b hb

/-! ## Climbs -/

/-- **The ancestors are the strict minima.**

**Proof sketch.** Induction on the lines above. The climb and the minima pass over the same lines;
at a key line that is indented less, the frontier of the climb and the bound of the minima fall to
the same indentation. -/
lemma ancestors_eq_map_key (lines : List Text) (index indent : Nat) :
    ancestors lines index indent = (suffixMinima lines index indent).map KeyLine.key := by
  induction index generalizing indent with
  | zero => rfl
  | succ index ih =>
    by_cases hpassed : ∀ other, keyAt? lines index = some other → indent ≤ other.indent
    · rw [ancestors_succ_of_forall_le hpassed, suffixMinima_succ_of_forall_le hpassed, ih]
    · push Not at hpassed
      obtain ⟨found, hfound, hlt⟩ := hpassed
      rw [ancestors_succ_of_lt hfound hlt, suffixMinima_succ_of_lt hfound hlt, ih,
        List.map_append, List.map_singleton]

/-- The ancestors that are met going up, as in a climb that does not end at a line without
indentation. -/
def climbToTop (frontier : Nat) : List Text → List Text
  | [] => []
  | line :: above =>
    match KeyLine.parse? line with
    | some found =>
      if found.indent < frontier then found.key :: climbToTop found.indent above
      else climbToTop frontier above
    | none => climbToTop frontier above

/-- Ending the climb early makes no difference. -/
lemma climb_eq_climbToTop (frontier : Nat) (above : List Text) :
    climb frontier above = climbToTop frontier above := by
  induction above generalizing frontier with
  | nil => rfl
  | cons line above ih =>
    rw [climbToTop]
    cases hparse : KeyLine.parse? line with
    | none => rw [climb_cons_of_none hparse, ih]
    | some found =>
      dsimp only
      split_ifs with hlt
      · rw [climb_cons_of_lt hparse hlt, ih]
      · rw [climb_cons_of_le hparse (Nat.not_lt.1 hlt), ih]

/-- **Ancestors are strict minima of the indentation.** For every line of every file, and every
indentation:

* The ancestors are, in the order of the file, the keys of exactly those key lines above that are
  indented less than the line and less than every key line in between.
* Their indentations grow along the path.
* The end of the climb at a line without indentation cannot be observed.
* The ancestors are those of the nearest key line above that is indented less, and then its key.
* There are none exactly if no key line above is indented less. -/
theorem ancestors_eq_map_suffixMinima (lines : List Text) (index indent : Nat) :
    ancestors lines index indent = (suffixMinima lines index indent).map KeyLine.key ∧
      ((suffixMinima lines index indent).map KeyLine.indent).Pairwise (· < ·) ∧
      ancestors lines index indent = (climbToTop indent (lines.take index).reverse).reverse ∧
      (∀ outer found, IsNearest lines index indent outer found →
        ancestors lines index indent = ancestors lines outer found.indent ++ [found.key]) ∧
      (ancestors lines index indent = [] ↔
        ∀ outer found, ¬ IsNearest lines index indent outer found) := by
  refine ⟨ancestors_eq_map_key lines index indent, ?_, ?_, ?_, ?_, ?_⟩
  · rw [List.pairwise_map]
    exact pairwise_suffixMinima lines index indent
  · rw [ancestors, climb_eq_climbToTop]
  · intro outer found hnearest
    exact ancestors_of_isNearest hnearest
  · intro hnil outer found hnearest
    rw [ancestors_of_isNearest hnearest] at hnil
    simp at hnil
  · exact ancestors_of_forall_not_isNearest

/-- Of a finished subtree, nothing is an ancestor of the lines that follow it. -/
example :
    let lines : List Text :=
      ["svc:", "  net:", "      type: A", "   stray: 1", "  env:", "    ns: 2"].map String.toList
    (suffixMinima lines 5 4).map KeyLine.key = ["svc".toList, "env".toList] := by decide

end Line

end ChartValues
