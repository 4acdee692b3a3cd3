import ChartValues.Line.Ancestry
import ChartValues.Line.Comment
import ChartValues.Proofs.Line.Reading
import Mathlib.Data.List.TakeWhile
import Mathlib.Data.Nat.Basic
import Mathlib.Order.MinMax

set_option autoImplicit false

/-!
# What stands above a line

Going up from a line, a key line becomes an ancestor if it is indented less than all key lines
that were passed before it. So a climb is told by the frontier alone: it can be cut anywhere, and
what is indented too deep is passed over as if it were not there. The comments of a line are the
longest unbroken run that ends directly above it.

## Main definitions

* `Line.frontier` — the frontier after going up some lines.
* `Line.AtLeast` — whether no key line is indented less than some depth.
* `Line.IsCommentRun` — the longest run of comments that ends directly above a line.

## Main results

* `Line.climb_append` — a climb goes on from the frontier that it has reached.
* `Line.climb_filter` — only key lines count.
* `Line.climb_append_of_le` — lines that are indented too deep are passed over.
* `Line.isCommentRun_iff` — the comments above a line are the longest run.
-/

namespace ChartValues

namespace Line

/-- The frontier after going up some lines, which are given from the nearest to the farthest. -/
def frontier (start : Nat) : List Text → Nat
  | [] => start
  | line :: above =>
    match KeyLine.parse? line with
    | some found => frontier (min start found.indent) above
    | none => frontier start above

/-! ## One line -/

/-- Lines that define no key are passed over. -/
lemma climb_cons_of_none {line : Text} (h : KeyLine.parse? line = none) (start : Nat)
    (above : List Text) : climb start (line :: above) = climb start above := by
  by_cases hzero : start = 0
  · simp only [hzero, climb_zero]
  · simp only [climb, if_neg hzero, h]

/-- A key line that is not indented less than the frontier is passed over. -/
lemma climb_cons_of_le {line : Text} {found : KeyLine} (h : KeyLine.parse? line = some found)
    {start : Nat} (hle : start ≤ found.indent) (above : List Text) :
    climb start (line :: above) = climb start above := by
  by_cases hzero : start = 0
  · simp only [hzero, climb_zero]
  · simp only [climb, if_neg hzero, h, if_neg (Nat.not_lt.2 hle)]

/-- A key line that is indented less than the frontier is the next ancestor. -/
lemma climb_cons_of_lt {line : Text} {found : KeyLine} (h : KeyLine.parse? line = some found)
    {start : Nat} (hlt : found.indent < start) (above : List Text) :
    climb start (line :: above) = found.key :: climb found.indent above := by
  have hpos : start ≠ 0 := by omega
  simp only [climb, if_neg hpos, h, if_pos hlt]

/-! ## Several lines -/

/-- A climb goes on from the frontier that it has reached. -/
lemma climb_append (start : Nat) (lines above : List Text) :
    climb start (lines ++ above) = climb start lines ++ climb (frontier start lines) above := by
  induction lines generalizing start with
  | nil => simp [climb, frontier]
  | cons line lines ih =>
    rw [List.cons_append]
    cases h : KeyLine.parse? line with
    | none => simp only [climb_cons_of_none h, frontier, h, ih]
    | some found =>
      rcases Nat.lt_or_ge found.indent start with hlt | hle
      · simp only [climb_cons_of_lt h hlt, frontier, h, min_eq_right hlt.le, ih,
          List.cons_append]
      · simp only [climb_cons_of_le h hle, frontier, h, min_eq_left hle, ih]

/-- The frontier after going up some lines and then others. -/
lemma frontier_append (start : Nat) (lines above : List Text) :
    frontier start (lines ++ above) = frontier (frontier start lines) above := by
  induction lines generalizing start with
  | nil => rfl
  | cons line lines ih =>
    rw [List.cons_append, frontier, frontier]
    cases KeyLine.parse? line with
    | none => exact ih start
    | some found => exact ih _

/-- Only key lines count. -/
lemma climb_filter (start : Nat) (lines : List Text) :
    climb start (lines.filter definesKey) = climb start lines := by
  induction lines generalizing start with
  | nil => rfl
  | cons line lines ih =>
    cases h : KeyLine.parse? line with
    | none =>
      rw [List.filter_cons_of_neg (by simp [definesKey, h]), climb_cons_of_none h, ih]
    | some found =>
      rw [List.filter_cons_of_pos (by simp [definesKey, h])]
      rcases Nat.lt_or_ge found.indent start with hlt | hle
      · rw [climb_cons_of_lt h hlt, climb_cons_of_lt h hlt, ih]
      · rw [climb_cons_of_le h hle, climb_cons_of_le h hle, ih]

/-- `AtLeast depth lines` says that no key line is indented less than `depth`. -/
def AtLeast (depth : Nat) (lines : List Text) : Prop :=
  ∀ line ∈ lines, ∀ found, KeyLine.parse? line = some found → depth ≤ found.indent

/-- One more line that is indented as deep. -/
lemma AtLeast.cons {depth : Nat} {line : Text} {lines : List Text}
    (hline : ∀ found, KeyLine.parse? line = some found → depth ≤ found.indent)
    (h : AtLeast depth lines) : AtLeast depth (line :: lines) :=
  List.forall_mem_cons.2 ⟨hline, h⟩

/-- Lines that are indented too deep are passed over, and leave the frontier where it is. -/
lemma climb_append_of_le {start depth : Nat} {lines : List Text} (h : AtLeast depth lines)
    (hle : start ≤ depth) (above : List Text) :
    climb start (lines ++ above) = climb start above := by
  induction lines with
  | nil => rfl
  | cons line lines ih =>
    have hline := h line (by simp)
    have ih := ih fun l hl => h l (by simp [hl])
    rw [List.cons_append]
    cases hparse : KeyLine.parse? line with
    | none => rw [climb_cons_of_none hparse, ih]
    | some found => rw [climb_cons_of_le hparse (hle.trans (hline found hparse)), ih]

/-- Lines that are indented at least some depth leave the frontier at this depth or above. -/
lemma le_frontier {start depth : Nat} {lines : List Text} (h : AtLeast depth lines)
    (hle : depth ≤ start) : depth ≤ frontier start lines := by
  induction lines generalizing start with
  | nil => exact hle
  | cons line lines ih =>
    have hline := h line (by simp)
    have ih : ∀ start, depth ≤ start → depth ≤ frontier start lines :=
      fun _ hle => ih (fun l hl => h l (by simp [hl])) hle
    unfold frontier
    cases hparse : KeyLine.parse? line with
    | none => exact ih start hle
    | some found => exact ih _ (le_min hle (hline found hparse))

/-! ## Comments -/

/-- What stands above the nearest line that is no comment does not belong to the run. -/
lemma commentRun_append {farther : List Text}
    (h : ∀ line ∈ farther.head?, isComment line = false) (nearer : List Text) :
    commentRun (nearer ++ farther) = commentRun nearer := by
  unfold commentRun
  congr 1
  induction nearer with
  | nil =>
    cases farther with
    | nil => rfl
    | cons line rest =>
      have hline := h line rfl
      exact List.takeWhile_cons_of_neg (by simp [hline])
  | cons line nearer ih =>
    cases hline : isComment line with
    | false => simp [hline]
    | true => simp [hline, ih]

/-- Above a line that is no comment, there is no run. -/
lemma commentRun_cons_of_not_isComment {line : Text} (h : isComment line = false)
    (farther : List Text) : commentRun (line :: farther) = [] := by
  rw [commentRun, List.takeWhile_cons_of_neg (by simp [h])]
  rfl

/-- All comments that were passed belong to the run. -/
lemma commentRun_append_of_isComment {nearer : List Text}
    (h : ∀ line ∈ nearer, isComment line = true) (farther : List Text) :
    commentRun (nearer ++ farther) = commentRun farther ++ nearer.reverse := by
  rw [commentRun, commentRun, List.takeWhile_append_of_pos h, List.reverse_append]

/-- `IsCommentRun lines index run` says that `run` is the longest run of comments that ends
directly above the line with the given index. -/
def IsCommentRun (lines : List Text) (index : Nat) (run : List Text) : Prop :=
  (∀ line ∈ run, isComment line = true) ∧
    ∃ before, lines.take index = before ++ run ∧
      ∀ line ∈ before.getLast?, isComment line = false

/-- The comments above a line are the longest run. -/
lemma isCommentRun_iff {lines : List Text} {index : Nat} {run : List Text} :
    IsCommentRun lines index run ↔ run = commentsAbove lines index := by
  constructor
  · rintro ⟨hrun, before, htake, hlast⟩
    have hhead : ∀ line ∈ before.reverse.head?, isComment line = false := by
      rwa [List.head?_reverse]
    have hall : run.reverse.takeWhile isComment = run.reverse :=
      List.takeWhile_eq_self_iff.2 fun line hline => hrun line (List.mem_reverse.1 hline)
    rw [commentsAbove, htake, List.reverse_append, commentRun_append hhead, commentRun, hall,
      List.reverse_reverse]
  · rintro rfl
    refine ⟨fun line hline => isComment_of_mem_commentsAbove hline,
      ((lines.take index).reverse.dropWhile isComment).reverse, ?_, ?_⟩
    · rw [commentsAbove, commentRun, ← List.reverse_append, List.takeWhile_append_dropWhile,
        List.reverse_reverse]
    · intro line hline
      rw [List.getLast?_reverse] at hline
      have hhead := List.head?_dropWhile_not isComment (lines.take index).reverse
      rw [hline] at hhead
      simpa using hhead

end Line

end ChartValues
