import ChartValues.Text.Basic

set_option autoImplicit false

/-!
# Comment lines

A comment line begins, after blanks, with a number sign. What it says is the rest of the line
without the blanks around it.

## Main definitions

* `Line.isComment` — whether a line is a comment.
* `Line.content` — what a comment line says.
* `Line.isBanner` — whether a line opens or closes a banner.
* `Line.commentsAbove` — the comment lines directly above a line of a file.

## Main results

* `Line.isComment_of_isBanner` — banner lines are comments.
* `Line.isComment_of_mem_commentsAbove` — only comments stand in a comment block.
-/

namespace ChartValues

namespace Line

/-- Whether the line is a comment. -/
def isComment (line : Text) : Bool := line.trim.startsWith ['#']

/-- What a comment line says: the line without surrounding blanks and one number sign. -/
def content (line : Text) : Text :=
  Text.trim ((Text.after? line.trim ['#']).getD line.trim)

/-- What the content of a banner line begins with. -/
def rule : Text := "=====".toList

/-- Whether the line opens or closes a banner. -/
def isBanner (line : Text) : Bool := line.trim.startsWith ('#' :: ' ' :: rule)

/-- The unbroken run of comments that ends directly above a place, in the order of the file. The
lines above the place are given from the nearest to the farthest. -/
def commentRun (above : List Text) : List Text := (above.takeWhile isComment).reverse

/-- The unbroken run of comments that ends directly above the line with the given index. -/
def commentsAbove (lines : List Text) (index : Nat) : List Text :=
  commentRun (lines.take index).reverse

/-- Banner lines are comments. -/
theorem isComment_of_isBanner {line : Text} (h : isBanner line = true) :
    isComment line = true := by
  simp only [isBanner, isComment, Text.startsWith, List.isPrefixOf_iff_prefix] at h ⊢
  exact (List.prefix_append ['#'] (' ' :: rule)).trans h

/-- Only comments stand in a comment block. -/
theorem isComment_of_mem_commentsAbove {lines : List Text} {index : Nat} {line : Text}
    (h : line ∈ commentsAbove lines index) : isComment line = true := by
  simp only [commentsAbove, commentRun, List.mem_reverse] at h
  exact (List.all_eq_true.1 (List.all_takeWhile (l := (lines.take index).reverse))) line h

end Line

end ChartValues
