import ChartValues.Line.CommentBlock
import ChartValues.Proofs.Line.Banner
import ChartValues.Proofs.Text.Joining

set_option autoImplicit false

/-!
# What comments say

Banner lines say nothing in a comment block. The title of a banner does: it is a comment like any
other, so that a block with a title in front says more than the block alone.

## Main results

* `CommentBlock.ofLines_append_cons_of_isBanner` — banner lines can be left out.
* `CommentBlock.ofLines_append_cons_ne` — titles cannot.
-/

namespace ChartValues

namespace CommentBlock

/-! ## Banner lines -/

/-- A banner line says nothing. -/
lemma ofLine_of_isBanner {line : Text} (h : Line.isBanner line = true) :
    ofLine line = (none, none) := by
  obtain ⟨rest, hrest⟩ := Line.exists_content_of_isBanner h
  have hsample : (Line.content line).after? exampleMarker = none := by
    rw [hrest]
    rfl
  have hrule : (Line.content line).startsWith Line.rule = true := by
    rw [hrest]
    exact List.isPrefixOf_iff_prefix.2 (List.prefix_append _ _)
  simp [ofLine, hsample, hrule]

/-- Banner lines can be left out of a block. -/
lemma ofLines_append_cons_of_isBanner {line : Text} (h : Line.isBanner line = true)
    (before after : List Text) : ofLines (before ++ line :: after) = ofLines (before ++ after) := by
  simp [ofLines, ofLine_of_isBanner h]

/-! ## Titles -/

/-- A title that gives no example is a description as a whole. -/
lemma ofLine_of_isTitle {line : Text} (h : Line.isTitle line = true)
    (hsample : (ofLine line).2 = none) : (ofLine line).1 = some (Line.content line) := by
  simp only [Line.isTitle, Bool.and_eq_true, Bool.not_eq_true'] at h
  obtain ⟨⟨-, hrule⟩, hempty⟩ := h
  unfold ofLine at hsample ⊢
  dsimp only at hsample ⊢
  split at hsample
  · cases hsample
  · rw [if_neg (by simp [hrule, hempty])] at hsample ⊢
    split at hsample
    · cases hsample
    · rfl

/-- **A block with a title in front says more than the block alone.**

**Proof sketch.** If the title gives an example, there are more examples. Otherwise all of it is a
description, and makes the description of the block longer. -/
lemma ofLines_append_cons_ne {line : Text} (h : Line.isTitle line = true)
    (before after : List Text) : ofLines (before ++ line :: after) ≠ ofLines after := by
  intro heq
  have hsample : (ofLine line).2 = none := by
    have hlength := congrArg (fun b => b.examples.length) heq
    simp only [ofLines, List.filterMap_append, List.filterMap_cons, List.length_append] at hlength
    cases hsample : (ofLine line).2 with
    | none => rfl
    | some sample =>
      simp only [hsample, List.length_cons] at hlength
      omega
  have hempty : (Line.content line).length ≠ 0 := by
    simp only [Line.isTitle, Bool.and_eq_true, Bool.not_eq_true', List.isEmpty_eq_false_iff] at h
    exact fun hzero => h.2 (List.length_eq_zero_iff.1 hzero)
  have hlength := congrArg (fun b => b.description.length) heq
  simp only [ofLines, List.filterMap_append, List.filterMap_cons, ofLine_of_isTitle h hsample]
    at hlength
  have happend := Text.length_joinWith_append [' ']
    (before.filterMap fun line => (ofLine line).1)
    (Line.content line :: after.filterMap fun line => (ofLine line).1)
  have hcons := Text.length_joinWith_cons [' '] (Line.content line)
    (after.filterMap fun line => (ofLine line).1)
  omega

end CommentBlock

end ChartValues
