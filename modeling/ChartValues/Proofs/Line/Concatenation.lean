import ChartValues.Proofs.Line.Description

set_option autoImplicit false

/-!
# Comment blocks in a row

What is read from two runs of comment lines, one after the other, is what is read from each of
them: their descriptions with a space between, and their examples in a row. So each line of a block
is read on its own, and a line that says nothing leaves no trace, not even a space.

## Main definitions

* `CommentBlock.append` — what two blocks say one after the other.
* `CommentBlock.isSilent` — whether a line says nothing.

## Main results

* `CommentBlock.ofLines_cons` — a block is read line by line.
* `CommentBlock.ofLines_append` — two runs of lines say what each of them says.
-/

namespace ChartValues

namespace CommentBlock

/-- What two blocks say one after the other. A space stands between the descriptions, if there are
two of them. -/
def append (block other : CommentBlock) : CommentBlock where
  description :=
    if block.description = [] then other.description
    else if other.description = [] then block.description
    else block.description ++ ' ' :: other.description
  examples := block.examples ++ other.examples

instance : Append CommentBlock := ⟨append⟩

/-- A block that says nothing. -/
def silent : CommentBlock := ⟨[], []⟩

/-- Whether a line says nothing: it is bare, or a rule. -/
def isSilent (line : Text) : Bool :=
  (Line.content line).isEmpty || (Line.content line).startsWith Line.rule

/-! ## Descriptions in a row -/

/-- **Descriptions in a row**, none of them empty: the rows on both sides, with a separator between
them if neither side is empty. -/
lemma joinWith_append_of_ne_nil {separator : Text} {parts others : List Text}
    (hparts : ∀ part ∈ parts, part ≠ []) (hothers : ∀ part ∈ others, part ≠ []) :
    Text.joinWith separator (parts ++ others) =
      if Text.joinWith separator parts = [] then Text.joinWith separator others
      else if Text.joinWith separator others = [] then Text.joinWith separator parts
      else Text.joinWith separator parts ++ (separator ++ Text.joinWith separator others) := by
  cases parts with
  | nil => rfl
  | cons part parts =>
    rw [if_neg (Text.joinWith_ne_nil separator (hparts part (by simp)) parts)]
    cases others with
    | nil =>
      rw [List.append_nil]
      rfl
    | cons other others =>
      rw [if_neg (Text.joinWith_ne_nil separator (hothers other (by simp)) others)]
      exact Text.joinWith_append separator (List.cons_ne_nil _ _) (List.cons_ne_nil _ _)

/-- What the lines add to a description is never empty. -/
lemma ne_nil_of_mem_filterMap {lines : List Text} :
    ∀ part ∈ lines.filterMap (fun line => (ofLine line).1), part ≠ [] := by
  intro part hpart
  obtain ⟨line, -, hline⟩ := List.mem_filterMap.1 hpart
  exact (isDescription_of_ofLine hline).1

/-! ## Lines in a row -/

/-- What two runs of lines say, one after the other, is what each of them says. -/
lemma ofLines_append_eq (lines others : List Text) :
    ofLines (lines ++ others) = ofLines lines ++ ofLines others := by
  change ofLines (lines ++ others) = append (ofLines lines) (ofLines others)
  simp only [ofLines, append, List.filterMap_append]
  rw [joinWith_append_of_ne_nil ne_nil_of_mem_filterMap ne_nil_of_mem_filterMap]
  rfl

/-- **A block is read line by line.** -/
lemma ofLines_cons (line : Text) (lines : List Text) :
    ofLines (line :: lines) = ofLines [line] ++ ofLines lines :=
  ofLines_append_eq [line] lines

/-! ## Silent lines -/

/-- A line adds nothing exactly if it is silent: all others have a description or an example. -/
lemma ofLine_eq_none_iff {line : Text} : ofLine line = (none, none) ↔ isSilent line = true := by
  unfold ofLine isSilent
  dsimp only
  generalize Line.content line = content
  generalize hafter : content.after? exampleMarker = after
  cases after with
  | some sample =>
    -- what begins with an example is neither empty nor a rule
    have hspeaks : (content.isEmpty || content.startsWith Line.rule) = false := by
      rw [← List.append_eq_of_isPrefixOf?_eq_some hafter]
      rfl
    simp [hspeaks]
  | none =>
    dsimp only
    split_ifs with hsilent
    · simp [hsilent]
    · rw [iff_false_right hsilent]
      split <;> simp

/-- A single line says nothing exactly if it is silent. -/
lemma ofLines_singleton_eq_silent_iff {line : Text} :
    ofLines [line] = silent ↔ isSilent line = true := by
  rw [← ofLine_eq_none_iff]
  unfold ofLines silent
  rcases hline : ofLine line with ⟨_ | part, _ | sample⟩
  · simp [hline, Text.joinWith]
  · simp [hline]
  · have hne := (isDescription_of_ofLine (congrArg Prod.fst hline)).1
    simp [hline, Text.joinWith, hne]
  · simp [hline]

/-- Silent lines leave no trace. -/
lemma ofLines_filter_isSilent (lines : List Text) :
    ofLines (lines.filter fun line => !isSilent line) = ofLines lines := by
  have hnone : ∀ line, isSilent line = true → ofLine line = (none, none) :=
    fun line => ofLine_eq_none_iff.2
  simp only [ofLines, List.filterMap_filter]
  congr 2 <;>
  · congr 1
    funext line
    cases hsilent : isSilent line <;> simp [hnone, hsilent]

/-! ## Runs of lines -/

/-- **Two runs of lines say what each of them says**: the examples are those of the first run
followed by those of the second one, and a single space stands between the descriptions if there are
two. So a block is put together from its lines, each of them read on its own; no line says nothing
but the bare ones and rules, and those leave no trace.

**Proof sketch.** No line adds an empty description (`isDescription_of_ofLine`), so that a joined
description is empty only if no line has added any (`joinWith_append_of_ne_nil`). The rest is the
same for a run of a single line. -/
theorem ofLines_append (lines others : List Text) :
    (ofLines (lines ++ others)).examples = (ofLines lines).examples ++ (ofLines others).examples ∧
      (ofLines (lines ++ others)).description =
        (if (ofLines lines).description = [] then (ofLines others).description
        else if (ofLines others).description = [] then (ofLines lines).description
        else (ofLines lines).description ++ ' ' :: (ofLines others).description) ∧
      ofLines lines = (lines.map fun line => ofLines [line]).foldr (· ++ ·) silent ∧
      ofLines lines = ofLines (lines.filter fun line => !isSilent line) ∧
      ∀ line, ofLines [line] = silent ↔ isSilent line = true := by
  refine ⟨by rw [ofLines_append_eq]; rfl, by rw [ofLines_append_eq]; rfl, ?_,
    (ofLines_filter_isSilent lines).symm, fun _ => ofLines_singleton_eq_silent_iff⟩
  induction lines with
  | nil => rfl
  | cons line lines ih => rw [ofLines_cons, List.map_cons, List.foldr_cons, ← ih]

-- a rule and a bare line between two descriptions bring in no space of their own
example :
    ofLines ["# Ports".toList, "# =====".toList, "#".toList, "# to open. Example: 80".toList] =
      ⟨"Ports to open.".toList, ["80".toList]⟩ := by decide

end CommentBlock

end ChartValues
