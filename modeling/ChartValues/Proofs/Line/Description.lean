import ChartValues.Proofs.Line.CommentBlock
import ChartValues.Proofs.Line.Trimmed
import ChartValues.Proofs.Text.Markers

set_option autoImplicit false

/-!
# Descriptions and their canonical form

Each line of a comment block is taken for a description, for an example, for both or for nothing.
What is taken for a description could not be taken for anything else, and this stays so when the
descriptions of several lines are joined. So a block can be written again, with its description on
one line and each example on a line of its own, and the same is read from it.

## Main definitions

* `CommentBlock.IsDescription` — a text that is a description as a whole, if it is not empty.
* `CommentBlock.canonical` — the lines that a block is written as.

## Main results

* `CommentBlock.isDescription_ofLines` — descriptions are descriptions as a whole.
* `CommentBlock.ofLines_canonical` — what is written as its canonical lines is read from them.
* `CommentBlock.ofLines_canonical_ofLines` — every block is read again from its canonical lines.
-/

namespace ChartValues

namespace CommentBlock

/-! ## Descriptions -/

/-- A text that is taken for a description as a whole, if it is not empty. -/
structure IsDescription (t : Text) : Prop where
  trimmed : t.trim = t
  not_example : t.startsWith exampleMarker = false
  not_rule : t.startsWith Line.rule = false
  not_inline : t.contains (' ' :: exampleMarker) = false

lemma isDescription_nil : IsDescription [] := ⟨rfl, rfl, rfl, rfl⟩

/-- **Two descriptions in a row are a description**: the space between them begins no example, since
the second one begins with none, and no example reaches over it. -/
lemma IsDescription.append {t u : Text} (ht : IsDescription t) (htne : t ≠ [])
    (hu : IsDescription u) (hune : u ≠ []) : IsDescription (t ++ ' ' :: u) := by
  have hmarker : ' ' ∉ exampleMarker := by decide
  have hrule : ' ' ∉ Line.rule := by decide
  constructor
  · exact Text.trim_append_cons_append ht.trimmed htne hu.trimmed hune ' '
  · rw [Text.startsWith_append_cons hmarker, ht.not_example]
  · rw [Text.startsWith_append_cons hrule, ht.not_rule]
  · rw [Text.contains_append_cons hmarker, ht.not_inline, hu.not_example, hu.not_inline]
    rfl

/-- Descriptions in a row are a description. -/
lemma isDescription_joinWith {parts : List Text}
    (h : ∀ part ∈ parts, part ≠ [] ∧ IsDescription part) :
    IsDescription (Text.joinWith [' '] parts) := by
  induction parts with
  | nil => exact isDescription_nil
  | cons part parts ih =>
    obtain ⟨⟨hne, hpart⟩, hparts⟩ := List.forall_mem_cons.1 h
    cases parts with
    | nil => rwa [Text.joinWith_singleton]
    | cons next parts =>
      have hrest := Text.joinWith_ne_nil [' '] (hparts next (by simp)).1 parts
      rw [Text.joinWith_cons_cons]
      exact hpart.append hne (ih hparts) hrest

/-! ## What a line adds -/

/-- **What a line adds to a description is a description** as a whole. -/
lemma isDescription_of_ofLine {line t : Text} (h : (ofLine line).1 = some t) :
    t ≠ [] ∧ IsDescription t := by
  have htrim := Line.trim_content line
  unfold ofLine at h
  dsimp only at h
  generalize Line.content line = content at h htrim
  split at h
  · cases h
  · rename_i hsample
    have hexample := Text.startsWith_of_after?_eq_none hsample
    split_ifs at h with hnothing
    simp only [Bool.or_eq_true, List.isEmpty_iff, not_or, Bool.not_eq_true] at hnothing
    obtain ⟨hne, hrule⟩ := hnothing
    split at h
    · rename_i before sample hcut
      split_ifs at h with hblank
      obtain rfl := Option.some.inj h
      have hcontent : Text.trim content = before ++ (' ' :: exampleMarker ++ sample) := by
        rw [htrim, Text.cut?_eq_some hcut, List.append_assoc]
      have hbefore : before.trim <+: before := by
        rw [Text.trim_eq_trimEnd hcontent]
        exact Text.trimEnd_begins before
      have hbegins : before.trim <+: content := by
        rw [← htrim, hcontent]
        exact hbefore.trans (List.prefix_append _ _)
      exact ⟨by simpa using hblank, Text.trim_trim _, Text.startsWith_of_prefix hbegins hexample,
        Text.startsWith_of_prefix hbegins hrule, Text.contains_of_isInfix hbefore.isInfix
          (Text.contains_of_cut?_eq_some (List.cons_ne_nil _ _) hcut)⟩
    · rename_i hcut
      obtain rfl := Option.some.inj h
      refine ⟨hne, htrim, hexample, hrule, ?_⟩
      rw [Text.contains, hcut]
      rfl

/-- An example has no blanks around it. -/
lemma trim_of_ofLine {line sample : Text} (h : (ofLine line).2 = some sample) :
    sample.trim = sample := by
  unfold ofLine at h
  dsimp only at h
  split at h
  · obtain rfl := Option.some.inj h
    exact Text.trim_trim _
  · split_ifs at h
    split at h
    · obtain rfl := Option.some.inj h
      exact Text.trim_trim _
    · cases h

/-- What the lines of a block say together is a description as a whole. -/
lemma isDescription_ofLines (lines : List Text) : IsDescription (ofLines lines).description := by
  refine isDescription_joinWith fun part hpart => ?_
  obtain ⟨line, -, hline⟩ := List.mem_filterMap.1 hpart
  exact isDescription_of_ofLine hline

/-! ## Canonical lines -/

/-- The lines that a block is written as: the description on one line, and each example on a line
of its own. -/
def canonical (block : CommentBlock) : List Text :=
  ("# ".toList ++ block.description) ::
    block.examples.map fun sample => "# Example: ".toList ++ sample

/-- A description on a line of its own is read as such. -/
lemma ofLine_description {t : Text} (h : IsDescription t) :
    ofLine ("# ".toList ++ t) = (if t = [] then none else some t, none) := by
  have hcontent : Line.content ("# ".toList ++ t) = t :=
    calc
      Line.content ('#' :: ' ' :: t) = Text.trim (' ' :: t) := Line.content_cons _
      _ = t.trim := Text.trim_cons_of_blank rfl t
      _ = t := h.trimmed
  have hcut : Text.cut? (' ' :: exampleMarker) t = none := by
    simpa [Text.contains] using h.not_inline
  unfold ofLine
  dsimp only
  rw [hcontent, Text.after?_of_startsWith_eq_false h.not_example, h.not_rule, hcut]
  cases t <;> simp

/-- An example on a line of its own is read as such. -/
lemma ofLine_example {sample : Text} (h : sample.trim = sample) :
    ofLine ("# Example: ".toList ++ sample) = (none, some sample) := by
  have hspace : Text.trim (Text.trimEnd (' ' :: sample)) = sample := by
    rw [Text.trim_trimEnd, Text.trim_cons_of_blank rfl, h]
  have hcontent : Line.content ("# Example: ".toList ++ sample) =
      exampleMarker ++ Text.trimEnd (' ' :: sample) :=
    calc
      Line.content ('#' :: ' ' :: (exampleMarker ++ ' ' :: sample))
        = Text.trim (' ' :: (exampleMarker ++ ' ' :: sample)) := Line.content_cons _
      _ = Text.trim (exampleMarker ++ ' ' :: sample) := Text.trim_cons_of_blank rfl _
      _ = exampleMarker ++ Text.trimEnd (' ' :: sample) :=
        Text.trim_append_cons (c := 'E') (d := ':') rfl rfl "xample".toList (' ' :: sample)
  have hafter : Text.after? (exampleMarker ++ Text.trimEnd (' ' :: sample)) exampleMarker =
      some (Text.trimEnd (' ' :: sample)) := rfl
  unfold ofLine
  dsimp only
  rw [hcontent, hafter]
  dsimp only
  rw [hspace]

/-- **What is written as its canonical lines is read from them**: any description that is one as a
whole, and any examples without blanks around them. -/
lemma ofLines_canonical {block : CommentBlock} (h : IsDescription block.description)
    (hsamples : ∀ sample ∈ block.examples, sample.trim = sample) :
    ofLines block.canonical = block := by
  obtain ⟨description, examples⟩ := block
  have hnothing : examples.filterMap (fun sample => (ofLine ("# Example: ".toList ++ sample)).1) =
      [] := by
    rw [List.filterMap_eq_nil_iff]
    intro sample hsample
    rw [ofLine_example (hsamples sample hsample)]
  have hexamples : examples.filterMap (fun sample => (ofLine ("# Example: ".toList ++ sample)).2) =
      examples := by
    have hsome : ∀ sample ∈ examples, (ofLine ("# Example: ".toList ++ sample)).2 = some sample :=
      fun sample hsample => by rw [ofLine_example (hsamples sample hsample)]
    rw [List.filterMap_congr hsome, List.filterMap_some]
  simp only [ofLines, canonical, List.filterMap_cons, List.filterMap_map, Function.comp_def,
    ofLine_description h, hnothing, hexamples]
  by_cases hempty : description = [] <;> simp [hempty, Text.joinWith]

/-- **Every block is read again from its canonical lines**. -/
theorem ofLines_canonical_ofLines (lines : List Text) :
    ofLines (ofLines lines).canonical = ofLines lines ∧
      (ofLines lines).description.trim = (ofLines lines).description ∧
      (ofLines lines).description.startsWith exampleMarker = false ∧
      (ofLines lines).description.startsWith Line.rule = false ∧
      (ofLines lines).description.contains (' ' :: exampleMarker) = false := by
  have hdescription := isDescription_ofLines lines
  refine ⟨ofLines_canonical hdescription fun sample hsample => ?_, hdescription.trimmed,
    hdescription.not_example, hdescription.not_rule, hdescription.not_inline⟩
  obtain ⟨line, -, hline⟩ := List.mem_filterMap.1 hsample
  exact trim_of_ofLine hline

-- the parts of a marker on two lines are no marker when the lines are joined
example :
    (ofLines ["# an Example".toList, "#: of 2 Example: 1".toList]).canonical =
      ["# an Example : of 2".toList, "# Example: 1".toList] := by decide

end CommentBlock

end ChartValues
