import ChartValues.Proofs.Parameter.Sections
import ChartValues.Proofs.Value.EntryOrder

set_option autoImplicit false

/-!
# Parameters of reordered trees

The parameters of a values file come in the order of its lines. In which order the tree keeps the
entries of its mappings cannot be told from them, unless a mapping stands in a list or below a tag
and is written out there. So it makes no difference that following merge keys moves entries.

## Main definitions

* `Parameter.Alike` — two parameters that may only be shown in different ways.

## Main results

* `rel_findingAt_of_reordered` — a line documents the same in reordered trees.
* `parameters_of_reordered` — reordered trees have the same parameters.
-/

namespace ChartValues

/-- `Alike deep p q` says that `q` is `p`, but for the default of a list or of a tagged value, if
`deep` allows for it. -/
structure Parameter.Alike (deep : Bool) (p q : Parameter) : Prop where
  eq_but_shown : q = { p with shown := q.shown }
  shown_eq : (deep = true → p.kind ≠ .list ∧ p.kind ≠ .mixed) → p.shown = q.shown

variable {deep : Bool} {root root' : Value}

/-! ## One line -/

/-- A key line documents a value exactly if it documents the reordered one. -/
lemma documents_of_reordered {v w : Value} (h : v.Reordered deep w) (found : KeyLine) :
    documents found v = documents found w := by
  unfold documents opensBlock
  rw [h.isNull_eq, h.any_entries?_eq]

/-- **A line documents the same in reordered trees.** -/
lemma rel_findingAt_of_reordered (h : root.Reordered deep root') (lines : List Text) (index : Nat) :
    Option.Rel (Parameter.Alike deep) ((findingAt lines root index).map Finding.parameter)
      ((findingAt lines root' index).map Finding.parameter) := by
  unfold findingAt
  cases lines[index]? with
  | none => exact .none
  | some line =>
    rw [Option.bind_some, Option.bind_some, findAt_eq, findAt_eq]
    cases KeyLine.parse? line with
    | none => exact .none
    | some found =>
      have hvalue := h.resolve? (found.path (lines.take index).reverse)
      rw [Option.bind_some, Option.bind_some]
      generalize root.resolve? _ = value, root'.resolve? _ = value' at hvalue ⊢
      cases hvalue with
      | none => exact .none
      | some hvalue =>
        rw [Option.bind_some, Option.bind_some, documents_of_reordered hvalue]
        split_ifs
        · refine .some ⟨?_, hvalue.shown_eq⟩
          simp only [Finding.parameter, hvalue.kind_eq]
          rfl
        · exact .none

/-! ## All lines -/

/-- Parts of two lists that are related one by one. -/
lemma forall₂_filterMap {α β : Type} {R : β → β → Prop} {f g : α → Option β} (xs : List α)
    (h : ∀ x, Option.Rel R (f x) (g x)) : List.Forall₂ R (xs.filterMap f) (xs.filterMap g) := by
  induction xs with
  | nil => exact .nil
  | cons x xs ih =>
    have hx := h x
    rw [List.filterMap_cons, List.filterMap_cons]
    generalize f x = y, g x = z at hx ⊢
    cases hx with
    | some hyz => exact .cons hyz ih
    | none => exact ih

/-- The parameters of reordered trees are alike. -/
lemma forall₂_parameters_of_reordered (t : Text) (h : root.Reordered deep root') :
    List.Forall₂ (Parameter.Alike deep) (parameters t root) (parameters t root') := by
  unfold parameters
  rw [findings_eq_filterMap_findingAt, findings_eq_filterMap_findingAt, List.map_filterMap,
    List.map_filterMap]
  exact forall₂_filterMap _ (rel_findingAt_of_reordered h t.lines)

/-- **Reordered trees have the same parameters**, for every text, if only plain mappings are
reordered that are reached through plain mappings alone. If mappings in lists and below tags are
reordered as well, there are as many parameters, and they agree one by one; only the defaults of
lists and of tagged values may differ.

**Proof sketch.** Both runs look at the same lines in the same order. The path of a line leads to
reordered values in both trees (`Value.Reordered.resolve?`), which have the same kind and are shown
alike. -/
theorem parameters_of_reordered (t : Text) (h : root.Reordered deep root') :
    (deep = false → parameters t root = parameters t root') ∧
      List.Forall₂ (fun p q => q = { p with shown := q.shown } ∧
          (p.kind ≠ .list → p.kind ≠ .mixed → p.shown = q.shown))
        (parameters t root) (parameters t root') := by
  have halike := forall₂_parameters_of_reordered t h
  constructor
  · rintro rfl
    rw [← List.forall₂_eq_eq_eq]
    refine halike.imp fun p q hpq => ?_
    rw [hpq.eq_but_shown, ← hpq.shown_eq nofun]
  · exact halike.imp fun p q hpq =>
      ⟨hpq.eq_but_shown, fun hlist hmixed => hpq.shown_eq fun _ => ⟨hlist, hmixed⟩⟩

/-- A values file that takes over the entries of one mapping in another. -/
def mergedService : Text :=
  "base: &base\n  port: 80\nsvc:\n  <<: *base\n  name: a\n  path: /\n".toList

/-- The tree of the file before its merge key is followed. -/
def writtenService : Value :=
  .map [(.text "base".toList, .map [(.text "port".toList, .int 80)]),
    (.text "svc".toList, .map [(Yaml.mergeKey, .map [(.text "port".toList, .int 80)]),
      (.text "name".toList, .text "a".toList), (.text "path".toList, .text "/".toList)])]

/-- Following the merge key moves the last entry of the mapping to the front and puts the entry that
is taken over at the end. The parameters are those of the tree in which the entry takes the place of
the merge key. -/
theorem parameters_mergedService :
    let base : List (Value × Value) := [(.text "port".toList, .int 80)]
    let name : Value × Value := (.text "name".toList, .text "a".toList)
    let path : Value × Value := (.text "path".toList, .text "/".toList)
    let tree (svc : List (Value × Value)) : Value :=
      .map [(.text "base".toList, .map base), (.text "svc".toList, .map svc)]
    Yaml.merge writtenService = .ok (tree (path :: name :: base)) ∧
      (tree (path :: name :: base)).Reordered false (tree (base ++ [name, path])) ∧
      (parameters mergedService (tree (path :: name :: base))).map Parameter.name =
        ["base.port".toList, "svc.name".toList, "svc.path".toList] ∧
      parameters mergedService (tree (path :: name :: base)) =
        parameters mergedService (tree (base ++ [name, path])) := by
  intro base name path tree
  have hsvc :
      Value.Reordered false (.map (path :: name :: base)) (.map (base ++ [name, path])) := by
    have hdistinct : Value.HasDistinctTexts (path :: name :: base) :=
      Value.hasDistinctTexts_of_pairwise (by decide)
    exact .map hdistinct rfl (List.forall₂_same.2 fun v _ => .refl v) (List.reverse_perm _).symm
  have htree : (tree (path :: name :: base)).Reordered false (tree (base ++ [name, path])) := by
    have hdistinct : Value.HasDistinctTexts [(.text "base".toList, .map base),
        (.text "svc".toList, .map (path :: name :: base))] :=
      Value.hasDistinctTexts_of_pairwise (by decide)
    let inside : List (Value × Value) :=
      [(.text "base".toList, .map base), (.text "svc".toList, .map (base ++ [name, path]))]
    have hvalues : List.Forall₂ (Value.Reordered false)
        [.map base, .map (path :: name :: base)] (inside.map Prod.snd) :=
      .cons (.refl _) (.cons hsvc .nil)
    exact @Value.Reordered.map false _ inside _ hdistinct rfl hvalues (.refl inside)
  exact ⟨rfl, htree, by decide +kernel, (parameters_of_reordered mergedService htree).1 rfl⟩

end ChartValues
