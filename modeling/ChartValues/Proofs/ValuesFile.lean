import ChartValues.Proofs.Parameter.Survey
import ChartValues.Proofs.Value.Reach
import ChartValues.Proofs.Yaml.MergeKeys
import ChartValues.ValuesFile

set_option autoImplicit false

/-!
# Merge keys of values files

A merge key that stays in the tree of a values file is an ordinary key: paths lead through it, and
it can be documented. It stays exactly if mappings chain.

## Main results

* `holdsMergeKey_iff_of_parseValues` — when a values file keeps a merge key.
* `exists_holdsMergeKey_of_parseValues` — a values file that keeps one.
-/

namespace ChartValues

/-- The tree of a values file is the value of its document after all merges. -/
lemma exists_of_parseValues {t : Text} {root : Value} (h : parseValues t = .ok root) :
    ∃ v, (Yaml.Document.ofText t).value = .ok v ∧ Yaml.merge v = .ok root := by
  unfold parseValues at h
  split at h
  · cases h
  · rename_i v hv
    split at h
    · cases h
    · rename_i w hw
      obtain rfl := Except.ok.inj h
      exact ⟨v, hv, hw⟩

/-- A text whose tree passes some check is a values file. -/
lemma exists_root_of_any {t : Text} {check : Value → Bool}
    (h : (parseValues t).toOption.any check = true) :
    ∃ root, parseValues t = .ok root ∧ check root = true := by
  cases hroot : parseValues t with
  | error cause =>
    rw [hroot] at h
    cases h
  | ok root =>
    rw [hroot] at h
    exact ⟨root, rfl, h⟩

/-- A path through a merge key leads somewhere only if a mapping inside has one. -/
lemma holdsMergeKey_of_resolve? {root v : Value} {path : List Text}
    (h : root.resolve? path = some v) (hpath : ['<', '<'] ∈ path) : Yaml.HoldsMergeKey root := by
  obtain ⟨entries, w, hreach, hmem⟩ := Value.exists_reaches_of_resolve? h hpath
  exact ⟨entries, hreach, (.text ['<', '<'], w), hmem, rfl⟩

/-- **When a values file keeps a merge key**: the tree of a values file holds a merge key exactly
if the merge of its document goes through a mapping whose merge key offers a mapping that has a
merge key itself. Otherwise no path through a merge key leads anywhere, and no line of any text
documents one.

**Proof sketch.** The keys of the document are distinct (`Yaml.distinctKeys_value`), so that the
merge of all its levels tells which merge keys stay (`Yaml.holdsMergeKey_iff_of_mergeDepth`). A key
on a path that leads somewhere is the key of a mapping inside, and what is found in a text is the
value at its path. -/
theorem holdsMergeKey_iff_of_parseValues {t : Text} {root : Value}
    (h : parseValues t = .ok root) :
    ∃ v, (Yaml.Document.ofText t).value = .ok v ∧
      (Yaml.HoldsMergeKey root ↔ Yaml.KeepsMergeKey v) ∧
      (¬ Yaml.KeepsMergeKey v →
        (∀ path, ['<', '<'] ∈ path → root.resolve? path = none) ∧
          ∀ source, ∀ f ∈ findings source root, ['<', '<'] ∉ f.path) := by
  obtain ⟨v, hv, hmerge⟩ := exists_of_parseValues h
  have hiff : Yaml.HoldsMergeKey root ↔ Yaml.KeepsMergeKey v :=
    Yaml.holdsMergeKey_iff_of_mergeDepth le_rfl (Yaml.distinctKeys_value hv) hmerge
  refine ⟨v, hv, hiff, fun hnone => ?_⟩
  have hnone : ¬ Yaml.HoldsMergeKey root := fun hholds => hnone (hiff.1 hholds)
  refine ⟨fun path hpath => ?_, fun source f hf hpath => ?_⟩
  · cases hresolve : root.resolve? path with
    | none => rfl
    | some w => exact absurd (holdsMergeKey_of_resolve? hresolve hpath) hnone
  · exact hnone (holdsMergeKey_of_resolve? (resolve?_of_mem_findings hf) hpath)

/-- A values file in which one mapping merges another that merges a third. -/
def chainedMerge : Text :=
  "a: &a\n  x: 1\nb: &b\n  <<: *a\n  y: 2\nc:\n  <<: *b\n".toList

/-- The chained values file has a tree, in which a path leads through the merge key below `c`, and
the line of this merge key is found. -/
lemma exists_root_of_chainedMerge :
    ∃ root, parseValues chainedMerge = .ok root ∧
      root.resolve? [['c'], ['<', '<']] ≠ none ∧
      ∃ f ∈ findings chainedMerge root, ['<', '<'] ∈ f.path := by
  have hcheck : (parseValues chainedMerge).toOption.any (fun root =>
      (root.resolve? [['c'], ['<', '<']]).isSome &&
        (findings chainedMerge root).any fun f => f.path.contains ['<', '<']) = true := by
    decide +kernel
  obtain ⟨root, hroot, hcheck⟩ := exists_root_of_any hcheck
  obtain ⟨hpath, hfound⟩ := Bool.and_eq_true_iff.1 hcheck
  obtain ⟨f, hf, hkey⟩ := List.any_eq_true.1 hfound
  refine ⟨root, hroot, ?_, f, hf, by simpa using hkey⟩
  intro hnone
  rw [hnone] at hpath
  cases hpath

/-- The merge of the chained values file keeps a merge key, because its tree holds one. -/
theorem keepsMergeKey_of_chainedMerge :
    ∃ root v, parseValues chainedMerge = .ok root ∧
      (Yaml.Document.ofText chainedMerge).value = .ok v ∧ Yaml.HoldsMergeKey root ∧
      Yaml.KeepsMergeKey v := by
  obtain ⟨root, hroot, -, f, hf, hkey⟩ := exists_root_of_chainedMerge
  obtain ⟨v, hv, hiff, -⟩ := holdsMergeKey_iff_of_parseValues hroot
  have hholds : Yaml.HoldsMergeKey root :=
    holdsMergeKey_of_resolve? (resolve?_of_mem_findings hf) hkey
  exact ⟨root, v, hroot, hv, hholds, hiff.1 hholds⟩

/-- A merge key can stay: the tree of the chained values file holds one, a path leads through it,
and its line is found. -/
theorem exists_holdsMergeKey_of_parseValues :
    ∃ root, parseValues chainedMerge = .ok root ∧ Yaml.HoldsMergeKey root ∧
      (∃ path, ['<', '<'] ∈ path ∧ root.resolve? path ≠ none) ∧
      ∃ f ∈ findings chainedMerge root, ['<', '<'] ∈ f.path := by
  obtain ⟨root, hroot, hpath, f, hf, hkey⟩ := exists_root_of_chainedMerge
  have hholds : Yaml.HoldsMergeKey root :=
    holdsMergeKey_of_resolve? (resolve?_of_mem_findings hf) hkey
  exact ⟨root, hroot, hholds, ⟨_, by simp, hpath⟩, f, hf, hkey⟩

end ChartValues
