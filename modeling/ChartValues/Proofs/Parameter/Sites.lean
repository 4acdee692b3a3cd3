import ChartValues.Proofs.Parameter.Survey
import Mathlib.Data.List.Forall2

set_option autoImplicit false

/-!
# Documented paths

Of all that is found at a line, its path and its value do not depend on comments and banners: they
are told by the key lines of the file alone, and by their order.

## Main definitions

* `Finding.site` — the path of a finding and the value there.
* `sites` — the paths that lines document, and the values there.

## Main results

* `map_site_findings` — the paths and values of all that is found in a file.
* `sites_append` — lines are looked at one after the other.
* `sites_filter` — only key lines count.
* `forall₂_parameters_of_definesKey` — comments, banners and blank lines do not change which
  parameters a file has, nor their kinds and defaults.
-/

namespace ChartValues

/-- The path of a finding and the value there. -/
def Finding.site (found : Finding) : List Text × Value := (found.path, found.value)

/-- The path that a line documents, and the value there. -/
def siteAt (root : Value) (above : List Text) (line : Text) : Option (List Text × Value) :=
  (KeyLine.parse? line).bind fun found =>
    (root.resolve? (found.path above)).bind fun value =>
      if documents found value then some (found.path above, value) else none

/-- The paths that the lines below a place document, and the values there. -/
def sites (root : Value) (above : List Text) : List Text → List (List Text × Value)
  | [] => []
  | line :: below => (siteAt root above line).toList ++ sites root (line :: above) below

variable (root : Value)

/-! ## Findings -/

/-- What is found at a line has the path and the value that the line documents. -/
lemma map_site_findAt (title : Text) (above : List Text) (line : Text) :
    (findAt root title above line).map Finding.site = siteAt root above line := by
  rw [findAt_eq]
  unfold siteAt
  cases KeyLine.parse? line with
  | none => rfl
  | some found =>
    rw [Option.bind_some, Option.bind_some]
    cases root.resolve? (found.path above) with
    | none => rfl
    | some value =>
      rw [Option.bind_some, Option.bind_some]
      cases documents found value <;> rfl

/-- The paths and values of all that a survey finds. -/
lemma map_site_survey (title : Text) (above below : List Text) :
    (survey root title above below).map Finding.site = sites root above below := by
  induction below generalizing title above with
  | nil => rfl
  | cons line below ih =>
    rw [survey, sites, List.map_append, ih, ← map_site_findAt root title]
    cases findAt root title above line <;> rfl

/-- The paths and values of all that is found in a file. -/
lemma map_site_findings (t : Text) :
    (findings t root).map Finding.site = sites root [] t.lines := by
  rw [findings_eq_survey, map_site_survey]

/-! ## Lines -/

/-- Lines are looked at one after the other. -/
lemma sites_append (above lines below : List Text) :
    sites root above (lines ++ below) =
      sites root above lines ++ sites root (lines.reverse ++ above) below := by
  induction lines generalizing above with
  | nil => rfl
  | cons line lines ih => simp [sites, ih]

/-- The path of a key depends on the key lines above alone. -/
lemma KeyLine.path_filter (found : KeyLine) (above : List Text) :
    found.path (above.filter Line.definesKey) = found.path above := by
  rw [KeyLine.path, KeyLine.path, Line.climb_filter]

/-- Only key lines count. -/
lemma sites_filter (above below : List Text) :
    sites root (above.filter Line.definesKey) (below.filter Line.definesKey) =
      sites root above below := by
  induction below generalizing above with
  | nil => rfl
  | cons line below ih =>
    have ih := ih (line :: above)
    cases hparse : KeyLine.parse? line with
    | none =>
      have hno : ¬ Line.definesKey line = true := by simp [Line.definesKey, hparse]
      rw [List.filter_cons_of_neg hno] at ih ⊢
      simp [sites, siteAt, hparse, ih]
    | some found =>
      have hyes : Line.definesKey line = true := by simp [Line.definesKey, hparse]
      rw [List.filter_cons_of_pos hyes] at ih ⊢
      simp [sites, siteAt, hparse, ih, found.path_filter]

/-! ## Files with the same key lines -/

/-- Two files with the same key lines document the same paths, with the same values. -/
lemma map_site_findings_eq {t t' : Text}
    (h : t.lines.filter Line.definesKey = t'.lines.filter Line.definesKey) :
    (findings t root).map Finding.site = (findings t' root).map Finding.site := by
  rw [map_site_findings, map_site_findings, ← sites_filter, h, sites_filter]

/-- **Comments do not change what is documented**: two files with the same key lines, in the same
order, have as many parameters, and they agree one by one in name, kind and default, whatever
comments, banners, blank lines and other lines stand between the key lines.

**Proof sketch.** The two runs pass over different lines, but each of them finds the sites of its
key lines (`map_site_findings`, `sites_filter`), and these are the same. Name, kind and default are
told by the site. -/
theorem forall₂_parameters_of_definesKey {t t' : Text}
    (h : t.lines.filter Line.definesKey = t'.lines.filter Line.definesKey) :
    List.Forall₂ (fun p p' => p.name = p'.name ∧ p.kind = p'.kind ∧ p.shown = p'.shown)
      (parameters t root) (parameters t' root) := by
  have hsites : List.Forall₂ (fun f f' => f.site = f'.site) (findings t root)
      (findings t' root) := by
    have heq := map_site_findings_eq root h
    rwa [← List.forall₂_eq_eq_eq, List.forall₂_map_left_iff, List.forall₂_map_right_iff] at heq
  rw [parameters, parameters, List.forall₂_map_left_iff, List.forall₂_map_right_iff]
  refine hsites.imp fun f f' hsite => ?_
  obtain ⟨hpath, hvalue⟩ := Prod.mk.inj hsite
  simp [Finding.parameter, hpath, hvalue]

/-- A values file without comments. -/
def bareService : Text := "svc:\n  type: NodePort\nport: 80\n".toList

/-- The same keys with a banner whose title is never closed, comments that look like keys, and
lines that are neither. -/
def commentedService : Text :=
  ("# =====\n#\n# Net\n---\nsvc:\n# old: 1\n\n    # Kind of the service\n  type: NodePort\n" ++
    "- item\n# =====\n# Port\nport: 80\n").toList

/-- The comments change descriptions and sections, but not which parameters there are. -/
theorem forall₂_parameters_commentedService :
    let root : Value := .map [(.text "svc".toList, .map [(.text "type".toList,
      .text "NodePort".toList)]), (.text "port".toList, .int 80)]
    bareService.lines.filter Line.definesKey = commentedService.lines.filter Line.definesKey ∧
      parameters bareService root ≠ parameters commentedService root ∧
      List.Forall₂ (fun p p' => p.name = p'.name ∧ p.kind = p'.kind ∧ p.shown = p'.shown)
        (parameters bareService root) (parameters commentedService root) := by
  intro root
  have hkeys : bareService.lines.filter Line.definesKey =
      commentedService.lines.filter Line.definesKey := by decide
  exact ⟨hkeys, by decide, forall₂_parameters_of_definesKey root hkeys⟩

end ChartValues
