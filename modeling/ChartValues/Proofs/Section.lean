import ChartValues.Proofs.Text.LineFeeds
import ChartValues.Section
import Mathlib.Data.List.Induction
import Mathlib.Data.List.Nodup
import Mathlib.Data.List.Perm.Basic

set_option autoImplicit false

/-!
# Grouping by section

The sections of some parameters are told by the names of their sections: there is one section for
each name, in the order in which names are first met, and it holds the parameters with that name,
in their order.

## Main results

* `sections_eq_map` — the sections, one for each distinct name.
* `flatMap_sections_perm` — no parameter is lost or repeated.
* `sections_part_parameters` — all that is said about the sections of some parameters.
* `lineFeed_notMem_slug` — the link target of a heading on one line is on one line.
-/

namespace ChartValues

/-! ## Distinct names -/

/-- A name behind some names is one more distinct name if it is new. -/
lemma eraseDups_append_singleton (names : List Text) (name : Text) :
    (names ++ [name]).eraseDups =
      if name ∈ names then names.eraseDups else names.eraseDups ++ [name] := by
  rw [List.eraseDups_append]
  by_cases h : name ∈ names
  · simp [List.removeAll, h]
  · simp [List.removeAll, h, List.eraseDups_cons]

/-- Distinct names come in the order in which they are first met. -/
lemma pairwise_idxOf_eraseDups (names : List Text) :
    names.eraseDups.Pairwise fun a b => names.idxOf a < names.idxOf b := by
  induction names using List.reverseRecOn with
  | nil => simp
  | append_singleton names name ih =>
    have hold : ∀ a ∈ names, (names ++ [name]).idxOf a = names.idxOf a := fun a ha => by
      rw [List.idxOf_append, if_pos ha]
    have hbefore : names.eraseDups.Pairwise fun a b =>
        (names ++ [name]).idxOf a < (names ++ [name]).idxOf b := by
      refine List.Pairwise.imp_of_mem (fun {a b} ha hb hlt => ?_) ih
      rwa [hold a (List.mem_eraseDups.1 ha), hold b (List.mem_eraseDups.1 hb)]
    rw [eraseDups_append_singleton]
    split_ifs with h
    · exact hbefore
    · refine List.pairwise_append.2 ⟨hbefore, List.pairwise_singleton _ _, fun a ha b hb => ?_⟩
      obtain rfl := List.mem_singleton.1 hb
      have hmem := List.mem_eraseDups.1 ha
      rw [hold a hmem, List.idxOf_append, if_neg h]
      exact Nat.lt_add_left _ (List.idxOf_lt_length_of_mem hmem)

/-- Distinct names are distinct. -/
lemma nodup_eraseDups (names : List Text) : names.eraseDups.Nodup := by
  refine (pairwise_idxOf_eraseDups names).imp ?_
  rintro a b hlt rfl
  exact lt_irrefl _ hlt

/-! ## Sections -/

/-- A parameter is added to the section of its name; if there is none, it begins a section. -/
lemma addParameter_map {names : List Text} (hnodup : names.Nodup) (content : Text → List Parameter)
    (p : Parameter) :
    addParameter p (names.map fun name => ⟨name, content name⟩) =
      if p.sectionName ∈ names then
        names.map fun name =>
          ⟨name, if name = p.sectionName then content name ++ [p] else content name⟩
      else (names.map fun name => ⟨name, content name⟩) ++ [⟨p.sectionName, [p]⟩] := by
  induction names with
  | nil => rfl
  | cons name names ih =>
    obtain ⟨hnotMem, hnodup⟩ := List.nodup_cons.1 hnodup
    rw [List.map_cons, addParameter]
    by_cases hname : name = p.sectionName
    · rw [if_pos hname, if_pos (by simp [hname]), List.map_cons, if_pos hname]
      congr 1
      refine List.map_congr_left fun other hother => ?_
      have hother : other ≠ p.sectionName := by
        rintro rfl
        rw [hname] at hnotMem
        exact hnotMem hother
      rw [if_neg hother]
    · rw [if_neg hname, ih hnodup]
      by_cases hmem : p.sectionName ∈ names
      · simp [hmem, hname]
      · simp [hmem, Ne.symm hname]

/-- **There is one section for each distinct name**, in the order in which names are first met; it
holds the parameters with that name, in their order.

**Proof sketch.** Induction on the parameters from the last one on, which is added to the sections
of those before it (`addParameter_map`). -/
lemma sections_eq_map (ps : List Parameter) :
    sections ps = (ps.map Parameter.sectionName).eraseDups.map fun name =>
      ⟨name, ps.filter fun p => p.sectionName = name⟩ := by
  induction ps using List.reverseRecOn with
  | nil => rfl
  | append_singleton ps p ih =>
    have hold : ∀ name, name ≠ p.sectionName →
        (ps ++ [p]).filter (fun q => q.sectionName = name) =
          ps.filter fun q => q.sectionName = name := by
      intro name hname
      simp [Ne.symm hname]
    rw [sections_append, ih, addParameter_map (nodup_eraseDups _), List.map_append,
      List.map_singleton, eraseDups_append_singleton]
    simp only [List.mem_eraseDups]
    split_ifs with hmem
    · refine List.map_congr_left fun name _ => ?_
      split_ifs with hname
      · simp [hname]
      · rw [hold name hname]
    · rw [List.map_append]
      congr 1
      · refine List.map_congr_left fun name hname => ?_
        rw [hold name]
        rintro rfl
        exact hmem (List.mem_eraseDups.1 hname)
      · have hnew : ps.filter (fun q => q.sectionName = p.sectionName) = [] := by
          rw [List.filter_eq_nil_iff]
          intro q hq hname
          exact hmem (List.mem_map.2 ⟨q, hq, by simpa using hname⟩)
        simp [hnew]

/-- A parameter that is added is one more parameter of the sections. -/
lemma flatMap_addParameter_perm (p : Parameter) (ss : List Section) :
    ((addParameter p ss).flatMap Section.parameters).Perm
      (ss.flatMap Section.parameters ++ [p]) := by
  induction ss with
  | nil => rfl
  | cons s ss ih =>
    rw [addParameter]
    split_ifs
    · simp only [List.flatMap_cons, List.append_assoc]
      exact List.perm_append_comm.append_left _
    · simp only [List.flatMap_cons, List.append_assoc]
      exact ih.append_left _

/-- **No parameter is lost or repeated**: the parameters of all sections are the parameters. -/
lemma flatMap_sections_perm (ps : List Parameter) :
    ((sections ps).flatMap Section.parameters).Perm ps := by
  induction ps using List.reverseRecOn with
  | nil => rfl
  | append_singleton ps p ih =>
    rw [sections_append]
    exact (flatMap_addParameter_perm p _).trans (ih.append_right [p])

/-- The names of the sections. -/
lemma map_name_sections (ps : List Parameter) :
    (sections ps).map Section.name = (ps.map Parameter.sectionName).eraseDups := by
  rw [sections_eq_map, List.map_map]
  exact List.map_id _

/-- A section has the name of a parameter, and holds the parameters with this name. -/
lemma of_mem_sections {ps : List Parameter} {s : Section} (h : s ∈ sections ps) :
    s.name ∈ ps.map Parameter.sectionName ∧
      s.parameters = ps.filter fun p => p.sectionName = s.name := by
  rw [sections_eq_map] at h
  obtain ⟨name, hname, rfl⟩ := List.mem_map.1 h
  exact ⟨List.mem_eraseDups.1 hname, rfl⟩

/-- The general section is for the parameters that stand below no banner, or below a banner with
its name. -/
lemma sectionName_eq_general_iff (p : Parameter) :
    p.sectionName = general ↔ p.sectionTitle = [] ∨ p.sectionTitle = general := by
  unfold Parameter.sectionName
  split_ifs with h
  · simp [List.isEmpty_iff.1 h]
  · simp [mt List.isEmpty_iff.2 h]

/-- **The sections part the parameters by name.** For all parameters:

* There is a section for each name of a parameter and for no other. Sections come in the order in
  which their names are first met, so that they have different names.
* A section holds exactly the parameters with its name, in their order, and at least one.
* No parameter is lost, repeated or invented.
* The general section holds the parameters that stand below no banner, and those below a banner with
  its name, wherever they stand. -/
theorem sections_part_parameters (ps : List Parameter) :
    let names := ps.map Parameter.sectionName
    (∀ name, name ∈ (sections ps).map Section.name ↔ name ∈ names) ∧
      ((sections ps).map Section.name).Pairwise (fun a b => names.idxOf a < names.idxOf b) ∧
      ((sections ps).map Section.name).Nodup ∧
      (∀ s ∈ sections ps, s.parameters = ps.filter (fun p => p.sectionName = s.name) ∧
        s.parameters ≠ []) ∧
      ((sections ps).flatMap Section.parameters).Perm ps ∧
      ∀ s ∈ sections ps, s.name = general →
        s.parameters = ps.filter fun p => p.sectionTitle = [] ∨ p.sectionTitle = general := by
  intro names
  rw [map_name_sections]
  refine ⟨fun name => List.mem_eraseDups, pairwise_idxOf_eraseDups names, nodup_eraseDups names,
    fun s hs => ?_, flatMap_sections_perm ps, fun s hs hgeneral => ?_⟩
  · obtain ⟨hname, hparameters⟩ := of_mem_sections hs
    obtain ⟨p, hp, hpname⟩ := List.mem_map.1 hname
    have hmem : p ∈ s.parameters := by
      rw [hparameters]
      exact List.mem_filter.2 ⟨hp, by simpa using hpname⟩
    exact ⟨hparameters, List.ne_nil_of_mem hmem⟩
  · rw [(of_mem_sections hs).2, hgeneral]
    simp only [sectionName_eq_general_iff]

/-! ## Link targets -/

/-- The link target of a heading on one line is on one line. -/
lemma lineFeed_notMem_slug {name : Text} (h : '\n' ∉ name) : '\n' ∉ slug name := by
  intro hmem
  obtain ⟨c, hc, heq⟩ := List.mem_map.1 hmem
  split_ifs at heq
  · cases heq
  · subst heq
    exact Text.lineFeed_notMem_lowercase h (List.mem_of_mem_filter hc)

end ChartValues
