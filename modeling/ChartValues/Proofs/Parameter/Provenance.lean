import ChartValues.Proofs.Line.Trimmed
import ChartValues.Proofs.Parameter.Sections
import ChartValues.Proofs.Text.Joining
import ChartValues.Proofs.Text.LineFeeds

set_option autoImplicit false

/-!
# Where parameters come from

The section of a parameter is what a title of the file says, and its path is made of keys of key
lines. So what holds of all titles and of all keys of a file holds of its parameters: in particular,
neither the section nor the name of a parameter reaches over the end of a line.

## Main results

* `Line.sectionAt_eq_or` — a section is named by a title.
* `KeyLine.mem_of_mem_key` — the characters of a key are characters of its line, and no colons.
* `exists_of_mem_path` — a path is made of keys.
* `lineFeed_notMem_of_mem_parameters` — sections and names stay on their lines.
-/

namespace ChartValues

/-! ## Titles -/

namespace Line

/-- The title of a banner line is what a title of the file says. -/
lemma exists_of_titleAt? {lines : List Text} {index : Nat} {title : Text}
    (h : titleAt? lines index = some title) :
    ∃ line ∈ lines, isTitle line = true ∧ title = content line := by
  unfold titleAt? at h
  split_ifs at h
  obtain ⟨line, hfind, rfl⟩ := Option.map_eq_some_iff.1 h
  have hmem := (List.takeWhile_prefix _).subset (List.mem_of_find?_eq_some hfind)
  exact ⟨line, List.mem_of_mem_drop hmem, List.find?_some hfind, rfl⟩

/-- **A section is named by a title** of the file, if it has a name. -/
lemma sectionAt_eq_or (lines : List Text) (index : Nat) :
    sectionAt lines index = [] ∨
      ∃ line ∈ lines, isTitle line = true ∧ sectionAt lines index = content line := by
  induction index with
  | zero => exact .inl rfl
  | succ index ih =>
    rw [sectionAt_succ]
    cases htitle : titleAt? lines index with
    | none => exact ih
    | some title => exact .inr (exists_of_titleAt? htitle)

/-- What a comment says is made of characters of its line. -/
lemma mem_of_mem_content {line : Text} {c : Char} (h : c ∈ content line) : c ∈ line := by
  have hinner := Text.mem_of_mem_trim h
  refine Text.mem_of_mem_trim ?_
  cases hafter : Text.after? line.trim ['#'] with
  | none =>
    rw [hafter] at hinner
    exact hinner
  | some rest =>
    rw [hafter] at hinner
    rw [← List.append_eq_of_isPrefixOf?_eq_some hafter]
    exact List.mem_append_right _ hinner

end Line

/-! ## Keys -/

/-- The characters of a key are characters of its line, and no colons. -/
lemma KeyLine.mem_of_mem_key {line : Text} {found : KeyLine}
    (h : KeyLine.parse? line = some found) {c : Char} (hc : c ∈ found.key) :
    c ∈ line ∧ c ≠ ':' := by
  by_cases hcolon : ':' ∈ line.trim
  · obtain ⟨before, after, htrim, hbefore⟩ := List.eq_append_cons_of_mem hcolon
    rw [KeyLine.parse?_of_trim_eq htrim hbefore] at h
    split_ifs at h
    obtain rfl := Option.some.inj h
    have hmem : c ∈ before := Text.mem_of_mem_trim hc
    refine ⟨Text.mem_of_mem_trim ?_, ?_⟩
    · rw [htrim]
      exact List.mem_append_left _ hmem
    · rintro rfl
      exact hbefore hmem
  · rw [KeyLine.parse?_of_colon_notMem hcolon] at h
    cases h

/-- A climb meets keys of key lines. -/
lemma Line.exists_of_mem_climb {start : Nat} {above : List Text} {key : Text}
    (h : key ∈ climb start above) :
    ∃ line ∈ above, ∃ found, KeyLine.parse? line = some found ∧ found.key = key := by
  induction above generalizing start with
  | nil => cases h
  | cons line above ih =>
    cases hparse : KeyLine.parse? line with
    | none =>
      rw [climb_cons_of_none hparse] at h
      obtain ⟨other, hother, hfound⟩ := ih h
      exact ⟨other, List.mem_cons_of_mem _ hother, hfound⟩
    | some found =>
      rcases Nat.lt_or_ge found.indent start with hlt | hle
      · rw [climb_cons_of_lt hparse hlt] at h
        rcases List.mem_cons.1 h with rfl | h
        · exact ⟨line, by simp, found, hparse, rfl⟩
        · obtain ⟨other, hother, hfound⟩ := ih h
          exact ⟨other, List.mem_cons_of_mem _ hother, hfound⟩
      · rw [climb_cons_of_le hparse hle] at h
        obtain ⟨other, hother, hfound⟩ := ih h
        exact ⟨other, List.mem_cons_of_mem _ hother, hfound⟩

/-- **A path is made of keys** of key lines. -/
lemma Line.exists_of_mem_path {lines : List Text} {index : Nat} {path : List Text} {key : Text}
    (h : pathAt? lines index = some path) (hkey : key ∈ path) :
    ∃ line ∈ lines, ∃ found, KeyLine.parse? line = some found ∧ found.key = key := by
  obtain ⟨found, hfound, rfl⟩ := exists_of_pathAt? h
  rcases List.mem_append.1 hkey with hkey | hkey
  · obtain ⟨line, hline, hrest⟩ := exists_of_mem_climb (List.mem_reverse.1 hkey)
    exact ⟨line, List.mem_of_mem_take (List.mem_reverse.1 hline), hrest⟩
  · obtain ⟨line, hget, hparse⟩ := Option.bind_eq_some_iff.1 hfound
    exact ⟨line, List.mem_of_getElem? hget, found, hparse, (List.mem_singleton.1 hkey).symm⟩

/-! ## Parameters -/

/-- **Sections and names stay on their lines.** -/
lemma lineFeed_notMem_of_mem_parameters {t : Text} {root : Value} {p : Parameter}
    (h : p ∈ parameters t root) : '\n' ∉ p.sectionTitle ∧ '\n' ∉ p.name := by
  obtain ⟨f, hf, rfl⟩ := List.mem_map.1 h
  rw [findings_eq_filterMap_findingAt] at hf
  obtain ⟨index, -, hf⟩ := List.mem_filterMap.1 hf
  obtain ⟨found, -, hpath, -, -, htitle, -⟩ := exists_of_findingAt hf
  constructor
  · have htitle : f.parameter.sectionTitle = Line.sectionAt t.lines index := htitle
    rw [htitle]
    rcases Line.sectionAt_eq_or t.lines index with hnil | ⟨line, hline, -, hcontent⟩
    · simp [hnil]
    · rw [hcontent]
      exact fun hmem => Text.not_mem_lineFeed_of_mem_lines hline (Line.mem_of_mem_content hmem)
  · intro hmem
    rcases Text.mem_joinWith hmem with hdot | ⟨key, hkey, hmem⟩
    · simp at hdot
    · obtain ⟨line, hline, found, hparse, rfl⟩ := Line.exists_of_mem_path hpath hkey
      exact Text.not_mem_lineFeed_of_mem_lines hline (KeyLine.mem_of_mem_key hparse hmem).1

end ChartValues
