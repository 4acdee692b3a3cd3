import ChartValues.Line.Banner
import ChartValues.Proofs.Text.Trim
import Mathlib.Data.List.TakeWhile

set_option autoImplicit false

/-!
# Titles of banner lines

The look-ahead below a banner line passes over bare comments and rules, and stops at the first
title of the unbroken run of comments there. A key stands in the section of the last banner line
above it that has a title.

## Main definitions

* `Line.titleAt?` — the title of the banner line with some index.
* `Line.sectionAt` — the title of the last banner line above some place.

## Main results

* `Line.exists_content_of_isBanner` — a banner line is a rule.
* `Line.title?_outlook`, `Line.passed_outlook` — what the look-ahead finds, and what it passes over.
* `Line.titleAt?_eq_or` — when two banner lines with only comments between them agree.
* `Line.sectionAt_succ` — a banner line with a title puts it in force, all other lines keep it.
* `Line.sectionAt_of_passed` — the lines that a look-ahead passes over keep the section.
-/

namespace ChartValues

namespace Line

/-! ## Banner lines -/

/-- The content of a banner line begins with a rule. -/
lemma exists_content_of_isBanner {line : Text} (h : isBanner line = true) :
    ∃ rest, content line = rule ++ rest := by
  obtain ⟨rest, hrest⟩ := List.isPrefixOf_iff_prefix.1 h
  refine ⟨Text.trimEnd rest, ?_⟩
  have hafter : Text.after? line.trim ['#'] = some ([' '] ++ ("=====".toList ++ rest)) := by
    rw [← hrest]
    rfl
  have hblank : ∀ c ∈ [' '], Text.isBlank c = true := List.all_eq_true.1 rfl
  rw [content, hafter, Option.getD_some, Text.trim_append_of_blank hblank]
  exact Text.trim_append_cons (c := '=') (d := '=') rfl rfl "===".toList rest

/-- A banner line is no title. -/
lemma not_isTitle_of_isBanner {line : Text} (h : isBanner line = true) : isTitle line = false := by
  obtain ⟨rest, hrest⟩ := exists_content_of_isBanner h
  have hrule : (content line).startsWith rule = true := by
    rw [hrest]
    exact List.isPrefixOf_iff_prefix.2 (List.prefix_append rule rest)
  simp [isTitle, hrule]

/-! ## The look-ahead -/

/-- The look-ahead finds the first title of the run of comments below a line. -/
lemma title?_outlook (below : List Text) :
    (outlook below).title? = ((below.takeWhile isComment).find? isTitle).map content := by
  induction below with
  | nil => rfl
  | cons line below ih =>
    rw [outlook]
    cases hcomment : isComment line with
    | false => simp [hcomment]
    | true =>
      cases htitle : isTitle line with
      | false => simp [hcomment, htitle, ih]
      | true => simp [hcomment, htitle]

/-- The look-ahead passes over the comments that stand before the first title. -/
lemma passed_outlook (below : List Text) :
    (outlook below).passed =
      (below.takeWhile fun line => isComment line && !isTitle line).length := by
  induction below with
  | nil => rfl
  | cons line below ih =>
    rw [outlook]
    cases hcomment : isComment line with
    | false => simp [hcomment]
    | true =>
      cases htitle : isTitle line with
      | false => simp [hcomment, htitle, ih]
      | true => simp [hcomment, htitle]

/-- A line that is passed over is a comment and no title. -/
lemma bare_of_lt_passed {below : List Text} {n : Nat} {line : Text} (h : n < (outlook below).passed)
    (hget : below[n]? = some line) : isComment line = true ∧ isTitle line = false := by
  rw [passed_outlook] at h
  obtain ⟨hlt, rfl⟩ := List.getElem?_eq_some_iff.1 hget
  have hmem := List.getElem_mem h
  rw [List.IsPrefix.getElem (List.takeWhile_prefix _) h] at hmem
  simpa using List.mem_takeWhile_imp hmem

/-- The look-ahead from above some comments finds the first title among them; without any, it finds
what the look-ahead from below them finds. -/
lemma title?_outlook_append {nearer : List Text} (h : ∀ line ∈ nearer, isComment line = true)
    (farther : List Text) :
    (outlook (nearer ++ farther)).title? =
      ((nearer.find? isTitle).map content).or (outlook farther).title? := by
  rw [title?_outlook, title?_outlook, List.takeWhile_append_of_pos h, List.find?_append,
    Option.map_or]

/-! ## Titles by index -/

/-- The title of the banner line with the given index: what the first title says in the unbroken
run of comments directly below the line. -/
def titleAt? (lines : List Text) (index : Nat) : Option Text :=
  if lines[index]?.any isBanner then
    (((lines.drop (index + 1)).takeWhile isComment).find? isTitle).map content
  else none

/-- The title of the last banner line above the given index that has one, or nothing. -/
def sectionAt (lines : List Text) (index : Nat) : Text :=
  ((List.range index).filterMap (titleAt? lines)).getLast?.getD []

/-- The title of a banner line is what its look-ahead finds. -/
lemma titleAt?_of_isBanner {lines : List Text} {index : Nat}
    (h : lines[index]?.any isBanner = true) :
    titleAt? lines index = (outlook (lines.drop (index + 1))).title? := by
  rw [titleAt?, if_pos h, title?_outlook]

/-- Lines that are no banner lines have no title. -/
lemma titleAt?_of_not_isBanner {lines : List Text} {index : Nat}
    (h : lines[index]?.any isBanner = false) : titleAt? lines index = none := by
  rw [titleAt?, if_neg (by simp [h])]

/-- **Banner lines with only comments between them agree**, unless a title stands between them; it
is the title of the first one then.

**Proof sketch.** The look-ahead of the first one goes through the comments up to the second one,
which is no title itself (`title?_outlook_append`). -/
lemma titleAt?_eq_or {lines : List Text} {first second : Nat} (hlt : first < second)
    (hfirst : lines[first]?.any isBanner = true) (hsecond : lines[second]?.any isBanner = true)
    (hcomment : ∀ index line, first < index → index < second → lines[index]? = some line →
      isComment line = true) :
    titleAt? lines first = titleAt? lines second ∨
      ∃ index line, first < index ∧ index < second ∧ lines[index]? = some line ∧
        isTitle line = true ∧ titleAt? lines first = some (content line) := by
  set between := (lines.drop (first + 1)).take (second - first) with hbetween
  have hmem : ∀ line ∈ between, ∃ index, first < index ∧ index ≤ second ∧
      lines[index]? = some line := by
    intro line hline
    obtain ⟨n, hn, rfl⟩ := List.mem_iff_getElem.1 hline
    rw [hbetween, List.length_take] at hn
    refine ⟨first + 1 + n, by omega, by omega, ?_⟩
    rw [List.getElem_take, List.getElem_drop, List.getElem?_eq_getElem]
  have hrest : (lines.drop (first + 1)).drop (second - first) = lines.drop (second + 1) := by
    rw [List.drop_drop]
    congr 1
    omega
  have hcomments : ∀ line ∈ between, isComment line = true := by
    intro line hline
    obtain ⟨index, hgt, hle, hget⟩ := hmem line hline
    rcases Nat.lt_or_eq_of_le hle with hlt | rfl
    · exact hcomment index line hgt hlt hget
    · rw [hget] at hsecond
      exact isComment_of_isBanner hsecond
  have htitle : titleAt? lines first =
      ((between.find? isTitle).map content).or (titleAt? lines second) := by
    rw [titleAt?_of_isBanner hfirst, titleAt?_of_isBanner hsecond, ← hrest,
      ← title?_outlook_append hcomments, List.take_append_drop]
  cases hfind : between.find? isTitle with
  | none =>
    rw [hfind] at htitle
    exact .inl htitle
  | some line =>
    rw [hfind] at htitle
    obtain ⟨index, hgt, hle, hget⟩ := hmem line (List.mem_of_find?_eq_some hfind)
    have hline : isTitle line = true := List.find?_some hfind
    refine .inr ⟨index, line, hgt, ?_, hget, hline, htitle⟩
    -- the title is not the second banner line, which is no title
    refine Nat.lt_of_le_of_ne hle ?_
    rintro rfl
    rw [hget] at hsecond
    rw [not_isTitle_of_isBanner hsecond] at hline
    cases hline

/-- **A banner line with a title puts it in force**, and all other lines keep the section. -/
lemma sectionAt_succ (lines : List Text) (index : Nat) :
    sectionAt lines (index + 1) = (titleAt? lines index).getD (sectionAt lines index) := by
  unfold sectionAt
  rw [List.range_succ, List.filterMap_append]
  cases h : titleAt? lines index <;> simp [h]

/-- The section below a line, told by the line and what its look-ahead finds. -/
lemma sectionAt_append_cons (before : List Text) (line : Text) (below : List Text) :
    sectionAt (before ++ line :: below) (before.length + 1) =
      if isBanner line then
        (outlook below).title?.getD (sectionAt (before ++ line :: below) before.length)
      else sectionAt (before ++ line :: below) before.length := by
  have hget : (before ++ line :: below)[before.length]? = some line := by
    rw [List.getElem?_append_right (Nat.le_refl _)]
    simp
  have hdrop : (before ++ line :: below).drop (before.length + 1) = below := by
    rw [← List.singleton_append, ← List.append_assoc]
    exact List.drop_left' (by simp)
  rw [sectionAt_succ]
  split_ifs with hbanner
  · rw [titleAt?_of_isBanner (by simpa [hget] using hbanner), hdrop]
  · rw [titleAt?_of_not_isBanner (by simpa [hget] using hbanner)]
    rfl

/-- Where no banner line stands, the section stays in force. -/
lemma sectionAt_of_not_isBanner {lines : List Text} {start index : Nat} (hle : start ≤ index)
    (h : ∀ n line, start ≤ n → n < index → lines[n]? = some line → isBanner line = false) :
    sectionAt lines index = sectionAt lines start := by
  induction hle with
  | refl => rfl
  | @step index hle ih =>
    have hline : lines[index]?.any isBanner = false := by
      cases hget : lines[index]? with
      | none => rfl
      | some line => exact h index line hle (Nat.lt_succ_self index) hget
    rw [sectionAt_succ, titleAt?_of_not_isBanner hline, Option.getD_none,
      ih fun n line hstart hn => h n line hstart (Nat.lt_succ_of_lt hn)]

/-- **The lines that a look-ahead passes over keep the section** that the banner line has put in
force.

**Proof sketch.** Induction on the lines that are passed over. All of them are comments and no
titles, so that a banner line among them agrees with the one that was looked ahead from
(`titleAt?_eq_or`). -/
lemma sectionAt_of_passed {lines : List Text} {start index : Nat}
    (hstart : lines[start]?.any isBanner = true) (hle : start ≤ index)
    (hpassed : index ≤ start + (outlook (lines.drop (start + 1))).passed) :
    sectionAt lines (index + 1) = sectionAt lines (start + 1) := by
  induction hle with
  | refl => rfl
  | @step index hle ih =>
    have hle : start ≤ index := hle
    have ih := ih (by omega)
    -- up to here the look-ahead has met no title, so a banner line here looks ahead to the same one
    have hbare : ∀ n line, start < n → n ≤ index + 1 → lines[n]? = some line →
        isComment line = true ∧ isTitle line = false := by
      intro n line hgt hn hget
      have hget : (lines.drop (start + 1))[n - (start + 1)]? = some line := by
        rw [List.getElem?_drop, ← hget]
        congr 1
        omega
      exact bare_of_lt_passed (by omega) hget
    rw [sectionAt_succ]
    cases hbanner : lines[index + 1]?.any isBanner with
    | false => rw [titleAt?_of_not_isBanner hbanner, Option.getD_none, ih]
    | true =>
      have hagree : titleAt? lines start = titleAt? lines (index + 1) := by
        rcases titleAt?_eq_or (by omega) hstart hbanner
          (fun n line hgt hn hget => (hbare n line hgt (by omega) hget).1) with
          hagree | ⟨n, line, hgt, hn, hget, htitle, -⟩
        · exact hagree
        · rw [(hbare n line hgt (by omega) hget).2] at htitle
          cases htitle
      rw [← hagree, ih, sectionAt_succ]
      cases titleAt? lines start <;> rfl

end Line

end ChartValues
