import ChartValues.Text.Basic
import Mathlib.Data.List.Basic
import Mathlib.Data.List.TakeWhile

set_option autoImplicit false

/-!
# Trimmed texts

How trimming and the search for markers see a text that is put together from parts: blanks in
front are lost, and nothing before a character that is not blank is lost at the end.

## Main results

* `Text.trim_append_of_blank`, `Text.trim_append_of_blank_right` — blanks in front and behind do
  not count.
* `Text.exists_eq_takeWhile_append_trim` — a text is its trimmed text between blanks.
* `Text.trim_append_cons` — what is before an inner character that is not blank stays.
* `Text.trim_prefix_append` — a trimmed text stays in front of what is put behind it.
* `Text.exists_cons_of_trim_eq` — a trimmed text begins with a character that is not blank.
* `Text.contains_singleton` — a character occurs as a marker exactly if it is in the text.
* `Text.startsWith_append_cons` — a marker does not reach over a character that it does not hold.
-/

namespace ChartValues

namespace Text

/-! ## Trimming -/

/-- Blanks in front of a text do not count. -/
lemma trim_append_of_blank {pad : Text} (hpad : ∀ c ∈ pad, isBlank c = true) (t : Text) :
    trim (pad ++ t) = trim t := by
  simp only [trim, trimStart, List.dropWhile_append_of_pos hpad]

/-- A blank in front of a text does not count. -/
lemma trim_cons_of_blank {c : Char} (hc : isBlank c = true) (t : Text) :
    trim (c :: t) = trim t := by
  rw [trim, trimStart, List.dropWhile_cons_of_pos hc, trim, trimStart]

/-- A text that begins with a character that is not blank loses nothing in front. -/
lemma trimStart_cons {c : Char} (hc : isBlank c = false) (t : Text) :
    trimStart (c :: t) = c :: t :=
  List.dropWhile_cons_of_neg (by simp [hc])

/-- Only what follows the last character that is not blank is lost at the end. -/
lemma trimEnd_append_cons (before : Text) {c : Char} (hc : isBlank c = false) (after : Text) :
    trimEnd (before ++ c :: after) = before ++ c :: trimEnd after := by
  have hstop : (c :: before.reverse).dropWhile isBlank = c :: before.reverse :=
    List.dropWhile_cons_of_neg (by simp [hc])
  simp only [trimEnd, List.reverse_append, List.reverse_cons, List.append_assoc,
    List.singleton_append, List.dropWhile_append]
  rw [hstop]
  cases h : after.reverse.dropWhile isBlank with
  | nil => simp
  | cons d rest => simp

/-- What is between two characters that are not blank stays. -/
lemma trim_append_cons {c d : Char} (hc : isBlank c = false) (hd : isBlank d = false)
    (inner after : Text) :
    trim (c :: inner ++ d :: after) = c :: inner ++ d :: trimEnd after := by
  rw [trim, List.cons_append, trimStart_cons hc, ← List.cons_append,
    trimEnd_append_cons (c :: inner) hd]

/-- Blanks behind a text do not count for its end. -/
lemma trimEnd_append_of_blank (t : Text) {tail : Text} (htail : ∀ c ∈ tail, isBlank c = true) :
    trimEnd (t ++ tail) = trimEnd t := by
  have hreverse : ∀ c ∈ tail.reverse, isBlank c = true := fun c hc =>
    htail c (List.mem_reverse.1 hc)
  rw [trimEnd, List.reverse_append, List.dropWhile_append_of_pos hreverse, trimEnd]

/-- Blanks behind a text do not count. -/
lemma trim_append_of_blank_right (t : Text) {tail : Text}
    (htail : ∀ c ∈ tail, isBlank c = true) : trim (t ++ tail) = trim t := by
  unfold trim trimStart
  rw [List.dropWhile_append]
  split_ifs with h
  · rw [List.isEmpty_iff.1 h, List.dropWhile_eq_nil_iff.2 htail]
  · exact trimEnd_append_of_blank _ htail

/-- Only blanks are lost at the end of a text. -/
lemma exists_eq_trimEnd_append (t : Text) :
    ∃ tail : Text, (∀ c ∈ tail, isBlank c = true) ∧ t = trimEnd t ++ tail := by
  refine ⟨(t.reverse.takeWhile isBlank).reverse, ?_, ?_⟩
  · intro c hc
    exact List.mem_takeWhile_imp (List.mem_reverse.1 hc)
  · rw [trimEnd, ← List.reverse_append, List.takeWhile_append_dropWhile, List.reverse_reverse]

/-- A text is its trimmed text between the blanks that it begins with and other blanks. -/
lemma exists_eq_takeWhile_append_trim (t : Text) :
    ∃ tail : Text, (∀ c ∈ tail, isBlank c = true) ∧
      t = t.takeWhile isBlank ++ (trim t ++ tail) := by
  obtain ⟨tail, htail, heq⟩ := exists_eq_trimEnd_append (trimStart t)
  refine ⟨tail, htail, ?_⟩
  rw [trim, ← heq, trimStart, List.takeWhile_append_dropWhile]

/-- A trimmed text has nothing left to trim. -/
lemma trim_trim (t : Text) : trim (trim t) = trim t := by
  obtain ⟨tail, htail, heq⟩ := exists_eq_takeWhile_append_trim t
  conv_rhs => rw [heq]
  rw [trim_append_of_blank (fun c hc => List.mem_takeWhile_imp hc),
    trim_append_of_blank_right _ htail]

/-- A text can be trimmed at its end first. -/
lemma trim_trimEnd (t : Text) : trim (trimEnd t) = trim t := by
  obtain ⟨tail, htail, heq⟩ := exists_eq_trimEnd_append t
  conv_rhs => rw [heq]
  rw [trim_append_of_blank_right _ htail]

/-- A trimmed text begins with a character that is not blank. -/
lemma not_isBlank_of_trim_eq_cons {t rest : Text} {c : Char} (h : trim t = c :: rest) :
    isBlank c = false := by
  rw [trim] at h
  cases hstart : trimStart t with
  | nil => simp [hstart, trimEnd] at h
  | cons d inner =>
    have hd : isBlank d = false := by
      have hhead := List.head?_dropWhile_not isBlank t
      rw [← trimStart, hstart] at hhead
      simpa using hhead
    have hend := trimEnd_append_cons [] hd inner
    rw [hstart] at h
    simp only [List.nil_append] at hend
    rw [hend] at h
    obtain ⟨rfl, -⟩ := List.cons.inj h
    exact hd

/-- A text that is not empty and has no blanks at its ends begins with a character that is not
blank. -/
lemma exists_cons_of_trim_eq {t : Text} (hne : t ≠ []) (ht : trim t = t) :
    ∃ c rest, t = c :: rest ∧ isBlank c = false := by
  obtain ⟨c, rest, rfl⟩ := List.exists_cons_of_ne_nil hne
  exact ⟨c, rest, rfl, not_isBlank_of_trim_eq_cons ht⟩

/-- What follows the blanks of a text stays in front of what is put behind it. -/
lemma trimStart_append {t : Text} (h : trimStart t ≠ []) (more : Text) :
    trimStart (t ++ more) = trimStart t ++ more := by
  unfold trimStart at h ⊢
  rw [List.dropWhile_append, if_neg]
  rwa [List.isEmpty_iff]

/-- A text begins with what is left of it without the blanks at its end. -/
lemma trimEnd_begins (t : Text) : trimEnd t <+: t := by
  obtain ⟨tail, -, heq⟩ := exists_eq_trimEnd_append t
  exact ⟨tail, heq.symm⟩

/-- A text loses nothing at its end if something is put behind it that is not blank. -/
lemma trimEnd_prefix_append (t more : Text) : trimEnd t <+: trimEnd (t ++ more) := by
  simp only [trimEnd, List.reverse_append, List.dropWhile_append]
  split_ifs with hblank
  · exact List.prefix_rfl
  · rw [List.reverse_append, List.reverse_reverse]
    exact (trimEnd_begins t).trans (List.prefix_append t _)

/-- A trimmed text begins what is left if something is put behind the text. -/
lemma trim_prefix_append (t more : Text) : trim t <+: trim (t ++ more) := by
  by_cases hstart : trimStart t = []
  · rw [trim, hstart]
    exact List.nil_prefix
  · rw [trim, trim, trimStart_append hstart]
    exact trimEnd_prefix_append _ _

/-- What a trimmed text begins with has blanks at its end only. -/
lemma trim_eq_trimEnd {t u rest : Text} (h : trim t = u ++ rest) : trim u = trimEnd u := by
  cases u with
  | nil => rfl
  | cons c inner => rw [trim, trimStart_cons (not_isBlank_of_trim_eq_cons h)]

/-- A text of which trimming leaves nothing has nothing but blanks. -/
lemma isBlank_of_trim_eq_nil {t : Text} (h : trim t = []) : ∀ c ∈ t, isBlank c = true := by
  obtain ⟨tail, htail, heq⟩ := exists_eq_takeWhile_append_trim t
  rw [h, List.nil_append] at heq
  intro c hc
  rw [heq] at hc
  rcases List.mem_append.1 hc with hc | hc
  · exact List.mem_takeWhile_imp hc
  · exact htail c hc

/-! ## Bytes -/

/-- The bytes of two texts in a row. -/
lemma byteLength_append (t u : Text) : byteLength (t ++ u) = byteLength t + byteLength u := by
  induction t with
  | nil => simp [byteLength]
  | cons c t ih => simp [byteLength, ih, Nat.add_assoc]

/-! ## Markers -/

/-- A character occurs as a marker exactly if it is in the text. -/
lemma contains_singleton {c : Char} {t : Text} : contains t [c] = true ↔ c ∈ t := by
  induction t with
  | nil =>
    have hcut : cut? [c] [] = none := rfl
    simp [contains, hcut]
  | cons d t ih =>
    have hprefix : [c].isPrefixOf? (d :: t) = if c == d then some t else none := rfl
    by_cases hcd : c = d
    · subst hcd
      simp [contains, cut?, hprefix]
    · simp only [contains] at ih
      simp [contains, cut?, hprefix, hcd, ih]

/-- A marker does not reach over a character that it does not hold. -/
lemma startsWith_append_cons {c : Char} {marker : Text} (hc : c ∉ marker) (t rest : Text) :
    startsWith (t ++ c :: rest) marker = startsWith t marker := by
  unfold startsWith
  induction marker generalizing t with
  | nil => simp [List.isPrefixOf]
  | cons m marker ih =>
    obtain ⟨hm, hmarker⟩ := not_or.1 (mt List.mem_cons.2 hc)
    cases t with
    | nil => simp [List.isPrefixOf, Ne.symm hm]
    | cons d t => simp only [List.cons_append, List.isPrefixOf, ih hmarker]

/-- A text begins with a marker if a text does with which it begins. -/
lemma startsWith_mono {t u marker : Text} (hbegins : t <+: u)
    (h : t.startsWith marker = true) : u.startsWith marker = true :=
  List.isPrefixOf_iff_prefix.2 ((List.isPrefixOf_iff_prefix.1 h).trans hbegins)

end Text

end ChartValues
