import ChartValues.Text.Basic
import Mathlib.Data.List.Basic

set_option autoImplicit false

/-!
# Texts in a row

What is told about texts with a separator between them: how long they are, and which characters
they have.

## Main results

* `Text.joinWith_cons_cons` — texts in a row, from the first one on.
* `Text.joinWith_append` — two rows of texts in a row.
* `Text.mem_joinWith` — a character of texts in a row is one of the texts or the separator.
* `Text.length_joinWith_append` — texts in front do not make a row shorter.
-/

namespace ChartValues

namespace Text

/-- The first text, the separator, and the other texts. -/
lemma joinWith_cons_cons (separator part next : Text) (parts : List Text) :
    joinWith separator (part :: next :: parts) =
      part ++ (separator ++ joinWith separator (next :: parts)) := by
  rw [joinWith, List.intercalate_cons_cons, List.append_assoc, joinWith]

/-- A single text in a row is the text itself. -/
lemma joinWith_singleton (separator part : Text) : joinWith separator [part] = part :=
  List.intercalate_singleton

/-- Two rows of texts in a row, with the separator between them. -/
lemma joinWith_append (separator : Text) {parts others : List Text} (hparts : parts ≠ [])
    (hothers : others ≠ []) :
    joinWith separator (parts ++ others) =
      joinWith separator parts ++ (separator ++ joinWith separator others) := by
  induction parts with
  | nil => exact absurd rfl hparts
  | cons part parts ih =>
    cases parts with
    | nil =>
      obtain ⟨next, others, rfl⟩ := List.exists_cons_of_ne_nil hothers
      rw [List.singleton_append, joinWith_cons_cons, joinWith_singleton]
    | cons next parts =>
      rw [List.cons_append, List.cons_append, joinWith_cons_cons, joinWith_cons_cons,
        ← List.cons_append, ih (List.cons_ne_nil next parts), List.append_assoc,
        List.append_assoc]

/-! ## Characters -/

/-- A character of texts in a row is one of the separator or of some text. -/
lemma mem_joinWith {separator : Text} {parts : List Text} {c : Char}
    (h : c ∈ joinWith separator parts) : c ∈ separator ∨ ∃ part ∈ parts, c ∈ part := by
  induction parts with
  | nil => cases h
  | cons part parts ih =>
    cases parts with
    | nil =>
      rw [joinWith_singleton] at h
      exact .inr ⟨part, by simp, h⟩
    | cons next parts =>
      rw [joinWith_cons_cons, List.mem_append, List.mem_append] at h
      rcases h with h | h | h
      · exact .inr ⟨part, by simp, h⟩
      · exact .inl h
      · rcases ih h with h | ⟨other, hother, h⟩
        · exact .inl h
        · exact .inr ⟨other, List.mem_cons_of_mem _ hother, h⟩

/-! ## Lengths -/

/-- A text in front makes a row longer at least by itself. -/
lemma length_joinWith_cons (separator part : Text) (parts : List Text) :
    part.length + (joinWith separator parts).length ≤
      (joinWith separator (part :: parts)).length := by
  cases parts with
  | nil => simp [joinWith]
  | cons next parts =>
    rw [joinWith_cons_cons, List.length_append, List.length_append]
    omega

/-- Texts in front do not make a row shorter. -/
lemma length_joinWith_append (separator : Text) (before parts : List Text) :
    (joinWith separator parts).length ≤ (joinWith separator (before ++ parts)).length := by
  induction before with
  | nil => exact Nat.le_refl _
  | cons part before ih =>
    have hcons := length_joinWith_cons separator part (before ++ parts)
    rw [List.cons_append]
    omega

/-- Texts in a row are not empty if the first one is not. -/
lemma joinWith_ne_nil (separator : Text) {part : Text} (h : part ≠ []) (parts : List Text) :
    joinWith separator (part :: parts) ≠ [] := by
  have hcons := length_joinWith_cons separator part parts
  have hpart := List.length_pos_iff.2 h
  exact List.length_pos_iff.1 (by omega)

end Text

end ChartValues
