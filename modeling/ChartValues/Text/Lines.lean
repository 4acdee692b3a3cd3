import ChartValues.Text.Basic

set_option autoImplicit false

/-!
# Lines

A text is read as lines that end in a line feed. A carriage return directly before the line feed
belongs to the line end; a carriage return anywhere else, also at the very end of the text, is a
character of its line. No empty line follows the last line feed.

## Main definitions

* `Text.lines` — the lines of a text, without their ends.
* `Text.unlines` — lines with line feeds between them.

## Main results

* `Text.lines_eq_nil_iff` — only the empty text has no line.
* `Text.not_mem_lineFeed_of_mem_lines` — no line holds a line feed.
-/

namespace ChartValues

namespace Text

/-- The lines of a text, without their ends. -/
def lines : Text → List Text
  | [] => []
  | c :: t =>
    if c = '\n' then [] :: lines t
    else if c = '\r' ∧ t.head? = some '\n' then lines t
    else
      match lines t with
      | [] => [[c]]
      | line :: rest => (c :: line) :: rest

/-- The lines in a row, with a line feed between any two neighbours. -/
def unlines (ls : List Text) : Text := joinWith ['\n'] ls

/-- Only the empty text has no line. -/
theorem lines_eq_nil_iff {t : Text} : lines t = [] ↔ t = [] := by
  induction t with
  | nil => simp [lines]
  | cons c t ih =>
    simp only [lines]
    split
    · simp
    · split
      · rename_i h
        have : t ≠ [] := by
          rintro rfl
          simp at h
        simp [ih, this]
      · split <;> simp

/-- No line holds a line feed. -/
theorem not_mem_lineFeed_of_mem_lines {t l : Text} (h : l ∈ lines t) : '\n' ∉ l := by
  induction t generalizing l with
  | nil => simp [lines] at h
  | cons c t ih =>
    simp only [lines] at h
    split at h
    · rcases List.mem_cons.1 h with rfl | h
      · simp
      · exact ih h
    · rename_i hc
      split at h
      · exact ih h
      · split at h
        · simp only [List.mem_singleton] at h
          subst h
          simpa using Ne.symm hc
        · rename_i line rest heq
          rcases List.mem_cons.1 h with rfl | h
          · have := ih (l := line) (by simp [heq])
            simp only [List.mem_cons, not_or]
            exact ⟨Ne.symm hc, this⟩
          · exact ih (by simp [heq, h])

end Text

end ChartValues
