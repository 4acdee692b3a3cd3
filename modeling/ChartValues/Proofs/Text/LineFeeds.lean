import ChartValues.Proofs.Text.Trim
import ChartValues.Text.Lines
import ChartValues.Text.Lowercase

set_option autoImplicit false

/-!
# Texts on one line

Where line feeds come from, and where they go: neither trimming nor writing in lower case brings any
in. Texts that are written with line feeds between them can be read back by splitting at line feeds.

## Main results

* `Text.lineFeed_notMem_lowercase` — a text on one line is on one line in lower case.
* `Text.splitOn_unlines`, `Text.splitOn_unlines_of_notMem` — texts written with line feeds between
  them are read back.
-/

namespace ChartValues

namespace Text

/-! ## Characters of parts -/

/-- All characters of a trimmed text are characters of the text. -/
lemma mem_of_mem_trim {t : Text} {c : Char} (h : c ∈ trim t) : c ∈ t := by
  obtain ⟨tail, -, heq⟩ := exists_eq_takeWhile_append_trim t
  rw [heq]
  simp [h]

/-! ## Lower case -/

/-- A number beyond that of the line feed is not the code of the line feed. -/
lemma charOfNat_ne_lineFeed {n : Nat} (h : 10 < n) : Char.ofNat n ≠ '\n' := by
  intro heq
  by_cases hvalid : n.isValidChar
  · have hcode : n = '\n'.toNat := by
      rw [← heq, Char.ofNat, dif_pos hvalid]
      rfl
    exact absurd hcode (Nat.ne_of_gt h)
  · rw [Char.ofNat, dif_neg hvalid] at heq
    exact absurd heq (by decide)

/-- Only a line feed has a line feed as its lowercase form: the rows move all their characters to
places beyond it. -/
lemma lowercaseChar_ne_lineFeed {c : Char} (h : c ≠ '\n') : lowercaseChar c ≠ '\n' := by
  have hrows : ∀ r ∈ lowercaseRows, 10 < (r.1 : Int) + r.2.2.2 := by decide +kernel
  unfold lowercaseChar
  dsimp only
  split
  · rename_i r hr
    have hmoved := hrows r (List.mem_of_find?_eq_some hr)
    have hfirst : r.1 ≤ c.toNat := by
      have hfound := List.find?_some hr
      simp only [Bool.and_eq_true, decide_eq_true_eq] at hfound
      exact hfound.1.1
    exact charOfNat_ne_lineFeed (by omega)
  · exact h

/-- A text on one line is on one line in lower case. -/
lemma lineFeed_notMem_lowercase {t : Text} (h : '\n' ∉ t) : '\n' ∉ lowercase t := by
  unfold lowercase
  generalize ([] : Text) = before
  induction t generalizing before with
  | nil => simp [lowercaseAfter]
  | cons c t ih =>
    obtain ⟨hc, ht⟩ := not_or.1 (mt List.mem_cons.2 h)
    rw [lowercaseAfter, List.mem_append, not_or]
    refine ⟨?_, ih ht _⟩
    split_ifs
    · decide
    · decide
    · decide
    · exact fun hmem => lowercaseChar_ne_lineFeed (Ne.symm hc) (List.mem_singleton.1 hmem).symm

/-! ## Splitting at line feeds -/

/-- Texts with line feeds between them are split one by one. -/
lemma splitOn_unlines {parts : List Text} (hne : parts ≠ []) :
    (unlines parts).splitOn '\n' = parts.flatMap fun part => part.splitOn '\n' := by
  unfold unlines joinWith
  induction parts with
  | nil => exact absurd rfl hne
  | cons part parts ih =>
    cases parts with
    | nil => simp
    | cons next parts =>
      rw [List.intercalate_cons_cons, List.append_assoc, List.singleton_append, List.splitOn,
        List.splitOnP_append_cons _ _ (by simp), ← List.splitOn, ← List.splitOn,
        ih (List.cons_ne_nil next parts)]
      rfl

/-- Texts on one line each are read back as they were. -/
lemma splitOn_unlines_of_notMem {parts : List Text} (hne : parts ≠ [])
    (h : ∀ part ∈ parts, '\n' ∉ part) : (unlines parts).splitOn '\n' = parts :=
  List.splitOn_intercalate '\n' h hne

end Text

end ChartValues
