import ChartValues.Proofs.Text.Digits
import ChartValues.Value.Literal

set_option autoImplicit false

/-!
# Literals and defaults

What is told from the text of a literal alone: only null is written as such, whatever stands in
texts, names of tags and numbers. So no default shows null but that of null itself. A default is a
code span, or else the referral to the values file, which only stands for mappings that have
entries.

## Main results

* `Value.literal_eq_null_iff` — only null is written `null`.
* `Value.shown_eq_referral_or` — what a default looks like.
* `Value.shown_ne_null` — only null is shown as `null`.
-/

namespace ChartValues

/-! ## Numbers -/

/-- The characters of a decimal are digits, a point, a minus sign, and the letter of an exponent. -/
lemma Decimal.isDigit_or_of_mem_write {x : Decimal} {c : Char} (h : c ∈ x.write .valuesFile) :
    c.isDigit = true ∨ c ∈ ".-e".toList := by
  have hdigits : ∀ d ∈ Text.ofNat x.digits, d.isDigit = true := fun d => Text.isDigit_of_mem_ofNat
  unfold write at h
  dsimp only at h
  generalize Text.ofNat x.digits = digits at h hdigits
  split_ifs at h
  · simp only [List.mem_append] at h
    rcases h with (h | h) | h
    · split at h
      · cases h
      · exact .inl (hdigits c h)
      · rename_i first rest _
        rcases List.mem_cons.1 h with rfl | h
        · exact .inl (hdigits c (by simp))
        · rcases List.mem_cons.1 h with rfl | h
          · exact .inr (by decide)
          · exact .inl (hdigits c (by simp [h]))
    · exact .inr (by rw [List.mem_singleton.1 h]; decide)
    · rcases Text.isDigit_or_of_mem_ofInt h with h | rfl
      · exact .inl h
      · exact .inr (by decide)
  · simp only [List.mem_append, List.mem_replicate] at h
    rcases h with (h | ⟨-, rfl⟩) | h
    · exact .inl (hdigits c h)
    · exact .inl rfl
    · rcases List.mem_cons.1 h with rfl | h
      · exact .inr (by decide)
      · exact .inl (by rw [List.mem_singleton.1 h]; rfl)
  · rcases List.mem_append.1 h with h | h
    · exact .inl (hdigits c (List.mem_of_mem_take h))
    · rcases List.mem_cons.1 h with rfl | h
      · exact .inr (by decide)
      · exact .inl (hdigits c (List.mem_of_mem_drop h))
  · simp only [List.cons_append, List.mem_cons, List.mem_append, List.mem_replicate] at h
    rcases h with rfl | rfl | ⟨-, rfl⟩ | h
    · exact .inl rfl
    · exact .inr (by decide)
    · exact .inl rfl
    · exact .inl (hdigits c h)

/-- The characters of a floating-point number are digits and a few others. -/
lemma Binary64.isDigit_or_of_mem_write {x : Binary64} {c : Char} (h : c ∈ x.write) :
    c.isDigit = true ∨ c ∈ ".-einfa".toList := by
  cases x with
  | nan =>
    have hnan : ".nan".toList ⊆ ".-einfa".toList := by simp
    exact .inr (hnan h)
  | infinite negative =>
    have hinf : (if negative then ['-'] else []) ++ ".inf".toList ⊆ ".-einfa".toList := by
      cases negative <;> simp
    exact .inr (hinf h)
  | finite negative m q =>
    rcases List.mem_append.1 h with h | h
    · have hsign : (if negative then ['-'] else []) ⊆ ".-einfa".toList := by
        cases negative <;> simp
      exact .inr (hsign h)
    · split_ifs at h
      · have hzero : "0.0".toList ⊆ "0.".toList := by simp
        have hc := hzero h
        rcases List.mem_cons.1 hc with rfl | hc
        · exact .inl rfl
        · exact .inr (by rw [List.mem_singleton.1 hc]; decide)
      · rcases Decimal.isDigit_or_of_mem_write h with h | h
        · exact .inl h
        · have hmore : ".-e".toList ⊆ ".-einfa".toList := by simp
          exact .inr (hmore h)

namespace Value

/-! ## Null -/

/-- **Only null is written `null`**: numbers have no letter `u`, and all other literals begin with a
mark of their own. -/
lemma literal_eq_null_iff {v : Value} : v.literal = "null".toList ↔ v = .null := by
  have hletter : 'u' ∈ "null".toList := by decide
  constructor
  · intro h
    cases v with
    | null => rfl
    | bool b => cases b <;> exact absurd h (by decide)
    | int n =>
      rw [← h] at hletter
      rcases Text.isDigit_or_of_mem_ofInt hletter with hu | hu <;> exact absurd hu (by decide)
    | float x =>
      rw [← h] at hletter
      rcases Binary64.isDigit_or_of_mem_write hletter with hu | hu <;> exact absurd hu (by decide)
    | text t => exact absurd (List.cons.inj h).1 (by decide)
    | list items => exact absurd (List.cons.inj h).1 (by decide)
    | map entries => exact absurd (List.cons.inj h).1 (by decide)
    | tagged name content => exact absurd (List.cons.inj h).1 (by decide)
  · rintro rfl
    rfl

/-! ## Defaults -/

/-- A default is the referral, for a mapping that has entries, or else the code span of the
literal. -/
lemma shown_eq_referral_or (v : Value) :
    (∃ e entries, v = .map (e :: entries) ∧ v.shown = referral) ∨
      v.shown = '\x60' :: v.literal ++ ['\x60'] := by
  unfold shown
  split
  · rename_i e entries
    exact .inl ⟨e, entries, rfl, rfl⟩
  · exact .inr rfl

/-- Only null is shown as `null`. -/
lemma shown_ne_null {v : Value} (h : v ≠ .null) :
    v.shown ≠ '\x60' :: "null".toList ++ ['\x60'] := by
  intro heq
  rcases shown_eq_referral_or v with ⟨e, entries, -, hreferral⟩ | hspan
  · rw [hreferral] at heq
    exact absurd heq (by decide)
  · rw [hspan, List.append_cancel_right_eq, List.cons.injEq] at heq
    exact h (literal_eq_null_iff.1 heq.2)

end Value

end ChartValues
