import ChartValues.Text.Basic
import Mathlib.Data.List.Basic

set_option autoImplicit false

/-!
# Written integers

A number is written with digits, and with a minus sign in front of them if it is negative. It can
be read back from them.

## Main results

* `Text.isDigit_of_mem_ofNat`, `Text.isDigit_or_of_mem_ofInt` — the characters of a written number.
* `Text.ofNat_injective` — no two numbers are written alike.
* `Text.eq_of_ofInt_append` — an integer is read back where no digit follows it.
-/

namespace ChartValues

namespace Text

/-- A number has at least one digit. -/
lemma ofNat_ne_nil (n : Nat) : ofNat n ≠ [] := Nat.toDigits_ne_nil

/-- All characters of a written natural number are digits. -/
lemma isDigit_of_mem_ofNat {n : Nat} {c : Char} (h : c ∈ ofNat n) : c.isDigit = true :=
  Nat.isDigit_of_mem_toDigits (by decide) (by decide) h

/-- The first character of a written natural number is a digit. -/
lemma exists_ofNat_eq_cons (n : Nat) : ∃ c digits, ofNat n = c :: digits ∧ c.isDigit = true := by
  obtain ⟨c, digits, hn⟩ := List.exists_cons_of_ne_nil (ofNat_ne_nil n)
  have hc : c ∈ ofNat n := by
    rw [hn]
    exact List.mem_cons_self
  exact ⟨c, digits, hn, isDigit_of_mem_ofNat hc⟩

/-- The first character of a written integer is a digit or a minus sign. -/
lemma exists_ofInt_eq_cons (n : Int) :
    ∃ c rest, ofInt n = c :: rest ∧ (c = '-' ∨ c.isDigit = true) := by
  cases n with
  | ofNat n =>
    obtain ⟨c, digits, hn, hc⟩ := exists_ofNat_eq_cons n
    exact ⟨c, digits, hn, .inr hc⟩
  | negSucc n => exact ⟨'-', ofNat (n + 1), rfl, .inl rfl⟩

/-- The characters of a written integer are digits, and perhaps a minus sign. -/
lemma isDigit_or_of_mem_ofInt {n : Int} {c : Char} (h : c ∈ ofInt n) :
    c.isDigit = true ∨ c = '-' := by
  cases n with
  | ofNat n => exact .inl (isDigit_of_mem_ofNat h)
  | negSucc n =>
    rcases List.mem_cons.1 h with rfl | h
    · exact .inr rfl
    · exact .inl (isDigit_of_mem_ofNat h)

/-- No two natural numbers are written alike. -/
lemma ofNat_injective : Function.Injective ofNat := by
  intro m n h
  calc
    m = Nat.ofDigitChars 10 (ofNat m) 0 := Nat.ofDigitChars_ten_toDigits.symm
    _ = Nat.ofDigitChars 10 (ofNat n) 0 := by rw [h]
    _ = n := Nat.ofDigitChars_ten_toDigits

/-! ## In front of other texts -/

/-- The digits of a number end where a text follows that begins with no digit. -/
lemma takeWhile_isDigit_ofNat_append (n : Nat) {t : Text} (ht : ∀ c ∈ t.head?, c.isDigit = false) :
    (ofNat n ++ t).takeWhile Char.isDigit = ofNat n := by
  rw [List.takeWhile_append_of_pos fun c => isDigit_of_mem_ofNat]
  cases t with
  | nil => simp
  | cons c t => simp [ht c rfl]

/-- A natural number is read back where no digit follows it. -/
lemma eq_of_ofNat_append {m n : Nat} {t u : Text} (ht : ∀ c ∈ t.head?, c.isDigit = false)
    (hu : ∀ c ∈ u.head?, c.isDigit = false) (h : ofNat m ++ t = ofNat n ++ u) : m = n ∧ t = u := by
  have hdigits : ofNat m = ofNat n := by
    rw [← takeWhile_isDigit_ofNat_append m ht, h, takeWhile_isDigit_ofNat_append n hu]
  rw [hdigits, List.append_cancel_left_eq] at h
  exact ⟨ofNat_injective hdigits, h⟩

/-- No two integers are written alike, also in front of texts that begin with no digit. -/
lemma eq_of_ofInt_append {m n : Int} {t u : Text} (ht : ∀ c ∈ t.head?, c.isDigit = false)
    (hu : ∀ c ∈ u.head?, c.isDigit = false) (h : ofInt m ++ t = ofInt n ++ u) : m = n ∧ t = u := by
  have hsign : ∀ (k : Nat) (x y : Text), ofNat k ++ x ≠ '-' :: y := by
    intro k x y heq
    obtain ⟨c, digits, hk, hc⟩ := exists_ofNat_eq_cons k
    rw [hk] at heq
    rw [(List.cons.inj heq).1] at hc
    exact absurd hc (by decide)
  cases m with
  | ofNat m =>
    cases n with
    | ofNat n =>
      obtain ⟨rfl, rfl⟩ := eq_of_ofNat_append ht hu h
      exact ⟨rfl, rfl⟩
    | negSucc n => exact absurd h (hsign m t _)
  | negSucc m =>
    cases n with
    | ofNat n => exact absurd h.symm (hsign n u _)
    | negSucc n =>
      obtain ⟨hmn, rfl⟩ := eq_of_ofNat_append ht hu (List.cons.inj h).2
      exact ⟨by omega, rfl⟩

end Text

end ChartValues
