import ChartValues.Text.Basic

set_option autoImplicit false

/-!
# Binary floating-point numbers

The numbers of the 64-bit binary format as exact values: a finite one is a sign, a mantissa and a
power of two. Decimal fractions are rounded to them by exact arithmetic on natural numbers, to the
nearest number and halfway cases to the even mantissa.

## Main definitions

* `Binary64` — a number of the format, an infinity or the one not-a-number.
* `Binary64.ofDecimal` — the number nearest to `digits * 10 ^ exponent`.
* `Binary64.same` — equality of numbers, where the two zeros agree and not-a-number is one value.

## Main results

* `roundHalfEven_near` — a rounded quotient is at most half a unit away.
-/

namespace ChartValues

/-- A number of the 64-bit binary format. A finite number is `± mantissa * 2 ^ exponent` with the
mantissa below `2 ^ 53` and the exponent as small as that and `-1074 ≤ exponent` allow. -/
inductive Binary64 where
  | nan
  | infinite (negative : Bool)
  | finite (negative : Bool) (mantissa : Nat) (exponent : Int)
deriving DecidableEq, Repr

/-- The natural number nearest to `n / d`, the even one halfway between two. -/
def roundHalfEven (n d : Nat) : Nat :=
  let k := n / d
  let r := n % d
  if 2 * r < d then k else if d < 2 * r then k + 1 else k + k % 2

/-- A rounded quotient is at most half a unit away. -/
theorem roundHalfEven_near (n d : Nat) (hd : 0 < d) :
    2 * n ≤ 2 * (roundHalfEven n d * d) + d ∧ 2 * (roundHalfEven n d * d) ≤ 2 * n + d := by
  have h := Nat.div_add_mod n d
  have hr := Nat.mod_lt n hd
  rw [Nat.mul_comm d] at h
  have hs : (n / d + 1) * d = n / d * d + d := by rw [Nat.add_mul, Nat.one_mul]
  simp only [roundHalfEven]
  split
  · omega
  · split
    · omega
    · rcases Nat.mod_two_eq_zero_or_one (n / d) with h2 | h2
      · rw [h2, Nat.add_zero]
        omega
      · rw [h2]
        omega

namespace Binary64

/-- The zero of the given sign. -/
def zero (negative : Bool) : Binary64 := .finite negative 0 (-1074)

/-- The number nearest to `n / d`, for positive `n` and `d`; above the largest number, infinity. -/
def ofRatio (negative : Bool) (n d : Nat) : Binary64 :=
  let scaled (q : Int) : Nat × Nat := (n * Nat.pow 2 (-q).toNat, d * Nat.pow 2 q.toNat)
  let low : Int := max (((Nat.log2 n : Nat) : Int) - (Nat.log2 d : Nat) - 53) (-1074)
  let q := if Nat.pow 2 53 ≤ (scaled low).1 / (scaled low).2 then low + 1 else low
  let m := roundHalfEven (scaled q).1 (scaled q).2
  let number := if m = Nat.pow 2 53 then (Nat.pow 2 52, q + 1) else (m, q)
  if 971 < number.2 then .infinite negative else .finite negative number.1 number.2

/-- The number nearest to `± digits * 10 ^ exponent`. Far outside the range of the format the
answer is known without the power of ten. -/
def ofDecimal (negative : Bool) (digits : Nat) (exponent : Int) : Binary64 :=
  let places : Int := ((Text.ofNat digits).length : Int) + exponent
  if digits = 0 then zero negative
  else if 310 < places then .infinite negative
  else if places < -330 then zero negative
  else ofRatio negative (digits * Nat.pow 10 exponent.toNat) (Nat.pow 10 (-exponent).toNat)

/-- Whether the number is finite. -/
def isFinite : Binary64 → Bool
  | .finite _ _ _ => true
  | _ => false

/-- Equality of numbers: the two zeros agree, and not-a-number is one value. -/
def same : Binary64 → Binary64 → Bool
  | .finite s m q, .finite s' m' q' => m == m' && q == q' && (s == s' || m == 0)
  | x, y => x == y

/-! ## Examples -/

example : ofDecimal false 1 0 = .finite false (2 ^ 52) (-52) := by decide +kernel
example : ofDecimal true 5 (-324) = .finite true 1 (-1074) := by decide +kernel
example : ofDecimal false 2 (-324) = zero false := by decide +kernel
example : ofDecimal false 17976931348623157 292 = .finite false (2 ^ 53 - 1) 971 := by
  decide +kernel
example : ofDecimal false 17976931348623159 292 = .infinite false := by decide +kernel

end Binary64

end ChartValues
