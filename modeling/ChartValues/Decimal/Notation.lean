import ChartValues.Decimal.Shortest

set_option autoImplicit false

/-!
# Notation of floating-point numbers

How a floating-point number is written: the digits of its shortest decimal, positionally where the
exponent is small and with a power of ten elsewhere.

## Main definitions

* `Decimal.Layout` — the choices of a notation.
* `Decimal.write` — a decimal in a notation.
* `Binary64.write` — a floating-point number as values files write it.
-/

namespace ChartValues

namespace Decimal

/-- The choices of a notation. The magnitude of a decimal is the number `e` with
`10 ^ (e - 1) ≤ x < 10 ^ e`; it is written positionally if `e` lies between two bounds. -/
structure Layout where
  /-- The least magnitude that is written positionally. -/
  least : Int
  /-- The greatest magnitude that is written positionally. -/
  greatest : Int
  /-- What follows the digits of a positional number that has no fraction. -/
  wholeEnding : Text
  /-- What stands before the power of ten. -/
  power : Text

/-- Values files write numbers from `0.00001` up to sixteen digits positionally, a whole number
with `.0`, and others as in `1e-6`. -/
def Layout.valuesFile : Layout := ⟨-4, 16, ".0".toList, "e".toList⟩

/-- A positive decimal in a notation. -/
def write (layout : Layout) (x : Decimal) : Text :=
  let digits := Text.ofNat x.digits
  let magnitude := (digits.length : Int) + x.exponent
  if magnitude < layout.least ∨ layout.greatest < magnitude then
    (match digits with
      | [] => []
      | [c] => [c]
      | c :: rest => c :: '.' :: rest) ++ layout.power ++ Text.ofInt (magnitude - 1)
  else if 0 ≤ x.exponent then
    digits ++ List.replicate x.exponent.toNat '0' ++ layout.wholeEnding
  else if 0 < magnitude then
    digits.take magnitude.toNat ++ '.' :: digits.drop magnitude.toNat
  else
    '0' :: '.' :: List.replicate (-magnitude).toNat '0' ++ digits

end Decimal

namespace Binary64

/-- A floating-point number as values files write it. -/
def write : Binary64 → Text
  | .nan => ".nan".toList
  | .infinite negative => (if negative then ['-'] else []) ++ ".inf".toList
  | .finite negative m q =>
    (if negative then ['-'] else []) ++
      (if m = 0 then "0.0".toList else (shortest m q).write .valuesFile)

/-! ## Examples -/

example : (ofDecimal false 1 16).write = "1e16".toList := by decide +kernel
example : (ofDecimal false 1 15).write = "1000000000000000.0".toList := by decide +kernel
example : (ofDecimal true 1234 (-2)).write = "-12.34".toList := by decide +kernel
example : (ofDecimal false 1 (-5)).write = "0.00001".toList := by decide +kernel
example : (ofDecimal false 15 (-7)).write = "1.5e-6".toList := by decide +kernel

end Binary64

end ChartValues
