import ChartValues.Decimal.Binary64

set_option autoImplicit false

/-!
# Shortest decimals

The decimal that stands for a binary number: of all decimals that round to the number, one with
the fewest digits, and of those the nearest. The decimals that round to a number form an interval
whose ends are halfway to its neighbours; the ends belong to it if the mantissa is even.

## Main definitions

* `Decimal` — a natural number times a power of ten.
* `Binary64.readsBack` — whether a decimal rounds to a number.
* `Binary64.shortest` — the decimal that stands for a number.
-/

namespace ChartValues

/-- The number `digits * 10 ^ exponent`. -/
structure Decimal where
  digits : Nat
  exponent : Int
deriving DecidableEq, Repr

namespace Binary64

/-! ## The interval of a number -/

/-- The ratio of `a * 10 ^ k` to `2 ^ q`, as numerator and denominator. -/
def inBinaryUnits (a : Nat) (k q : Int) : Nat × Nat :=
  (a * Nat.pow 10 k.toNat * Nat.pow 2 (-q).toNat, Nat.pow 10 (-k).toNat * Nat.pow 2 q.toNat)

/-- Whether the decimal rounds to `m * 2 ^ q`. The ends of the interval are compared in quarters of
the unit `2 ^ q`; below a power of two the neighbour is half as far away. -/
def readsBack (m : Nat) (q : Int) (x : Decimal) : Bool :=
  let low := if m = Nat.pow 2 52 ∧ -1074 < q then 4 * m - 1 else 4 * m - 2
  let high := 4 * m + 2
  let r := inBinaryUnits x.digits x.exponent (q - 2)
  if m % 2 = 0 then decide (low * r.2 ≤ r.1 ∧ r.1 ≤ high * r.2)
  else decide (low * r.2 < r.1 ∧ r.1 < high * r.2)

/-! ## The search -/

/-- Of the two multiples of `10 ^ k` around `m * 2 ^ q`, the nearest that rounds to it; halfway
between two, the even multiple. -/
def nearest? (m : Nat) (q k : Int) : Option Decimal :=
  let unit := inBinaryUnits 1 k q
  let below := m * unit.2 / unit.1
  let twice := 2 * (m * unit.2)
  let middle := (2 * below + 1) * unit.1
  let near := if twice < middle ∨ (twice = middle ∧ below % 2 = 0) then below else below + 1
  let far := if near = below then below + 1 else below
  [⟨near, k⟩, ⟨far, k⟩].find? (readsBack m q)

/-- The decimal that stands for `m * 2 ^ q`, for a positive `m`: grids are tried from the coarsest
to the finest, and seventeen digits are always enough. -/
def shortest (m : Nat) (q : Int) : Decimal :=
  let top := (q + (Nat.log2 m : Nat) + 1) * 30103 / 100000 + 2
  ((List.range 24).findSome? fun i => nearest? m q (top - (i : Nat))).getD
    (if 0 ≤ q then ⟨m * Nat.pow 2 q.toNat, 0⟩ else ⟨m * Nat.pow 5 (-q).toNat, q⟩)

/-! ## Examples -/

example : shortest (2 ^ 52) (-52) = ⟨1, 0⟩ := by decide +kernel
example : shortest 1 (-1074) = ⟨5, -324⟩ := by decide +kernel
example : shortest 5960464477539062 24 = ⟨1, 23⟩ := by decide +kernel

end Binary64

end ChartValues
