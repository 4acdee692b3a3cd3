import ChartValues.Line.Key

set_option autoImplicit false

/-!
# Ancestors of a key

Which keys a key stands under is told by indentation alone. Going up from a key line, every key
line that is indented less than all that came before is the next ancestor.

## Main definitions

* `Line.climb` — the ancestors that are met going up from a place.
* `Line.ancestors` — the ancestors of a line of a file, outermost first.

## Main results

* `Line.climb_zero` — nothing stands above a line without indentation.
-/

namespace ChartValues

namespace Line

/-- The ancestors that are met going up from a place, innermost first. Key lines count that are
indented less than the frontier, which then falls to their indentation. The lines above the place
are given from the nearest to the farthest. -/
def climb (frontier : Nat) : List Text → List Text
  | [] => []
  | line :: above =>
    if frontier = 0 then []
    else
      match KeyLine.parse? line with
      | some found =>
        if found.indent < frontier then found.key :: climb found.indent above
        else climb frontier above
      | none => climb frontier above

/-- The ancestors of a line with the given index and indentation, outermost first. -/
def ancestors (lines : List Text) (index indent : Nat) : List Text :=
  (climb indent (lines.take index).reverse).reverse

/-- Nothing stands above a line without indentation. -/
theorem climb_zero (above : List Text) : climb 0 above = [] := by
  cases above <;> simp [climb]

end Line

end ChartValues
