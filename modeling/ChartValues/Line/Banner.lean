import ChartValues.Line.Comment

set_option autoImplicit false

/-!
# Banners

A banner names a section of the file: below the line that opens it, the first comment that is
neither bare nor a rule is the title. The closing line looks like the opening one, so that it opens
a look-ahead of its own.

## Main definitions

* `Line.Outlook` — the title below a banner line, and how many lines lie before it.
* `Line.outlook` — looks for a title in the lines below a banner line.

## Main results

* `Line.passed_outlook_le` — the look-ahead does not run past the end of the file.
-/

namespace ChartValues

namespace Line

/-- What is found below a banner line. -/
structure Outlook where
  /-- The title, if the comments below have one. -/
  title? : Option Text
  /-- The number of bare comments and rules that were passed. -/
  passed : Nat
deriving DecidableEq, Repr

/-- Whether the line is a comment that says something other than a rule. -/
def isTitle (line : Text) : Bool :=
  isComment line && !(content line).startsWith rule && !(content line).isEmpty

/-- Looks for a title in the lines below a banner line. The search ends at the title, or at the
first line that is no comment. -/
def outlook : List Text → Outlook
  | [] => ⟨none, 0⟩
  | line :: below =>
    if !isComment line then ⟨none, 0⟩
    else if isTitle line then ⟨some (content line), 0⟩
    else
      let farther := outlook below
      ⟨farther.title?, farther.passed + 1⟩

/-- The look-ahead does not run past the end of the file. -/
theorem passed_outlook_le (below : List Text) : (outlook below).passed ≤ below.length := by
  induction below with
  | nil => simp [outlook]
  | cons line below ih =>
    simp only [outlook]
    split
    · simp
    · split <;> simp [ih]

end Line

end ChartValues
