import ChartValues.Text.Basic

set_option autoImplicit false

/-!
# Styled text

What is printed is set off by the escape codes of a terminal.

## Main definitions

* `Style` — the styles of a line.
* `Style.apply` — a text in a style.
-/

namespace ChartValues

/-- The styles of a line. -/
inductive Style where
  | header
  | success
  | detail
  | error
deriving DecidableEq, Repr

namespace Style

/-- The escape code with the given number. -/
def escape (code : Nat) : Text := '\x1b' :: '[' :: Text.ofNat code ++ ['m']

/-- The codes that begin a style: bold is 1, dim is 2, and colours start at 30. -/
def codes : Style → List Nat
  | .header => [1, 36]
  | .success => [32]
  | .detail => [2]
  | .error => [1, 31]

/-- A text in a style, which ends after the text. -/
def apply (style : Style) (t : Text) : Text := style.codes.flatMap escape ++ t ++ escape 0

end Style

end ChartValues
