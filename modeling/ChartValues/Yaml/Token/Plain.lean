import ChartValues.Yaml.Token.Folding

set_option autoImplicit false

/-!
# Plain scalars

A scalar without quotes ends before a comment, before a colon that ends a word, and inside a flow
collection before an indicator; outside of one also at a line that is not indented deeper than the
block that it belongs to.

## Main definitions

* `Yaml.Plain` — a plain scalar that has been read.
* `Yaml.plain?` — the plain scalar at a place.
-/

namespace ChartValues

namespace Yaml

/-- A plain scalar that has been read: its content, the gap that follows it, and the place after
that gap. -/
structure Plain where
  content : Text
  gap : Gap
  cursor : Cursor

/-- The indicators that end a plain scalar inside a flow collection. -/
def isFlowIndicator (c : Char) : Bool :=
  c == ',' || c == '[' || c == ']' || c == '\x7b' || c == '\x7d'

/-- Whether a scalar cannot go on after a gap: the line is not indented deep enough, or a comment
or a document marker begins. -/
def endsAtLine (inFlow : Bool) (indent : Nat) (m : Mark) (t : Text) : Bool :=
  (!inFlow && m.column < indent) || t.head? == some '#' || (m.column == 0 && beginsMarker t)

/-- Whether a character ends a plain scalar, given what follows it. -/
def endsAtChar (inFlow : Bool) (c : Char) (rest : Text) : Bool :=
  (c == ':' && endsWord rest) || (inFlow && isFlowIndicator c)

/-- Inside a flow collection, a colon that ends no word may not stand before an indicator. -/
def isStrayColon (inFlow : Bool) (c : Char) (rest : Text) : Bool :=
  inFlow && c == ':' && rest.head?.any fun d => d == '?' || isFlowIndicator d

/-- Reads on after the content `done`, given in reverse, and a gap. There is no scalar if a tab
stands where indentation is expected, or at a stray colon. -/
def plainAfter (inFlow : Bool) (indent : Nat) (done : Text) (gap : Gap) (m : Mark) :
    Text → Option Plain
  | [] => some ⟨done.reverse, gap, ⟨m, []⟩⟩
  | c :: rest =>
    if isSpace c then
      if c = '\t' ∧ gap.hasBreak ∧ m.column < indent then none
      else plainAfter inFlow indent done (gap.addBlank c) (m.next c) rest
    else if isBreak c then plainAfter inFlow indent done (gap.addBreak c) (m.next c) rest
    else if !gap.isNone && endsAtLine inFlow indent m (c :: rest) then
      some ⟨done.reverse, gap, ⟨m, c :: rest⟩⟩
    else if isStrayColon inFlow c rest then none
    else if endsAtChar inFlow c rest then some ⟨done.reverse, gap, ⟨m, c :: rest⟩⟩
    else plainAfter inFlow indent (c :: (gap.text.reverse ++ done)) .none (m.next c) rest

/-- The plain scalar at a place. -/
def plain? (inFlow : Bool) (indent : Nat) (c : Cursor) : Option Plain :=
  plainAfter inFlow indent [] .none c.mark c.rest

end Yaml

end ChartValues
