import ChartValues.Yaml.Stream

set_option autoImplicit false

/-!
# Block scalars

A scalar that is written as an indented block of lines, either literally or folded. Its header may
fix the indentation and says what happens to the line breaks at its end.

## Main definitions

* `Yaml.BlockHeader` — what the header of a block scalar says.
* `Yaml.blockScalar?` — the scalar after its indicator.
-/

namespace ChartValues

namespace Yaml

/-! ## The header -/

/-- What becomes of the line breaks at the end of a block scalar. -/
inductive Chomping where
  | strip
  | clip
  | keep
deriving DecidableEq, Repr

/-- What the header of a block scalar says. -/
structure BlockHeader where
  chomping : Chomping
  indentation : Option Nat

/-- The chomping that a sign stands for. -/
def chomping? (c : Char) : Option Chomping :=
  if c = '+' then some .keep else if c = '-' then some .strip else none

/-- The indentation that a digit stands for, which may not be zero. -/
def indentation? (c : Char) : Option Nat :=
  if c.isDigit && c != '0' then some (c.toNat - '0'.toNat) else none

/-- A sign and a digit, in either order and both optional. What is not recognised stays. -/
def blockHeader : Text → BlockHeader × Text
  | [] => (⟨.clip, none⟩, [])
  | c :: t =>
    match chomping? c, indentation? c, t.head?.bind chomping?, t.head?.bind indentation? with
    | some s, _, _, some n => (⟨s, some n⟩, t.tail)
    | some s, _, _, none => (⟨s, none⟩, t)
    | none, some n, some s, _ => (⟨s, some n⟩, t.tail)
    | none, some n, none, _ => (⟨.clip, some n⟩, t)
    | none, none, _, _ => (⟨.clip, none⟩, c :: t)

/-- What is left of a line after blanks and a comment, if nothing else stands there. -/
def lineTail? (t : Text) : Option Text :=
  match t.dropWhile isSpace with
  | [] => some []
  | c :: rest =>
    if c = '#' then some (rest.dropWhile fun d => !isBreak d)
    else if isBreak c then some (c :: rest)
    else none

/-! ## The lines -/

/-- Reads the empty lines before the first line of a scalar whose indentation is not known yet.
The answer holds the deepest column that was reached, the line breaks, newest first, and the place
of the first character that is not a space. A tab there is refused. -/
def emptyLines? (deepest : Nat) (breaks : Text) (m : Mark) : Text → Option (Nat × Text × Cursor)
  | [] => some (max deepest m.column, breaks, ⟨m, []⟩)
  | c :: rest =>
    if c = ' ' then emptyLines? deepest breaks (m.next c) rest
    else if c = '\t' then none
    else if isBreak c then emptyLines? (max deepest m.column) (c :: breaks) (m.next c) rest
    else some (max deepest m.column, breaks, ⟨m, c :: rest⟩)

/-- The part of a block scalar that has been read: the content in reverse, the break that ended
the last line, the breaks of the empty lines since then, newest first, and whether the last line
began with a blank. -/
structure BlockLines where
  content : Text
  ending : Text
  empty : Text
  afterBlank : Bool

/-- The content, given in reverse, with the break before a new line. A folded scalar replaces a
line feed between two lines by a space, and drops it if empty lines follow; lines that begin with
a blank stay apart. -/
def BlockLines.joined (literal blank : Bool) (s : BlockLines) : Text :=
  s.empty ++
    ((if !literal && s.ending == ['\n'] && !s.afterBlank && !blank then
        (if s.empty = [] then [' '] else [])
      else s.ending) ++ s.content)

/-- Reads the lines of a block scalar. -/
def blockLines? (literal : Bool) (indent : Nat) (s : BlockLines) (inLine : Bool) (m : Mark) :
    Text → Option (BlockLines × Cursor)
  | [] => some (s, ⟨m, []⟩)
  | c :: rest =>
    if inLine then
      if isBreak c then
        blockLines? literal indent ⟨s.content, [c], [], s.afterBlank⟩ false (m.next c) rest
      else
        blockLines? literal indent ⟨c :: s.content, [], [], s.afterBlank⟩ true (m.next c) rest
    else if m.column < indent ∧ c = ' ' then blockLines? literal indent s false (m.next c) rest
    else if m.column < indent ∧ c = '\t' then none
    else if isBreak c then
      blockLines? literal indent ⟨s.content, s.ending, c :: s.empty, s.afterBlank⟩ false
        (m.next c) rest
    else if m.column = indent then
      blockLines? literal indent ⟨c :: s.joined literal (isSpace c), [], [], isSpace c⟩ true
        (m.next c) rest
    else some (s, ⟨m, c :: rest⟩)

/-- The content of a block scalar with the line breaks at its end. -/
def BlockLines.text (chomping : Chomping) (s : BlockLines) : Text :=
  match chomping with
  | .strip => s.content.reverse
  | .clip => (s.ending ++ s.content).reverse
  | .keep => (s.empty ++ (s.ending ++ s.content)).reverse

/-- The scalar after its indicator, inside a block whose content begins at column `parent` or
deeper. Without an indentation in the header, the first line that is not empty decides. -/
def blockScalar? (literal : Bool) (outer : Option Nat) (c : Cursor) : Option (Text × Cursor) := do
  let (header, rest) := blockHeader c.rest
  let c := (c.advanceTo (← lineTail? rest)).advance
  let (lines, c) ←
    match header.indentation with
    | some n => blockLines? literal (outer.getD 0 + n) ⟨[], [], [], false⟩ false c.mark c.rest
    | none => do
      let (deepest, breaks, c) ← emptyLines? 0 [] c.mark c.rest
      let indent := max deepest (max (outer.elim 0 (· + 1)) 1)
      blockLines? literal indent ⟨[], [], breaks, false⟩ false c.mark c.rest
  return (lines.text header.chomping, c)

end Yaml

end ChartValues
