import ChartValues.Line.Comment

set_option autoImplicit false

/-!
# Key lines

A key line holds a name before its first colon. The name is found by a pattern: some of the blanks
that the line begins with, then at least one character that is no colon, then a colon. The pattern
takes as many blanks as it can, and gives blanks back where nothing else is left for the name.

## Main definitions

* `KeyLine` — the indentation and the key of a line, and whether a value follows.
* `KeyLine.nameColon?` — a name, and what follows its colon.
* `KeyLine.match?` — the blanks before a name, the name, and what follows its colon.
* `KeyLine.afterAnchor` — what follows the anchor of a value.
* `KeyLine.parse?` — reads a line as a key line.
-/

namespace ChartValues

/-- A line that defines a key. -/
structure KeyLine where
  /-- The number of bytes of the blanks before the key. -/
  indent : Nat
  /-- The key, without blanks around it. -/
  key : Text
  /-- Whether anything but an anchor or a comment follows the colon. -/
  hasInlineValue : Bool
deriving DecidableEq, Repr

namespace KeyLine

/-! ## The pattern -/

/-- The name before the first colon, if it is not empty, and what follows the colon. -/
def nameColon? (t : Text) : Option (Text × Text) :=
  match t.takeWhile (· != ':'), t.dropWhile (· != ':') with
  | c :: name, _ :: rest => some (c :: name, rest)
  | _, _ => none

/-- The blanks before the name, the name, and what follows its colon. The first blank is
passed over if there is a match after it; otherwise the name begins with it. -/
def match? : Text → Option (Text × Text × Text)
  | [] => none
  | c :: t =>
    match if Text.isBlank c then match? t else none with
    | some (blanks, name, rest) => some (c :: blanks, name, rest)
    | none => (nameColon? (c :: t)).map fun found => ([], found.1, found.2)

/-! ## Reading -/

/-- What follows the anchor that a value begins with, or the value if it has no anchor. -/
def afterAnchor (t : Text) : Text :=
  if t.startsWith ['&'] then Text.trimStart (t.dropWhile fun c => !Text.isBlank c) else t

/-- Whether the line may define a key: it is no comment, separates no documents, and has a
colon. -/
def mayDefine (line : Text) : Bool :=
  !line.trim.startsWith ['#'] && !line.trim.startsWith ['-', '-', '-'] && line.trim.contains [':']

/-- Reads a line as a key line. A key that is empty or begins with a quote is none. -/
def parse? (line : Text) : Option KeyLine := do
  guard (mayDefine line)
  let (blanks, name, rest) ← match? line
  let key := name.trim
  guard (!key.isEmpty && !key.startsWith ['"'] && !key.startsWith ['\x27'])
  let value := afterAnchor rest.trim
  return {
    indent := blanks.byteLength
    key
    hasInlineValue := !value.isEmpty && !value.startsWith ['#'] }

end KeyLine

end ChartValues
