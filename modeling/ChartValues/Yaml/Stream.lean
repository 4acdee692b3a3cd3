import ChartValues.Text.Basic

set_option autoImplicit false

/-!
# Character streams

What the tokens of a YAML document are read from: a text of admissible characters in which every
line break but the two Unicode separators is a line feed, together with the place that has been
reached. Only its line and how far it is into the line matter to the grammar: in characters where
indentation is compared, in bytes where the length of a key is limited.

## Main definitions

* `Yaml.isAdmissible` — the characters that a document may hold.
* `Yaml.readable` — the part of a text that can be read.
* `Yaml.unifyBreaks` — a text in which line breaks are line feeds.
* `Yaml.Mark` — a line, a column and a number of bytes.
* `Yaml.Cursor` — a place and the characters from there on.
-/

namespace ChartValues

namespace Yaml

/-! ## Characters -/

/-- The characters that a document may hold: the printable ones, tabs and line breaks. -/
def isAdmissible (c : Char) : Bool :=
  let n := c.toNat
  n == 0x09 || n == 0x0A || n == 0x0D || (0x20 ≤ n && n ≤ 0x7E) || n == 0x85
    || (0xA0 ≤ n && n ≤ 0xFFFD) || 0x10000 ≤ n

/-- Spaces and tabs. -/
def isSpace (c : Char) : Bool := c == ' ' || c == '\t'

/-- Line breaks, once they are unified. -/
def isBreak (c : Char) : Bool := c == '\n' || c == '\u2028' || c == '\u2029'

/-- The characters of names: ASCII letters and digits, the low line and the hyphen. -/
def isWordChar (c : Char) : Bool := c.isAlphanum || c == '_' || c == '-'

/-- The value of a hexadecimal digit. -/
def hexValue? (c : Char) : Option Nat :=
  let n := c.toNat
  if 0x30 ≤ n && n ≤ 0x39 then some (n - 0x30)
  else if 0x41 ≤ n && n ≤ 0x46 then some (n - 0x37)
  else if 0x61 ≤ n && n ≤ 0x66 then some (n - 0x57)
  else none

/-- A text in which line breaks are line feeds. The two Unicode separators keep their identity. -/
def unifyBreaks : Text → Text
  | [] => []
  | c :: t =>
    if c = '\r' then
      if t.head? = some '\n' then unifyBreaks t else '\n' :: unifyBreaks t
    else (if c = '\u0085' then '\n' else c) :: unifyBreaks t

/-! ## Pieces -/

/-- How many bytes are read at once. -/
def pieceSize : Nat := 16384

/-- The part that can be read of a piece and a text after it, and whether it is all of them. The
piece is given in reverse, and has room for `left` more bytes. -/
def readableFrom (piece : Text) (left : Nat) : Text → Text × Bool
  | [] => (piece.reverse, true)
  | c :: rest =>
    if left < c.utf8Size then
      let (part, whole) :=
        if isAdmissible c then readableFrom [c] (pieceSize - c.utf8Size) rest else ([], false)
      (piece.reverse ++ part, whole)
    else if isAdmissible c then readableFrom (c :: piece) (left - c.utf8Size) rest
    else ([], false)

/-- The part of a text that can be read, and whether it is all of it. A text is read in pieces of
whole characters. A piece with a character that no document may hold cannot be read, nor can what
comes after it. -/
def readable (t : Text) : Text × Bool := readableFrom [] pieceSize t

/-! ## Lookahead -/

/-- Whether a text ends here, or goes on with a space, a tab or a line break. -/
def endsWord : Text → Bool
  | [] => true
  | c :: _ => isSpace c || isBreak c

/-- Whether a text begins with three hyphens or three dots that stand alone. -/
def beginsMarker : Text → Bool
  | a :: b :: c :: t => a == b && b == c && (a == '-' || a == '.') && endsWord t
  | _ => false

/-! ## Places -/

/-- A place in a text, counted from zero. -/
structure Mark where
  line : Nat
  /-- How many characters of the line stand before the place. -/
  column : Nat
  /-- How many bytes of UTF-8 these characters take. -/
  offset : Nat
deriving DecidableEq, Repr

/-- The beginning of a line. -/
def Mark.ofLine (line : Nat) : Mark := ⟨line, 0, 0⟩

/-- The place after a character. -/
def Mark.next (m : Mark) (c : Char) : Mark :=
  if isBreak c then .ofLine (m.line + 1) else ⟨m.line, m.column + 1, m.offset + c.utf8Size⟩

/-- A place and the characters from there on. -/
structure Cursor where
  mark : Mark
  rest : Text

namespace Cursor

/-- The start of a text. -/
def start (t : Text) : Cursor := ⟨.ofLine 0, unifyBreaks t⟩

/-- The place after the next character. -/
def advance (c : Cursor) : Cursor :=
  match c.rest with
  | [] => c
  | x :: rest => ⟨c.mark.next x, rest⟩

/-- The place after a number of characters. -/
def advanceBy (c : Cursor) : Nat → Cursor
  | 0 => c
  | n + 1 => c.advance.advanceBy n

/-- The place where only `rest` is left. -/
def advanceTo (c : Cursor) (rest : Text) : Cursor := c.advanceBy (c.rest.length - rest.length)

end Cursor

end Yaml

end ChartValues
