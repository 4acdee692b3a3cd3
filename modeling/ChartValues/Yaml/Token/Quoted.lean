import ChartValues.Yaml.Token.Folding

set_option autoImplicit false

/-!
# Quoted scalars

A scalar between single quotes holds every character as it is, a quote written twice. Between
double quotes a backslash begins an escape, and one at the end of a line joins it to the next
without a space. Line breaks are folded in both, and a document marker at the beginning of a line
is refused.

## Main definitions

* `Yaml.singleQuoted?` — the scalar after an opening single quote.
* `Yaml.doubleQuoted?` — the scalar after an opening double quote.
-/

namespace ChartValues

namespace Yaml

/-! ## Single quotes -/

/-- Reads on after the content `done`, given in reverse, and a gap. -/
def singleQuotedAfter (done : Text) (gap : Gap) (m : Mark) : Text → Option (Text × Cursor)
  | [] => none
  | c :: rest =>
    if isSpace c then singleQuotedAfter done (gap.addBlank c) (m.next c) rest
    else if isBreak c then
      if beginsMarker rest then none
      else singleQuotedAfter done (gap.addBreak c) (m.next c) rest
    else
      let done := gap.text.reverse ++ done
      if c = '\'' then
        match rest with
        | '\'' :: rest => singleQuotedAfter ('\'' :: done) .none ((m.next c).next c) rest
        | rest => some (done.reverse, ⟨m.next c, rest⟩)
      else singleQuotedAfter (c :: done) .none (m.next c) rest

/-- The scalar after an opening single quote. -/
def singleQuoted? (c : Cursor) : Option (Text × Cursor) :=
  singleQuotedAfter [] .none c.mark c.rest

/-! ## Double quotes -/

/-- The character that an escape of one letter stands for. -/
def escaped? (c : Char) : Option Char :=
  match c with
  | '0' => some '\x00'
  | 'a' => some '\x07'
  | 'b' => some '\x08'
  | 't' => some '\t'
  | '\t' => some '\t'
  | 'n' => some '\n'
  | 'v' => some '\x0b'
  | 'f' => some '\x0c'
  | 'r' => some '\r'
  | 'e' => some '\x1b'
  | ' ' => some ' '
  | '"' => some '"'
  | '/' => some '/'
  | '\\' => some '\\'
  | 'N' => some '\u0085'
  | '_' => some '\u00a0'
  | 'L' => some '\u2028'
  | 'P' => some '\u2029'
  | _ => none

/-- The number of hexadecimal digits after an escape letter that announces a code point. -/
def codeLength? (c : Char) : Option Nat :=
  match c with
  | 'x' => some 2
  | 'u' => some 4
  | 'U' => some 8
  | _ => none

/-- The character with the given code point, if there is one. -/
def charOfCode? (n : Nat) : Option Char :=
  if n.isValidChar then some (Char.ofNat n) else none

/-- Reads on after the content `done`, given in reverse, and a gap. If `code` holds a number of
digits and a value, that many digits of a code point are still to be read after that value. -/
def doubleQuotedAfter (done : Text) (gap : Gap) (code : Option (Nat × Nat)) (m : Mark) :
    Text → Option (Text × Cursor)
  | [] => none
  | c :: rest =>
    match code with
    | some (left, value) =>
      match hexValue? c with
      | none => none
      | some digit =>
        if left ≤ 1 then
          match charOfCode? (16 * value + digit) with
          | none => none
          | some d => doubleQuotedAfter (d :: done) .none none (m.next c) rest
        else doubleQuotedAfter done .none (some (left - 1, 16 * value + digit)) (m.next c) rest
    | none =>
      if isSpace c then doubleQuotedAfter done (gap.addBlank c) none (m.next c) rest
      else if isBreak c then
        if beginsMarker rest then none
        else doubleQuotedAfter done (gap.addBreak c) none (m.next c) rest
      else
        let done := gap.text.reverse ++ done
        if c = '"' then some (done.reverse, ⟨m.next c, rest⟩)
        else if c = '\\' then
          match rest with
          | [] => none
          | d :: rest =>
            let m := (m.next c).next d
            if isBreak d then
              if beginsMarker rest then none
              else doubleQuotedAfter done (.breaks none []) none m rest
            else
              match escaped? d, codeLength? d with
              | some e, _ => doubleQuotedAfter (e :: done) .none none m rest
              | none, some n => doubleQuotedAfter done .none (some (n, 0)) m rest
              | none, none => none
        else doubleQuotedAfter (c :: done) .none none (m.next c) rest

/-- The scalar after an opening double quote. -/
def doubleQuoted? (c : Cursor) : Option (Text × Cursor) :=
  doubleQuotedAfter [] .none none c.mark c.rest

end Yaml

end ChartValues
