import ChartValues.Yaml.Token

set_option autoImplicit false

/-!
# Names: anchors, tags and directives

The tokens that are read from one line: anchors and aliases, tags, which are a handle and a suffix,
and the two directives, which give the version of the document and the meaning of a handle.

## Main definitions

* `Yaml.anchorName?` — the name after an anchor or alias indicator.
* `Yaml.tag?` — the tag after its indicator.
* `Yaml.directive?` — the directive after its indicator.
-/

namespace ChartValues

namespace Yaml

/-! ## Anchors -/

/-- Whether a character may follow the name of an anchor. -/
def mayFollowAnchor : Text → Bool
  | [] => true
  | c :: _ => isSpace c || isBreak c || "?:,]\x7d%@\x60".toList.elem c

/-- The name after an anchor or alias indicator, and what follows it. -/
def anchorName? (t : Text) : Option (Text × Text) :=
  let name := t.takeWhile isWordChar
  let rest := t.dropWhile isWordChar
  if name = [] ∨ !mayFollowAnchor rest then none else some (name, rest)

/-! ## Tags -/

/-- The characters that stand for themselves in a tag. -/
def isTagChar (verbatim : Bool) (c : Char) : Bool :=
  isWordChar c || ";/?:@&=+$.!~*'()".toList.elem c || (verbatim && ",[]".toList.elem c)

/-- The number of bytes that a first byte of an encoded character announces. -/
def encodedLength? (byte : Nat) : Option Nat :=
  if byte < 0x80 then some 1
  else if byte < 0xC0 then none
  else if byte < 0xE0 then some 2
  else if byte < 0xF0 then some 3
  else if byte < 0xF8 then some 4
  else none

/-- The bytes that the characters of a tag spell, and what follows them. Escapes spell encoded
characters byte by byte; `left` bytes of the present one are still to come. -/
def tagBytes? (verbatim : Bool) (left : Nat) : Text → Option (List UInt8 × Text)
  | [] => if left = 0 then some ([], []) else none
  | c :: rest =>
    if c = '%' then
      match rest with
      | h :: l :: rest =>
        match hexValue? h, hexValue? l with
        | some h, some l =>
          let byte := 16 * h + l
          let next? :=
            if left = 0 then (encodedLength? byte).map (· - 1)
            else if 0x80 ≤ byte ∧ byte < 0xC0 then some (left - 1) else none
          match next? with
          | none => none
          | some left =>
            (tagBytes? verbatim left rest).map fun r => (UInt8.ofNat byte :: r.1, r.2)
        | _, _ => none
      | _ => none
    else if 0 < left then none
    else if isTagChar verbatim c then
      (tagBytes? verbatim 0 rest).map fun r => (UInt8.ofNat c.toNat :: r.1, r.2)
    else some ([], c :: rest)

/-- The name that bytes spell, which a zero byte ends. -/
def untilZero (bytes : List UInt8) : List UInt8 := bytes.takeWhile (· != 0)

/-- What stands between angle brackets after the tag indicator: the whole tag. -/
def verbatimTag? (t : Text) : Option (Token × Text) := do
  let (suffix, rest) ← tagBytes? true 0 t
  let rest ← Text.after? rest ['>']
  if suffix = [] then none else some (.tag [] (untilZero suffix), rest)

/-- A tag with a named handle: the indicator, a name, the indicator again, and a suffix. Without
the second indicator the handle is the indicator alone, and the name begins the suffix. The
indicator without any suffix is a tag of its own. -/
def shortTag? (t : Text) : Option (Token × Text) := do
  let name := t.takeWhile isWordChar
  let rest := t.dropWhile isWordChar
  match Text.after? rest ['!'] with
  | some rest => do
    let (suffix, rest) ← tagBytes? false 0 rest
    if suffix = [] then none else some (.tag ('!' :: name ++ ['!']) (untilZero suffix), rest)
  | none => do
    let (suffix, rest) ← tagBytes? false 0 rest
    match untilZero (asciiBytes name ++ suffix) with
    | [] => some (.tag [] (asciiBytes ['!']), rest)
    | suffix => some (.tag ['!'] suffix, rest)

/-- The tag after its indicator. A word ends there; in a flow collection a comma may follow. -/
def tag? (inFlow : Bool) (t : Text) : Option (Token × Text) := do
  let (token, rest) ←
    match Text.after? t ['<'] with
    | some t => verbatimTag? t
    | none => shortTag? t
  if endsWord rest || (inFlow && rest.head? == some ',') then some (token, rest) else none

/-! ## Directives -/

/-- A number of at most nine digits, and what follows it. -/
def versionNumber? (t : Text) : Option (Nat × Text) :=
  let digits := t.takeWhile Char.isDigit
  if digits = [] ∨ 9 < digits.length then none
  else some (digits.foldl (fun n c => 10 * n + (c.toNat - '0'.toNat)) 0, t.dropWhile Char.isDigit)

/-- The rest of a version directive. -/
def versionDirective? (t : Text) : Option (Token × Text) := do
  let (major, rest) ← versionNumber? (t.dropWhile isSpace)
  let rest ← Text.after? rest ['.']
  let (minor, rest) ← versionNumber? rest
  return (.version major minor, rest)

/-- The handle of a tag directive, and what follows it. -/
def handle? (t : Text) : Option (Text × Text) := do
  let t ← Text.after? t ['!']
  let name := t.takeWhile isWordChar
  match Text.after? (t.dropWhile isWordChar) ['!'] with
  | some rest => some ('!' :: name ++ ['!'], rest)
  | none => if name = [] then some (['!'], t) else none

/-- The rest of a tag directive. -/
def tagDirective? (t : Text) : Option (Token × Text) := do
  let (handle, rest) ← handle? (t.dropWhile isSpace)
  if !rest.head?.any isSpace then none
  let (bytes, rest) ← tagBytes? true 0 (rest.dropWhile isSpace)
  if bytes = [] ∨ !endsWord rest then none else some (.tagHandle handle (untilZero bytes), rest)

/-- The directive after its indicator. -/
def directive? (t : Text) : Option (Token × Text) :=
  let name := t.takeWhile isWordChar
  let rest := t.dropWhile isWordChar
  if !endsWord rest then none
  else if name = "YAML".toList then versionDirective? rest
  else if name = "TAG".toList then tagDirective? rest
  else none

end Yaml

end ChartValues
