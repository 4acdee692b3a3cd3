set_option autoImplicit false

/-!
# Text

A text is the list of its characters, so that statements about lines, keys and cells are
statements about lists. This module holds the vocabulary that the rest of the library speaks:
blank characters, trimming, the first occurrence of a marker, and the length in bytes.

## Main definitions

* `Text` — a list of characters.
* `Text.isBlank` — the characters with the Unicode property `White_Space`.
* `Text.trim` — a text without the blanks at its two ends.
* `Text.cut?` — the parts before and after the first occurrence of a marker.
* `Text.byteLength` — the length of the UTF-8 encoding.

## Main results

* `Text.cut?_eq_some` — what `cut?` returns are two parts with the marker between them.
-/

namespace ChartValues

/-- A text is the list of its characters. -/
abbrev Text := List Char

namespace Text

/-! ## Blanks -/

/-- A character is blank if it has the Unicode property `White_Space`. -/
def isBlank (c : Char) : Bool :=
  let n := c.toNat
  (0x09 ≤ n && n ≤ 0x0D) || n == 0x20 || n == 0x85 || n == 0xA0 || n == 0x1680
    || (0x2000 ≤ n && n ≤ 0x200A) || n == 0x2028 || n == 0x2029 || n == 0x202F || n == 0x205F
    || n == 0x3000

/-- The text without the blanks it begins with. -/
def trimStart (t : Text) : Text := t.dropWhile isBlank

/-- The text without the blanks it ends with. -/
def trimEnd (t : Text) : Text := (t.reverse.dropWhile isBlank).reverse

/-- The text without the blanks at its two ends. -/
def trim (t : Text) : Text := trimEnd (trimStart t)

/-! ## Markers -/

/-- Whether the text begins with the marker. -/
def startsWith (t marker : Text) : Bool := marker.isPrefixOf t

/-- What follows the marker, if the text begins with it. -/
def after? (t marker : Text) : Option Text := marker.isPrefixOf? t

/-- The parts before and after the first occurrence of the marker. -/
def cut? (marker : Text) : Text → Option (Text × Text)
  | [] => (marker.isPrefixOf? []).map fun rest => ([], rest)
  | c :: t =>
    match marker.isPrefixOf? (c :: t) with
    | some rest => some ([], rest)
    | none => (cut? marker t).map fun parts => (c :: parts.1, parts.2)

/-- Whether the marker occurs in the text. -/
def contains (t marker : Text) : Bool := (cut? marker t).isSome

private theorem eq_append_of_isPrefixOf? {marker t rest : Text}
    (h : marker.isPrefixOf? t = some rest) : t = marker ++ rest := by
  induction marker generalizing t with
  | nil => exact Option.some.inj h
  | cons m marker ih =>
    cases t with
    | nil => cases h
    | cons c t =>
      change (if m == c then marker.isPrefixOf? t else none) = some rest at h
      split at h
      · rename_i hc
        simp only [beq_iff_eq] at hc
        simp [ih h, hc]
      · cases h

/-- What `cut?` returns are two parts of the text with the marker between them. -/
theorem cut?_eq_some {marker t before rest : Text} (h : cut? marker t = some (before, rest)) :
    t = before ++ marker ++ rest := by
  induction t generalizing before with
  | nil =>
    simp only [cut?, Option.map_eq_some_iff, Prod.mk.injEq] at h
    obtain ⟨r, hr, rfl, rfl⟩ := h
    simpa using eq_append_of_isPrefixOf? hr
  | cons c t ih =>
    simp only [cut?] at h
    split at h
    · rename_i r hr
      simp only [Option.some.injEq, Prod.mk.injEq] at h
      obtain ⟨rfl, rfl⟩ := h
      simpa using eq_append_of_isPrefixOf? hr
    · simp only [Option.map_eq_some_iff, Prod.mk.injEq] at h
      obtain ⟨⟨b, r⟩, hb, rfl, rfl⟩ := h
      simp [ih hb]

/-! ## Lengths and separators -/

/-- The number of bytes of the UTF-8 encoding. -/
def byteLength : Text → Nat
  | [] => 0
  | c :: t => c.utf8Size + byteLength t

/-- The texts in a row, with the separator between any two neighbours. -/
def joinWith (separator : Text) (parts : List Text) : Text := separator.intercalate parts

/-- The decimal digits of a natural number. -/
def ofNat (n : Nat) : Text := Nat.toDigits 10 n

/-- The decimal digits of an integer, after a minus sign if it is negative. -/
def ofInt : Int → Text
  | .ofNat n => ofNat n
  | .negSucc n => '-' :: ofNat (n + 1)

end Text

end ChartValues
