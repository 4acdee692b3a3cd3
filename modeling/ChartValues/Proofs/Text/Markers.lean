import ChartValues.Proofs.Text.Trim

set_option autoImplicit false

/-!
# Occurrences of markers

A text contains a marker if the marker is a part of it in one piece. Where a marker begins with a
character that it does not hold again, it cannot reach over such a character: in two texts with this
character between them, it occurs in one of them, or it begins at the character itself.

## Main results

* `Text.contains_iff_isInfix` — which texts contain a marker.
* `Text.contains_of_cut?_eq_some` — before its first occurrence, a marker does not occur.
* `Text.contains_append_cons` — markers in two texts in a row.
* `Text.length_le_of_append_cons_eq` — where a marker ends a text in which it does not occur.
* `Text.trim_append_cons_append` — two trimmed texts in a row are trimmed.
-/

namespace ChartValues

namespace Text

/-! ## Occurrences -/

/-- A text begins with a marker exactly if something follows the marker. -/
lemma isSome_after? (t marker : Text) : (after? t marker).isSome = startsWith t marker :=
  List.isSome_isPrefixOf?_eq_isPrefixOf marker t

/-- A text does not begin with a marker if nothing follows the marker. -/
lemma startsWith_of_after?_eq_none {t marker : Text} (h : after? t marker = none) :
    startsWith t marker = false := by
  rw [← isSome_after?, h]
  rfl

/-- Nothing follows a marker if the text does not begin with it. -/
lemma after?_of_startsWith_eq_false {t marker : Text} (h : startsWith t marker = false) :
    after? t marker = none := by
  rwa [← Option.isNone_iff_eq_none, ← Option.not_isSome, Bool.not_eq_true', isSome_after?]

/-- A text begins with no more markers than a text that it begins. -/
lemma startsWith_of_prefix {t u marker : Text} (hbegins : t <+: u)
    (h : startsWith u marker = false) : startsWith t marker = false := by
  rw [← Bool.not_eq_true] at h ⊢
  exact fun ht => h (startsWith_mono hbegins ht)

/-- A marker occurs at the front of a text, or after its first character. -/
lemma contains_cons (c : Char) (t marker : Text) :
    contains (c :: t) marker = (startsWith (c :: t) marker || contains t marker) := by
  rw [← isSome_after?]
  unfold contains after?
  rw [cut?]
  cases marker.isPrefixOf? (c :: t) <;> simp

/-- **A text contains a marker exactly if the marker is a part of it in one piece.** -/
lemma contains_iff_isInfix {t marker : Text} : contains t marker = true ↔ marker <:+: t := by
  induction t with
  | nil =>
    have hcut : contains [] marker = startsWith [] marker := by
      rw [← isSome_after?]
      unfold contains after?
      rw [cut?, Option.isSome_map]
    rw [hcut, startsWith, List.isPrefixOf_iff_prefix, List.prefix_nil, List.infix_nil]
  | cons c t ih =>
    rw [contains_cons, Bool.or_eq_true, ih, startsWith, List.isPrefixOf_iff_prefix,
      List.infix_cons_iff]

/-- A part of a text contains no more than the text. -/
lemma contains_of_isInfix {t u marker : Text} (hpart : t <:+: u)
    (h : contains u marker = false) : contains t marker = false := by
  rw [← Bool.not_eq_true] at h ⊢
  exact fun ht => h (contains_iff_isInfix.2 ((contains_iff_isInfix.1 ht).trans hpart))

/-- Before its first occurrence, a marker does not occur. -/
lemma contains_of_cut?_eq_some {t marker before rest : Text} (hne : marker ≠ [])
    (h : cut? marker t = some (before, rest)) : contains before marker = false := by
  have hnil : contains [] marker = false := by
    rw [← Bool.not_eq_true, contains_iff_isInfix, List.infix_nil]
    exact hne
  induction t generalizing before with
  | nil =>
    have hparts := cut?_eq_some h
    simp only [List.nil_eq, List.append_eq_nil_iff] at hparts
    exact absurd hparts.1.2 hne
  | cons c t ih =>
    rw [cut?] at h
    split at h
    · obtain ⟨rfl, -⟩ := Prod.mk.inj (Option.some.inj h)
      exact hnil
    · rename_i hprefix
      obtain ⟨parts, hcut, heq⟩ := Option.map_eq_some_iff.1 h
      obtain ⟨rfl, rfl⟩ := Prod.mk.inj heq
      have hbegins : c :: parts.1 <+: c :: t := by
        rw [cut?_eq_some hcut, List.append_assoc]
        exact List.prefix_append _ _
      have hfront : startsWith (c :: t) marker = false := startsWith_of_after?_eq_none hprefix
      rw [contains_cons, ih hcut, Bool.or_false, ← Bool.not_eq_true]
      intro hstart
      rw [startsWith_mono hbegins hstart] at hfront
      cases hfront

/-- **Markers in two texts in a row**, with a character between them that a marker begins with and
does not hold again: the marker occurs in one of the texts, or from the character on. -/
lemma contains_append_cons {c : Char} {marker : Text} (hc : c ∉ marker) (t u : Text) :
    contains (t ++ c :: u) (c :: marker) =
      (contains t (c :: marker) || startsWith u marker || contains u (c :: marker)) := by
  have hstart : ∀ d (v : Text),
      startsWith (d :: v) (c :: marker) = (c == d && startsWith v marker) := fun d v => rfl
  induction t with
  | nil =>
    have hnil : contains [] (c :: marker) = false := rfl
    rw [List.nil_append, contains_cons, hstart, hnil]
    simp
  | cons d t ih =>
    rw [List.cons_append, contains_cons, contains_cons, ih, hstart, hstart,
      startsWith_append_cons hc, Bool.or_assoc, Bool.or_assoc, Bool.or_assoc]

/-- A text in which a marker does not occur is not longer than any text in front of the marker. -/
lemma length_le_of_append_cons_eq {c : Char} {marker t u x y : Text} (hc : c ∉ marker)
    (hx : marker <+: x) (hu : contains u (c :: marker) = false) (h : t ++ c :: x = u ++ c :: y) :
    u.length ≤ t.length := by
  rcases List.append_eq_append_iff.1 h with ⟨v, hv, hrest⟩ | ⟨v, rfl, -⟩
  · cases v with
    | nil => rw [hv, List.append_nil]
    | cons d v =>
      -- the longer text would hold the character, and behind it the rest of the marker
      obtain ⟨rfl, rfl⟩ := List.cons.inj hrest
      rw [hv, contains_append_cons hc, ← startsWith_append_cons hc v y] at hu
      have hstart : startsWith (v ++ c :: y) marker = true := List.isPrefixOf_iff_prefix.2 hx
      rw [hstart, Bool.or_true, Bool.true_or] at hu
      cases hu
  · rw [List.length_append]
    exact Nat.le_add_right _ _

/-- Texts in front of a character are read back if none of them is longer than the other. -/
lemma eq_of_append_cons_eq {c : Char} {t u x y : Text} (htu : t.length ≤ u.length)
    (hut : u.length ≤ t.length) (h : t ++ c :: x = u ++ c :: y) : t = u ∧ x = y := by
  obtain ⟨rfl, hrest⟩ := List.append_inj h (le_antisymm htu hut)
  exact ⟨rfl, (List.cons.inj hrest).2⟩

/-! ## Trimmed texts in a row -/

/-- A trimmed text ends with a character that is not blank. -/
lemma exists_concat_of_trim_eq {t : Text} (hne : t ≠ []) (ht : trim t = t) :
    ∃ inner c, t = inner ++ [c] ∧ isBlank c = false := by
  obtain ⟨c, rest, rfl, hc⟩ := exists_cons_of_trim_eq hne ht
  rw [trim, trimStart_cons hc] at ht
  have hhead := List.head?_dropWhile_not isBlank (c :: rest).reverse
  rw [← List.reverse_reverse ((c :: rest).reverse.dropWhile isBlank), ← trimEnd, ht] at hhead
  obtain ⟨inner, last, hlast⟩ := List.eq_nil_or_concat' (c :: rest) |>.resolve_left hne
  rw [hlast] at hhead ⊢
  exact ⟨inner, last, rfl, by simpa using hhead⟩

/-- Two trimmed texts in a row are trimmed, whatever character stands between them. -/
lemma trim_append_cons_append {t u : Text} (ht : trim t = t) (htne : t ≠ []) (hu : trim u = u)
    (hune : u ≠ []) (c : Char) : trim (t ++ c :: u) = t ++ c :: u := by
  obtain ⟨d, rest, rfl, hd⟩ := exists_cons_of_trim_eq htne ht
  obtain ⟨inner, e, rfl, he⟩ := exists_concat_of_trim_eq hune hu
  have hinner := trim_append_cons hd he (rest ++ c :: inner) []
  simpa [trimEnd] using hinner

end Text

end ChartValues
