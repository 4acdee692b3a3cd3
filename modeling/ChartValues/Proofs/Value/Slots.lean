import ChartValues.Proofs.Text.Joining
import ChartValues.Proofs.Text.Markers

set_option autoImplicit false

/-!
# Literals inside of literals

The literal of a collection is a row of literals with a closing bracket behind it. To tell where
each one ends, it is enough to know what may stand behind it: a comma and a space, or the closing
character. A text ends at the first quote with one of them behind, if no quote inside is as well.

## Main definitions

* `Slot` — where a literal stands in the literal of a collection.
* `Slot.Follows` — what may stand behind it.

## Main results

* `Slot.eq_of_quoted` — texts in quotes are read back in front of what follows.
* `Slot.eq_of_row` — a row is read back up to its closing character.
-/

namespace ChartValues

/-- Where a literal stands in the literal of a collection. -/
inductive Slot where
  | item
  | value
  | key

namespace Slot

variable {slot : Slot}

/-- What stands behind the last literal in such a slot. -/
def close : Slot → Char
  | .item => ']'
  | .value => '\x7d'
  | .key => ':'

/-- Whether a text can stand behind a literal in the slot. -/
def Follows (slot : Slot) (t : Text) : Prop := ", ".toList <+: t ∨ [slot.close] <+: t

/-- Whether no quote in a text looks like the end of the text in the slot. -/
def IsClear (slot : Slot) (t : Text) : Prop :=
  t.contains "\", ".toList = false ∧ t.contains ['"', slot.close] = false

/-- What follows a literal begins with no digit. -/
lemma isDigit_of_follows {t : Text} (h : slot.Follows t) : ∀ c ∈ t.head?, c.isDigit = false := by
  rintro c hc
  rcases h with ⟨u, rfl⟩ | ⟨u, rfl⟩
  · obtain rfl := Option.some.inj hc
    rfl
  · obtain rfl := Option.some.inj hc
    cases slot <;> rfl

/-- A text in quotes that is clear is not longer than any other text in front of the same end. -/
lemma length_le_of_quoted {t u x y : Text} (hu : slot.IsClear u) (hx : slot.Follows x)
    (h : t ++ '"' :: x = u ++ '"' :: y) : u.length ≤ t.length := by
  rcases hx with hx | hx
  · exact Text.length_le_of_append_cons_eq (by decide) hx hu.1 h
  · exact Text.length_le_of_append_cons_eq (by cases slot <;> decide) hx hu.2 h

/-- Clear texts are read back up to their closing quotes. -/
lemma eq_of_quoted {t u x y : Text} (ht : slot.IsClear t) (hu : slot.IsClear u)
    (hx : slot.Follows x) (hy : slot.Follows y) (h : t ++ '"' :: x = u ++ '"' :: y) :
    t = u ∧ x = y :=
  Text.eq_of_append_cons_eq (length_le_of_quoted ht hy h.symm) (length_le_of_quoted hu hx h) h

/-! ## Rows -/

/-- What stands behind the first text of a row, if the others are given. -/
def tail (slot : Slot) (rest : Text) : List Text → Text
  | [] => slot.close :: rest
  | part :: parts => ", ".toList ++ (part ++ slot.tail rest parts)

/-- What stands behind a text of a row follows a literal. -/
lemma follows_tail (rest : Text) (parts : List Text) : slot.Follows (slot.tail rest parts) := by
  cases parts with
  | nil => exact .inr (List.prefix_append _ _)
  | cons part parts => exact .inl (List.prefix_append _ _)

/-- A row is its first text and what stands behind it. -/
lemma joinWith_cons_append (rest part : Text) (parts : List Text) :
    Text.joinWith ", ".toList (part :: parts) ++ slot.close :: rest =
      part ++ slot.tail rest parts := by
  induction parts generalizing part with
  | nil => rw [Text.joinWith_singleton, tail]
  | cons next parts ih =>
    rw [Text.joinWith_cons_cons, tail, List.append_assoc, List.append_assoc, ih]

section Reading

variable {α : Type} {f : α → Text} {xs ys : List α} {t u : Text}

/-- Behind the first text, a row is read back one by one. -/
lemma eq_of_tail_eq
    (hread : ∀ x ∈ xs, ∀ y ∈ ys, ∀ t u, slot.Follows t → slot.Follows u →
      f x ++ t = f y ++ u → x = y ∧ t = u)
    (h : slot.tail t (xs.map f) = slot.tail u (ys.map f)) : xs = ys ∧ t = u := by
  have hclose : slot.close ≠ ',' := by cases slot <;> decide
  induction xs generalizing ys with
  | nil =>
    cases ys with
    | nil => exact ⟨rfl, (List.cons.inj h).2⟩
    | cons y ys => exact absurd (List.cons.inj h).1 hclose
  | cons x xs ih =>
    cases ys with
    | nil => exact absurd (List.cons.inj h).1.symm hclose
    | cons y ys =>
      rw [List.map_cons, List.map_cons, tail, tail, List.append_cancel_left_eq] at h
      obtain ⟨rfl, htail⟩ := hread x (by simp) y (by simp) _ _ (follows_tail t _)
        (follows_tail u _) h
      obtain ⟨rfl, rfl⟩ := ih (fun x hx y hy => hread x (by simp [hx]) y (by simp [hy])) htail
      exact ⟨rfl, rfl⟩

/-- **A row is read back** up to its closing character, if its texts are, and if the first text does
not begin with the closing character. -/
lemma eq_of_row (slot : Slot)
    (hread : ∀ x ∈ xs, ∀ y ∈ ys, ∀ t u, slot.Follows t → slot.Follows u →
      f x ++ t = f y ++ u → x = y ∧ t = u)
    (hxs : ∀ x ∈ xs.head?, ∀ t, ¬ [slot.close] <+: f x ++ t)
    (hys : ∀ y ∈ ys.head?, ∀ t, ¬ [slot.close] <+: f y ++ t)
    (h : Text.joinWith ", ".toList (xs.map f) ++ slot.close :: t =
      Text.joinWith ", ".toList (ys.map f) ++ slot.close :: u) : xs = ys ∧ t = u := by
  cases xs with
  | nil =>
    cases ys with
    | nil => exact ⟨rfl, (List.cons.inj h).2⟩
    | cons y ys =>
      rw [List.map_cons, joinWith_cons_append] at h
      exact absurd ⟨t, h⟩ (hys y rfl _)
  | cons x xs =>
    cases ys with
    | nil =>
      rw [List.map_cons, joinWith_cons_append] at h
      exact absurd ⟨u, h.symm⟩ (hxs x rfl _)
    | cons y ys =>
      rw [List.map_cons, List.map_cons, joinWith_cons_append, joinWith_cons_append] at h
      obtain ⟨rfl, htail⟩ := hread x (by simp) y (by simp) _ _ (follows_tail t _)
        (follows_tail u _) h
      obtain ⟨rfl, rfl⟩ := eq_of_tail_eq
        (fun x hx y hy => hread x (by simp [hx]) y (by simp [hy])) htail
      exact ⟨rfl, rfl⟩

end Reading

end Slot

end ChartValues
