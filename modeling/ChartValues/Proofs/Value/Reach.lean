import ChartValues.Value.Basic
import Mathlib.Data.List.Basic

set_option autoImplicit false

/-!
# Inside a value

What stands inside a value is reached through the items of lists, the values of mappings, and
tags. Keys are not looked into.

## Main definitions

* `Value.Reaches` — one value stands inside another.
* `Value.Everywhere` — all mappings inside a value have some property.
* `Value.DistinctKeys` — no mapping inside a value has the same key twice.

## Main results

* `Value.exists_reaches_of_resolve?` — the keys of a path are keys of mappings inside.
* `Value.everywhere_list`, `Value.everywhere_map`, `Value.everywhere_tagged` — a property of all
  mappings is told part by part.
-/

namespace ChartValues

namespace Value

/-- `Reaches v w` says that `w` is `v` or stands inside it. -/
inductive Reaches : Value → Value → Prop where
  | refl {v : Value} : Reaches v v
  | item {items : List Value} {v w : Value} (mem : v ∈ items) (inside : Reaches v w) :
      Reaches (.list items) w
  | entry {entries : List (Value × Value)} {e : Value × Value} {w : Value} (mem : e ∈ entries)
      (inside : Reaches e.2 w) : Reaches (.map entries) w
  | content {name : Text} {v w : Value} (inside : Reaches v w) : Reaches (.tagged name v) w

/-- What stands inside a value that stands inside another, stands inside that one. -/
lemma Reaches.trans {u v w : Value} (huv : Reaches u v) (hvw : Reaches v w) : Reaches u w := by
  induction huv with
  | refl => exact hvw
  | item mem _ ih => exact .item mem (ih hvw)
  | entry mem _ ih => exact .entry mem (ih hvw)
  | content _ ih => exact .content (ih hvw)

/-! ## Keys and paths -/

/-- Only a text is the same key as a text, and only that text. -/
lemma same_text_iff {k : Value} {t : Text} : k.same (.text t) = true ↔ k = .text t := by
  cases k <;> simp [same]

/-- What a mapping holds for a key is the value of one of its entries with that key. -/
lemma mem_of_find?_text {entries : List (Value × Value)} {t : Text} {v : Value}
    (h : find? entries (.text t) = some v) : (.text t, v) ∈ entries := by
  unfold find? at h
  obtain ⟨⟨k, w⟩, hfind, rfl⟩ := Option.map_eq_some_iff.1 h
  have hsame := List.find?_some hfind
  obtain rfl : k = .text t := same_text_iff.1 hsame
  exact List.mem_of_find?_eq_some hfind

/-- A key that has an entry is found. -/
lemma isSome_find?_text_iff {entries : List (Value × Value)} {t : Text} :
    (find? entries (.text t)).isSome = true ↔ ∃ v, (.text t, v) ∈ entries := by
  constructor
  · intro h
    obtain ⟨v, hv⟩ := Option.isSome_iff_exists.1 h
    exact ⟨v, mem_of_find?_text hv⟩
  · rintro ⟨v, hmem⟩
    have hfind : (entries.find? fun e => e.1.same (.text t)).isSome = true :=
      List.find?_isSome.2 ⟨_, hmem, same_text_iff.2 rfl⟩
    simpa [find?] using hfind

/-- The entries of a mapping stand inside it, looking through tags. -/
lemma Reaches.of_entries? {v : Value} {entries : List (Value × Value)}
    (h : v.entries? = some entries) : Reaches v (.map entries) := by
  fun_induction entries? v with
  | case1 es =>
    obtain rfl := Option.some.inj h
    exact .refl
  | case2 name v ih => exact .content (ih h)
  | case3 => cases h

/-- What a path of keys leads to stands inside. -/
lemma Reaches.of_resolve? {v w : Value} {path : List Text} (h : v.resolve? path = some w) :
    Reaches v w := by
  induction path generalizing v with
  | nil =>
    obtain rfl := Option.some.inj h
    exact .refl
  | cons first path ih =>
    obtain ⟨u, hchild, hrest⟩ := Option.bind_eq_some_iff.1 h
    obtain ⟨entries, hentries, hfind⟩ := Option.bind_eq_some_iff.1 hchild
    exact (Reaches.of_entries? hentries).trans (.entry (mem_of_find?_text hfind) (ih hrest))

/-- If a path of keys leads to a value, each key on it is a key of a mapping inside. -/
lemma exists_reaches_of_resolve? {v w : Value} {path : List Text} (h : v.resolve? path = some w)
    {key : Text} (hkey : key ∈ path) :
    ∃ entries u, Reaches v (.map entries) ∧ (.text key, u) ∈ entries := by
  induction path generalizing v with
  | nil => cases hkey
  | cons first path ih =>
    obtain ⟨u, hchild, hrest⟩ := Option.bind_eq_some_iff.1 h
    obtain ⟨entries, hentries, hfind⟩ := Option.bind_eq_some_iff.1 hchild
    have hmem := mem_of_find?_text hfind
    have hreach := Reaches.of_entries? hentries
    rcases List.mem_cons.1 hkey with rfl | hkey
    · exact ⟨entries, u, hreach, hmem⟩
    · obtain ⟨inner, x, hinner, hx⟩ := ih hrest hkey
      exact ⟨inner, x, hreach.trans (.entry hmem hinner), hx⟩

/-! ## All mappings inside -/

/-- `Everywhere P v` says that all mappings inside `v` have the property `P`. -/
def Everywhere (P : List (Value × Value) → Prop) (v : Value) : Prop :=
  ∀ entries, Reaches v (.map entries) → P entries

section Everywhere

variable {P : List (Value × Value) → Prop}

/-- What stands inside a value has the property of all mappings inside. -/
lemma Everywhere.of_reaches {v w : Value} (h : Everywhere P v) (hvw : Reaches v w) :
    Everywhere P w :=
  fun entries hw => h entries (hvw.trans hw)

/-- The mappings inside a list are those inside its items. -/
lemma everywhere_list {items : List Value} (h : ∀ v ∈ items, Everywhere P v) :
    Everywhere P (.list items) := by
  intro entries hreach
  cases hreach with
  | item mem inside => exact h _ mem entries inside

/-- The mappings inside a mapping are itself and those inside its values. -/
lemma everywhere_map {entries : List (Value × Value)} (hown : P entries)
    (h : ∀ e ∈ entries, Everywhere P e.2) : Everywhere P (.map entries) := by
  intro inner hreach
  cases hreach with
  | refl => exact hown
  | entry mem inside => exact h _ mem inner inside

/-- The mappings inside a tagged value are those inside its content. -/
lemma everywhere_tagged {name : Text} {v : Value} (h : Everywhere P v) :
    Everywhere P (.tagged name v) := by
  intro entries hreach
  cases hreach with
  | content inside => exact h entries inside

/-- Whether a value holds no other values. -/
def isScalar : Value → Bool
  | .list _ | .map _ | .tagged _ _ => false
  | _ => true

/-- Nothing but itself stands inside a scalar. -/
lemma Reaches.eq_of_isScalar {v w : Value} (hv : v.isScalar = true) (h : Reaches v w) : w = v := by
  cases h with
  | refl => rfl
  | item => cases hv
  | entry => cases hv
  | content => cases hv

/-- There are no mappings inside a scalar. -/
lemma everywhere_of_isScalar {v : Value} (hv : v.isScalar = true) : Everywhere P v := by
  intro entries hreach
  rw [← hreach.eq_of_isScalar hv] at hv
  cases hv

end Everywhere

/-! ## Distinct keys -/

/-- `DistinctKeys v` says that no mapping inside `v` has the same key twice. -/
def DistinctKeys (v : Value) : Prop :=
  ∀ entries, Reaches v (.map entries) → entries.Pairwise fun a b => a.1.same b.1 = false

/-- What stands inside a value with distinct keys has distinct keys. -/
lemma DistinctKeys.of_reaches {v w : Value} (h : DistinctKeys v) (hvw : Reaches v w) :
    DistinctKeys w :=
  Everywhere.of_reaches h hvw

end Value

end ChartValues
