import ChartValues.Proofs.Yaml.TextKeys
import ChartValues.Value.Literal

set_option autoImplicit false

/-!
# The order of entries

The entries of a mapping keep an order, but paths do not see it: a path goes on at the one entry
with its key, wherever that stands. So two values whose mappings have the same entries in different
orders have the same paths, and what the paths lead to is the same but for the order of entries
again. Mappings are not written out where they are shown, unless they stand in a list or below a
tag; so the order is not seen there either.

## Main definitions

* `Value.Reordered` — two values that differ in the order of entries.

## Main results

* `Value.find?_perm` — what is found under a text key does not depend on the order of entries.
* `Value.Reordered.resolve?` — reordered values have the same paths.
* `Value.Reordered.shown_eq` — reordered values are shown alike, but for lists and tagged values.
-/

namespace ChartValues

namespace Value

/-- `Reordered deep v w` says that `w` is `v`, but for the order of the entries of mappings in which
no text is the key of two entries. Only plain mappings that are reached through plain mappings alone
are reordered, unless `deep` allows for those in lists and below tags. -/
inductive Reordered (deep : Bool) : Value → Value → Prop where
  | refl (v : Value) : Reordered deep v v
  /-- The values of the entries are reordered inside, and then the entries are permuted. -/
  | map {entries inside permuted : List (Value × Value)} (distinct : HasDistinctTexts entries)
      (keys : entries.map Prod.fst = inside.map Prod.fst)
      (values : List.Forall₂ (Reordered deep) (entries.map Prod.snd) (inside.map Prod.snd))
      (order : inside.Perm permuted) : Reordered deep (.map entries) (.map permuted)
  | list {items items' : List Value} (allowed : deep = true)
      (each : List.Forall₂ (Reordered deep) items items') :
      Reordered deep (.list items) (.list items')
  | tagged {name : Text} {v w : Value} (allowed : deep = true) (content : Reordered deep v w) :
      Reordered deep (.tagged name v) (.tagged name w)

/-! ## Keys -/

/-- The keys of a mapping tell whether a text is the key of two entries. -/
lemma HasDistinctTexts.of_map_fst_eq {entries others : List (Value × Value)}
    (h : HasDistinctTexts entries) (hkeys : entries.map Prod.fst = others.map Prod.fst) :
    HasDistinctTexts others := by
  intro text
  rw [keyCount_eq_countP, ← hkeys, ← keyCount_eq_countP]
  exact h text

/-- What is found under a text key is the value of the only entry with the key. -/
lemma find?_eq_some_iff {entries : List (Value × Value)} (h : HasDistinctTexts entries)
    {key : Text} {v : Value} :
    find? entries (.text key) = some v ↔ (.text key, v) ∈ entries := by
  refine ⟨mem_of_find?_text, fun hmem => ?_⟩
  obtain ⟨w, hfind⟩ := Option.isSome_iff_exists.1 (isSome_find?_text_iff.2 ⟨v, hmem⟩)
  have hcount := h.keyCount_eq_one hfind
  -- the entry that is found is the only one with the key
  obtain ⟨before, after, rfl⟩ := List.append_of_mem (mem_of_find?_text hfind)
  rw [keyCount, List.countP_append, List.countP_cons_of_pos (by simp [same_text_iff])] at hcount
  have hnone : ∀ e ∈ before ++ after, ¬ e.1.same (.text key) = true := by
    refine List.countP_eq_zero.1 ?_
    rw [List.countP_append]
    omega
  have hother : (.text key, v) ∉ before ++ after := fun hmem' =>
    hnone _ hmem' (same_text_iff.2 rfl)
  rw [List.mem_append, List.mem_cons] at hmem
  rcases hmem with hmem | heq | hmem
  · exact absurd (List.mem_append_left _ hmem) hother
  · rw [hfind, (Prod.mk.inj heq).2]
  · exact absurd (List.mem_append_right _ hmem) hother

/-- **What is found under a text key does not depend on the order of entries.** -/
lemma find?_perm {entries permuted : List (Value × Value)} (h : HasDistinctTexts entries)
    (hperm : entries.Perm permuted) (key : Text) :
    find? entries (.text key) = find? permuted (.text key) := by
  have hdistinct : HasDistinctTexts permuted := fun text => by
    rw [keyCount, ← hperm.countP_eq]
    exact h text
  ext v
  rw [find?_eq_some_iff h, find?_eq_some_iff hdistinct, hperm.mem_iff]

/-! ## Paths -/

namespace Reordered

variable {deep : Bool} {v w : Value}

/-- What is found under a key is reordered inside, if the values of all entries are. -/
lemma rel_find?_of_forall₂ {entries inside : List (Value × Value)}
    (hkeys : entries.map Prod.fst = inside.map Prod.fst)
    (hvalues : List.Forall₂ (Reordered deep) (entries.map Prod.snd) (inside.map Prod.snd))
    (key : Value) : Option.Rel (Reordered deep) (find? entries key) (find? inside key) := by
  induction entries generalizing inside with
  | nil =>
    obtain rfl := List.map_eq_nil_iff.1 hkeys.symm
    exact .none
  | cons e entries ih =>
    cases inside with
    | nil => cases hkeys
    | cons f inside =>
      obtain ⟨hkey, hkeys⟩ := List.cons.inj hkeys
      cases hvalues with
      | cons hvalue hvalues =>
        unfold find?
        rw [List.find?_cons, List.find?_cons, hkey]
        cases f.1.same key with
        | true => exact .some hvalue
        | false => exact ih hkeys hvalues

/-- A reordered mapping holds reordered values under the same text keys. -/
lemma rel_find? {entries entries' : List (Value × Value)}
    (h : Reordered deep (.map entries) (.map entries')) (key : Text) :
    Option.Rel (Reordered deep) (find? entries (.text key)) (find? entries' (.text key)) := by
  cases h with
  | refl =>
    cases find? entries (.text key) with
    | none => exact .none
    | some x => exact .some (.refl x)
  | map distinct keys values order =>
    rw [← find?_perm (distinct.of_map_fst_eq keys) order]
    exact rel_find?_of_forall₂ keys values (.text key)

/-- The entries of reordered values are those of reordered mappings, looking through tags. -/
lemma rel_entries? (h : Reordered deep v w) :
    Option.Rel (fun entries entries' => Reordered deep (.map entries) (.map entries'))
      v.entries? w.entries? := by
  fun_induction Value.entries? v generalizing w with
  | case1 entries =>
    cases h with
    | refl => exact .some (.refl _)
    | map distinct keys values order => exact .some (.map distinct keys values order)
  | case2 name v ih =>
    cases h with
    | refl =>
      have hcontent := ih (.refl v)
      exact hcontent
    | tagged _ content =>
      have hcontent := ih content
      exact hcontent
  | case3 v hmap htagged =>
    cases h with
    | refl =>
      cases v with
      | map entries => exact absurd rfl (hmap entries)
      | tagged name v => exact absurd rfl (htagged name v)
      | _ => exact .none
    | map distinct keys values order => exact absurd rfl (hmap _)
    | list _ each => exact .none
    | tagged _ content => exact absurd rfl (htagged _ _)

/-- **Reordered values have the same paths**, and what a path leads to is reordered again. -/
lemma resolve? (h : Reordered deep v w) (path : List Text) :
    Option.Rel (Reordered deep) (v.resolve? path) (w.resolve? path) := by
  induction path generalizing v w with
  | nil => exact .some h
  | cons key path ih =>
    have hentries := h.rel_entries?
    unfold Value.resolve? child?
    generalize v.entries? = entries, w.entries? = entries' at hentries ⊢
    cases hentries with
    | none => exact .none
    | @some entries entries' hmap =>
      have hchild := hmap.rel_find? key
      rw [Option.bind_some, Option.bind_some]
      generalize find? entries _ = child, find? entries' _ = child' at hchild ⊢
      cases hchild with
      | none => exact .none
      | some hvalue => exact ih hvalue

/-! ## What is shown -/

/-- A reordered mapping has entries exactly if the mapping has. -/
lemma isEmpty_eq {entries entries' : List (Value × Value)}
    (h : Reordered deep (.map entries) (.map entries')) : entries.isEmpty = entries'.isEmpty := by
  cases h with
  | refl => rfl
  | @map _ inside _ distinct keys values order =>
    calc
      entries.isEmpty = (entries.map Prod.fst).isEmpty := by rw [List.isEmpty_map]
      _ = inside.isEmpty := by rw [keys, List.isEmpty_map]
      _ = entries'.isEmpty := order.isEmpty_eq

/-- A reordered value is a mapping with entries exactly if the value is one. -/
lemma any_entries?_eq (h : Reordered deep v w) :
    v.entries?.any (fun entries => !entries.isEmpty) =
      w.entries?.any fun entries => !entries.isEmpty := by
  have hentries := h.rel_entries?
  generalize v.entries? = entries, w.entries? = entries' at hentries ⊢
  cases hentries with
  | none => rfl
  | some hmap => rw [Option.any_some, Option.any_some, hmap.isEmpty_eq]

/-- A reordered value is null exactly if the value is. -/
lemma isNull_eq (h : Reordered deep v w) : v.isNull = w.isNull := by
  fun_induction Value.isNull v generalizing w with
  | case1 =>
    cases h
    rfl
  | case2 name v ih =>
    cases h with
    | refl => rfl
    | tagged _ content =>
      have hcontent := ih content
      exact hcontent
  | case3 v hnull htagged =>
    cases h with
    | refl =>
      cases v with
      | null => exact absurd rfl hnull
      | tagged name v => exact absurd rfl (htagged name v)
      | _ => rfl
    | map distinct keys values order => rfl
    | list _ each => rfl
    | tagged _ content => exact absurd rfl (htagged _ _)

/-- A reordered value has the kind of the value. -/
lemma kind_eq (h : Reordered deep v w) : v.kind = w.kind := by
  cases h <;> rfl

/-- **Reordered values are shown alike**: a mapping with entries is shown by the referral, whatever
its entries are. Only lists and tagged values may be shown in different ways, if mappings inside are
reordered. -/
lemma shown_eq (h : Reordered deep v w)
    (hkind : deep = true → v.kind ≠ .list ∧ v.kind ≠ .mixed) : v.shown = w.shown := by
  cases h with
  | refl => rfl
  | @map entries inside permuted distinct keys values order =>
    have hempty := isEmpty_eq (.map distinct keys values order)
    cases entries <;> cases permuted
    · rfl
    · cases hempty
    · cases hempty
    · rfl
  | list allowed each => exact absurd rfl (hkind allowed).1
  | tagged allowed content => exact absurd rfl (hkind allowed).2

end Reordered

end Value

end ChartValues
