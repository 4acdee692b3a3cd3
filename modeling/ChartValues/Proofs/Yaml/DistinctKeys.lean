import ChartValues.Proofs.Value.Reach
import ChartValues.Yaml.Reading

set_option autoImplicit false

/-!
# Distinct keys of documents

Reading refuses a mapping in which a key comes twice. So all mappings of a document have distinct
keys, also those that are read more than once because aliases refer to them.

## Main definitions

* `Yaml.Gives` — all that a reader gives has some property.

## Main results

* `Yaml.gives_readDepth` — a property of scalars, lists, mappings and tags is one of all nodes.
* `Yaml.distinctKeys_value` — the value of a document has distinct keys.
-/

namespace ChartValues

namespace Yaml

/-! ## Computations that may fail -/

/-- What a computation in two steps gives, its second step gives from what the first one gave. -/
lemma exists_of_bind_eq_ok {ε α β : Type} {x : Except ε α} {f : α → Except ε β} {b : β}
    (h : x >>= f = .ok b) : ∃ a, x = .ok a ∧ f a = .ok b := by
  cases x with
  | error cause => cases h
  | ok a => exact ⟨a, rfl, h⟩

/-- What a computation gives, if a function is applied to its result. -/
lemma exists_of_map_eq_ok {ε α β : Type} {x : Except ε α} {f : α → β} {b : β}
    (h : x.map f = .ok b) : ∃ a, x = .ok a ∧ f a = b := by
  cases x with
  | error cause => cases h
  | ok a => exact ⟨a, rfl, Except.ok.inj h⟩

/-! ## Scalars -/

/-- A plain scalar stands for a scalar. -/
lemma isScalar_of_plainValue? {t : Text} {v : Value} (h : plainValue? t = some v) :
    v.isScalar = true := by
  unfold plainValue? integerValue? at h
  split at h
  · obtain rfl := Option.some.inj h
    rfl
  · split at h
    · obtain rfl := Option.some.inj h
      rfl
    · split at h
      · split at h
        · obtain rfl := Option.some.inj h
          rfl
        · cases h
      · split at h <;>
        · obtain rfl := Option.some.inj h
          rfl

/-- A scalar stands for a scalar, whatever its tag. -/
lemma isScalar_of_scalarValue? {tag : Option Tag} {content : Text} {plain : Bool} {v : Value}
    (h : scalarValue? tag content plain = some v) : v.isScalar = true := by
  unfold scalarValue? at h
  split at h
  · split at h
    · exact isScalar_of_plainValue? h
    · obtain rfl := Option.some.inj h
      rfl
  · split_ifs at h
    · obtain ⟨b, -, rfl⟩ := Option.map_eq_some_iff.1 h
      rfl
    · obtain ⟨n, -, hn⟩ := Option.bind_eq_some_iff.1 h
      unfold integerValue? at hn
      split_ifs at hn
      obtain rfl := Option.some.inj hn
      rfl
    · obtain ⟨x, -, rfl⟩ := Option.map_eq_some_iff.1 h
      rfl
    · obtain rfl := Option.some.inj h
      rfl
    · exact isScalar_of_plainValue? h
    · obtain rfl := Option.some.inj h
      rfl

/-! ## Collections -/

/-- `Gives P r` says that all values that `r` gives have the property `P`. -/
def Gives (P : Value → Prop) (r : Reader Value) : Prop :=
  ∀ p v q, r p = .ok (v, q) → P v

/-- All items of a list that is read have the property that its reader gives. -/
lemma forall_of_readItems {P : Value → Prop} {item : Reader Value} (hitem : Gives P item) {n : Nat}
    {p q : Progress} {items : List Value} (h : readItems item n p = .ok (items, q)) :
    ∀ v ∈ items, P v := by
  induction n generalizing p q items with
  | zero => cases h
  | succ n ih =>
    unfold readItems at h
    split at h
    · cases h
    · obtain ⟨rfl, -⟩ := Prod.mk.inj (Except.ok.inj h)
      simp
    · obtain ⟨⟨v, p'⟩, hv, h⟩ := exists_of_bind_eq_ok h
      obtain ⟨⟨vs, p''⟩, hvs, h⟩ := exists_of_bind_eq_ok h
      obtain ⟨rfl, -⟩ := Prod.mk.inj (Except.ok.inj h)
      rintro w hw
      rcases List.mem_cons.1 hw with rfl | hw
      · exact hitem p w p' hv
      · exact ih hvs w hw

/-- The entries that are read have distinct keys, if those that were read before have, and all
their values have the property that the reader gives. -/
lemma distinct_of_readEntries {P : Value → Prop} {node : Reader Value} (hnode : Gives P node)
    {n : Nat} {before entries : List (Value × Value)} {p q : Progress}
    (hown : before.Pairwise fun a b => a.1.same b.1 = false) (hvalues : ∀ e ∈ before, P e.2)
    (h : readEntries node before n p = .ok (entries, q)) :
    (entries.Pairwise fun a b => a.1.same b.1 = false) ∧ ∀ e ∈ entries, P e.2 := by
  induction n generalizing p q before with
  | zero => cases h
  | succ n ih =>
    unfold readEntries at h
    split at h
    · cases h
    · obtain ⟨rfl, -⟩ := Prod.mk.inj (Except.ok.inj h)
      exact ⟨hown, hvalues⟩
    · obtain ⟨⟨k, p'⟩, -, h⟩ := exists_of_bind_eq_ok h
      dsimp only at h
      split_ifs at h with hfound
      · cases h
      · obtain ⟨⟨v, p''⟩, hv, h⟩ := exists_of_bind_eq_ok h
        -- the new key differs from all keys before, or reading would have stopped
        have hfresh : ∀ e ∈ before, e.1.same k = false := by
          intro e he
          by_contra hsame
          have hkey : (before.find? fun e => e.1.same k).isSome = true :=
            List.find?_isSome.2 ⟨e, he, by simpa using hsame⟩
          exact hfound (by simpa [Value.find?] using hkey)
        refine ih ?_ ?_ h
        · refine List.pairwise_append.2 ⟨hown, List.pairwise_singleton _ _, ?_⟩
          intro e he e' he'
          rw [List.mem_singleton.1 he']
          exact hfresh e he
        · intro e he
          rcases List.mem_append.1 he with he | he
          · exact hvalues e he
          · rw [List.mem_singleton.1 he]
            exact hnode p' v p'' hv

/-! ## Nodes -/

/-- The content of a node has distinct keys, if the nodes of a collection have. -/
lemma gives_readContent {child : Option (Reader Value)}
    (hchild : ∀ r ∈ child, Gives Value.DistinctKeys r) (named : Bool) :
    Gives Value.DistinctKeys (readContent child named) := by
  intro p v q h
  unfold readContent at h
  split at h
  · split at h
    · rename_i w hw
      obtain ⟨rfl, -⟩ := Prod.mk.inj (Except.ok.inj h)
      exact Value.everywhere_of_isScalar (isScalar_of_scalarValue? hw)
    · cases h
  · cases h
  · cases h
  · rename_i r _
    obtain ⟨⟨items, p'⟩, hitems, h⟩ := exists_of_bind_eq_ok h
    obtain ⟨rfl, -⟩ := Prod.mk.inj (Except.ok.inj h)
    exact Value.everywhere_list (forall_of_readItems (hchild r rfl) hitems)
  · rename_i r _
    obtain ⟨⟨entries, p'⟩, hentries, h⟩ := exists_of_bind_eq_ok h
    obtain ⟨rfl, -⟩ := Prod.mk.inj (Except.ok.inj h)
    obtain ⟨hown, hvalues⟩ :=
      distinct_of_readEntries (hchild r rfl) List.Pairwise.nil (by simp) hentries
    exact Value.everywhere_map hown hvalues
  · cases h

/-- A node that is no alias has distinct keys, if the nodes of a collection have. -/
lemma gives_readTagged {child : Option (Reader Value)}
    (hchild : ∀ r ∈ child, Gives Value.DistinctKeys r) :
    Gives Value.DistinctKeys (readTagged child) := by
  intro p v q h
  unfold readTagged at h
  dsimp only at h
  split at h
  · exact gives_readContent hchild false p v q h
  · obtain ⟨⟨w, p'⟩, hw, h⟩ := exists_of_bind_eq_ok h
    obtain ⟨rfl, -⟩ := Prod.mk.inj (Except.ok.inj h)
    exact Value.everywhere_tagged (gives_readContent hchild true p w p' hw)

/-- A node has distinct keys, if the nodes of a collection have. -/
lemma gives_readNode (all : List (Event Nat)) {child : Option (Reader Value)}
    (hchild : ∀ r ∈ child, Gives Value.DistinctKeys r) :
    Gives Value.DistinctKeys (readNode all child) := by
  intro p v q h
  unfold readNode at h
  split at h
  · split_ifs at h
    obtain ⟨⟨w, p'⟩, hw, h⟩ := exists_of_bind_eq_ok h
    obtain ⟨rfl, -⟩ := Prod.mk.inj (Except.ok.inj h)
    exact gives_readTagged hchild _ w p' hw
  · exact gives_readTagged hchild p v q h

/-- All nodes have distinct keys, however deep collections may be nested. -/
lemma gives_readDepth (all : List (Event Nat)) (depth : Nat) :
    Gives Value.DistinctKeys (readDepth all depth) := by
  induction depth with
  | zero => exact gives_readNode all (by simp)
  | succ depth ih =>
    refine gives_readNode all ?_
    rintro r ⟨⟩
    exact ih

/-! ## Documents -/

/-- The value of a document has distinct keys. -/
lemma distinctKeys_value {d : Document} {v : Value} (h : d.value = .ok v) :
    v.DistinctKeys := by
  obtain ⟨events, ending⟩ := d
  unfold Document.value at h
  cases events with
  | nil =>
    cases ending with
    | last =>
      obtain rfl := Except.ok.inj h
      exact Value.everywhere_of_isScalar rfl
    | broken => cases h
    | followed => cases h
  | cons first rest =>
    obtain ⟨w, hw, h⟩ := exists_of_bind_eq_ok h
    cases ending with
    | last =>
      obtain rfl := Except.ok.inj h
      obtain ⟨⟨w, q⟩, hread, rfl⟩ := exists_of_map_eq_ok hw
      exact gives_readDepth _ _ _ w q hread
    | broken => cases h
    | followed => cases h

end Yaml

end ChartValues
