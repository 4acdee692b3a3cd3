import ChartValues.Proofs.Yaml.MergeKeys

set_option autoImplicit false

/-!
# Text keys after merges

Merging moves entries and adds others, but an entry is added only where its key is absent. So no
mapping has a text key twice after all merges, and the key at which a path goes on is the only one
of its mapping.

## Main definitions

* `Value.keyCount` — how many entries have a text key.
* `Value.HasDistinctTexts` — no text is the key of two entries.

## Main results

* `Yaml.hasDistinctTexts_of_takeMergeKey` — the own merge of a mapping keeps text keys distinct.
* `Yaml.everywhere_hasDistinctTexts_of_mergeDepth` — all merges keep text keys distinct.
-/

namespace ChartValues

namespace Value

/-- How many entries have the text as their key. -/
def keyCount (entries : List (Value × Value)) (text : Text) : Nat :=
  entries.countP fun e => e.1.same (.text text)

/-- How many entries have a text as their key is told by the keys. -/
lemma keyCount_eq_countP (entries : List (Value × Value)) (text : Text) :
    keyCount entries text = (entries.map Prod.fst).countP fun key => key.same (.text text) := by
  rw [List.countP_map]
  rfl

/-- Whether no text is the key of two entries. -/
def HasDistinctTexts (entries : List (Value × Value)) : Prop :=
  ∀ text, keyCount entries text ≤ 1

/-- Distinct keys have distinct texts among them. -/
lemma hasDistinctTexts_of_pairwise {entries : List (Value × Value)}
    (h : entries.Pairwise fun a b => a.1.same b.1 = false) : HasDistinctTexts entries := by
  intro text
  induction h with
  | nil => exact Nat.zero_le 1
  | @cons e entries hfirst _ ih =>
    rw [keyCount, List.countP_cons]
    split_ifs with hsame
    · have hnone : entries.countP (fun e => e.1.same (.text text)) = 0 := by
        refine List.countP_eq_zero.2 fun other hother hsame' => ?_
        have hdistinct := hfirst other hother
        rw [same_text_iff.1 hsame, same_text_iff.1 hsame', same_text_iff.2 rfl] at hdistinct
        cases hdistinct
      omega
    · exact ih

/-- A text key that is found is the key of one entry only. -/
lemma HasDistinctTexts.keyCount_eq_one {entries : List (Value × Value)}
    (h : HasDistinctTexts entries) {text : Text} {v : Value}
    (hfind : find? entries (.text text) = some v) : keyCount entries text = 1 := by
  have hpos : 0 < keyCount entries text :=
    List.countP_pos_iff.2 ⟨_, mem_of_find?_text hfind, same_text_iff.2 rfl⟩
  have hle := h text
  omega

end Value

namespace Yaml

/-! ## The own merge of a mapping -/

/-- Entries whose keys are absent keep text keys distinct. -/
lemma hasDistinctTexts_addAbsent {entries : List (Value × Value)}
    (h : Value.HasDistinctTexts entries) (others : List (Value × Value)) :
    Value.HasDistinctTexts (addAbsent entries others) := by
  induction others generalizing entries with
  | nil => exact h
  | cons first others ih =>
    rw [addAbsent, List.foldl_cons]
    apply ih
    split_ifs with hfound
    · exact h
    · intro text
      rw [Value.keyCount, List.countP_append, List.countP_singleton]
      have hle := h text
      split_ifs with hsame
      · have hnone : Value.keyCount entries text = 0 := by
          refine List.countP_eq_zero.2 fun e he hsame' => hfound ?_
          rw [Value.same_text_iff.1 hsame]
          refine Value.isSome_find?_text_iff.2 ⟨e.2, ?_⟩
          rw [← Value.same_text_iff.1 hsame']
          exact he
        rw [Value.keyCount] at hnone
        omega
      · exact hle

/-- The own merge of a mapping keeps text keys distinct. -/
lemma hasDistinctTexts_of_takeMergeKey {entries merged : List (Value × Value)}
    (hkeys : Value.HasDistinctTexts entries) (h : takeMergeKey entries = .ok merged) :
    Value.HasDistinctTexts merged := by
  rcases takeMergeKey_cases h with ⟨-, rfl⟩ | ⟨before, v, after, rfl, rfl⟩
  · exact hkeys
  · have hremoved : Value.HasDistinctTexts
        (swapRemove (before ++ (mergeKey, v) :: after) before.length) := by
      intro text
      refine Nat.le_trans ?_ (hkeys text)
      rw [Value.keyCount, (swapRemove_perm before after _).countP_eq]
      exact ((List.sublist_cons_self _ _).append_left before).countP_le
    generalize swapRemove (before ++ (mergeKey, v) :: after) before.length = start at hremoved
    induction offered v generalizing start with
    | nil => exact hremoved
    | cons first others ih => exact ih _ (hasDistinctTexts_addAbsent hremoved first)

/-! ## All merges -/

/-- What is merged one by one has some property if each part gets it. -/
lemma forall_mem_of_forall₂ {α β : Type} {R : α → β → Prop} {Q : β → Prop} {xs : List α}
    {ys : List β} (h : List.Forall₂ R xs ys) (hQ : ∀ x ∈ xs, ∀ y, R x y → Q y) : ∀ y ∈ ys, Q y := by
  induction h with
  | nil => simp
  | cons hxy _ ih =>
    exact List.forall_mem_cons.2 ⟨hQ _ List.mem_cons_self _ hxy,
      ih fun x hx => hQ x (List.mem_cons_of_mem _ hx)⟩

/-- **All merges keep text keys distinct.**

**Proof sketch.** Induction on the levels. The own merge of a mapping keeps its text keys distinct
(`hasDistinctTexts_of_takeMergeKey`), and its values after that stand inside its values before. The
keys do not change when the values are merged. -/
lemma everywhere_hasDistinctTexts_of_mergeDepth {n : Nat} {v w : Value}
    (hkeys : v.Everywhere Value.HasDistinctTexts) (h : mergeDepth n v = .ok w) :
    w.Everywhere Value.HasDistinctTexts := by
  induction n generalizing v w with
  | zero =>
    obtain rfl := Except.ok.inj h
    exact hkeys
  | succ n ih =>
    cases v with
    | list items =>
      obtain ⟨values, hvalues, rfl⟩ := exists_of_map_eq_ok h
      refine Value.everywhere_list (forall_mem_of_forall₂ (forall₂_of_mergeItems hvalues) ?_)
      intro x hx y hxy
      exact ih (hkeys.of_reaches (.item hx .refl)) hxy
    | map entries =>
      obtain ⟨merged, hmerged, h⟩ := exists_of_bind_eq_ok h
      obtain ⟨values, hvalues, h⟩ := exists_of_bind_eq_ok h
      obtain rfl := Except.ok.inj h
      have hpairs := forall₂_of_mergeItems hvalues
      refine Value.everywhere_map ?_ (forall_mem_of_forall₂ (forall₂_zip hpairs) ?_)
      · -- the merged values keep the keys of their entries, so the keys are counted as before
        intro text
        have hlength : (merged.map Prod.fst).length ≤ values.length :=
          Nat.le_of_eq (by simpa using hpairs.length_eq)
        rw [Value.keyCount_eq_countP, List.map_fst_zip hlength, ← Value.keyCount_eq_countP]
        exact hasDistinctTexts_of_takeMergeKey (hkeys entries .refl) hmerged text
      · intro e he f hef
        obtain ⟨origin, horigin, hreach⟩ := exists_reaches_of_takeMergeKey hmerged he
        exact ih (hkeys.of_reaches (.entry horigin hreach)) hef.2
    | tagged name v =>
      obtain ⟨u, hu, rfl⟩ := exists_of_map_eq_ok h
      exact Value.everywhere_tagged (ih (hkeys.of_reaches (.content .refl)) hu)
    | _ =>
      obtain rfl := Except.ok.inj h
      exact hkeys

end Yaml

end ChartValues
