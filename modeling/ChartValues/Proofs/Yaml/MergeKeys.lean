import ChartValues.Proofs.Yaml.DistinctKeys
import ChartValues.Yaml.Merging
import Mathlib.Data.List.Forall2

set_option autoImplicit false

/-!
# Which merge keys stay

A merge removes the merge key of a mapping, but it takes over the entries of other mappings as
they are, and a merge key among these is not looked at again. So a merge key stays exactly if the
merge goes through a mapping whose merge key offers a mapping that has a merge key itself.

## Main definitions

* `Yaml.HoldsMergeKey` — whether some mapping inside a value has a merge key.
* `Yaml.offered` — the mappings that a merge key offers.
* `Yaml.Chains` — whether a mapping that is offered has a merge key itself.
* `Yaml.Visits` — the merge of one value goes through another.
* `Yaml.KeepsMergeKey` — whether the merge of a value goes through a mapping that chains.

## Main results

* `Yaml.takeMergeKey_cases` — all that the own merge of a mapping can do.
* `Yaml.hasMergeKey_of_takeMergeKey` — when a mapping has a merge key after its own merge.
* `Yaml.holdsMergeKey_iff_of_mergeDepth` — when a value holds a merge key after all merges.
-/

namespace ChartValues

namespace Yaml

/-! ## Definitions -/

/-- Whether one of the entries has the merge key. -/
def HasMergeKey (entries : List (Value × Value)) : Prop := ∃ e ∈ entries, e.1 = mergeKey

/-- Whether some mapping inside the value has a merge key. -/
def HoldsMergeKey (v : Value) : Prop :=
  ∃ entries, v.Reaches (.map entries) ∧ HasMergeKey entries

/-- The mappings that the value of a merge key offers: itself, or the mappings in a list. -/
def offered : Value → List (List (Value × Value))
  | .map entries => [entries]
  | .list items => items.filterMap fun
    | .map entries => some entries
    | _ => none
  | _ => []

/-- Whether the merge key of a mapping offers a mapping that has a merge key itself. -/
def Chains (entries : List (Value × Value)) : Prop :=
  ∃ e ∈ entries, e.1 = mergeKey ∧ ∃ others ∈ offered e.2, HasMergeKey others

/-- `Visits v w` says that the merge of `v` goes through `w`. Of a mapping, it goes through the
values that are there after its own merge. -/
inductive Visits : Value → Value → Prop where
  | refl {v : Value} : Visits v v
  | item {items : List Value} {v w : Value} (mem : v ∈ items) (inside : Visits v w) :
      Visits (.list items) w
  | entry {entries merged : List (Value × Value)} {e : Value × Value} {w : Value}
      (take : takeMergeKey entries = .ok merged) (mem : e ∈ merged) (inside : Visits e.2 w) :
      Visits (.map entries) w
  | content {name : Text} {v w : Value} (inside : Visits v w) : Visits (.tagged name v) w

/-- Whether the merge of a value goes through a mapping that chains. -/
def KeepsMergeKey (v : Value) : Prop := ∃ entries, Visits v (.map entries) ∧ Chains entries

/-! ## The own merge of a mapping -/

/-- The other entries are all there after an entry is removed. -/
lemma swapRemove_perm (before after : List (Value × Value)) (e : Value × Value) :
    (swapRemove (before ++ e :: after) before.length).Perm (before ++ after) := by
  rcases List.eq_nil_or_concat after with rfl | ⟨init, last, rfl⟩
  · simp [swapRemove]
  · rw [List.concat_eq_append]
    have hlast : (before ++ e :: (init ++ [last])).getLast? = some last := by
      rw [← List.cons_append, ← List.append_assoc, List.getLast?_concat]
    have hset : (before ++ e :: (init ++ [last])).set before.length last =
        (before ++ last :: init) ++ [last] := by
      rw [List.set_append_right _ _ (Nat.le_refl _), Nat.sub_self, List.set_cons_zero]
      simp
    have hremove : swapRemove (before ++ e :: (init ++ [last])) before.length =
        before ++ last :: init := by
      simp only [swapRemove, hlast, hset, List.dropLast_concat]
    rw [hremove]
    exact (List.perm_append_singleton last init).symm.append_left before

/-- Entries that are added come from the others. -/
lemma mem_of_mem_addAbsent {entries others : List (Value × Value)} {e : Value × Value}
    (h : e ∈ addAbsent entries others) : e ∈ entries ∨ e ∈ others := by
  induction others generalizing entries with
  | nil => exact .inl h
  | cons first others ih =>
    rw [addAbsent, List.foldl_cons] at h
    rcases ih h with h | h
    · split_ifs at h
      · exact .inl h
      · rcases List.mem_append.1 h with h | h
        · exact .inl h
        · exact .inr (List.mem_cons.2 (.inl (List.mem_singleton.1 h)))
    · exact .inr (List.mem_cons_of_mem _ h)

/-- Entries that are there stay when others are added. -/
lemma mem_addAbsent_of_mem {entries : List (Value × Value)} {e : Value × Value} (h : e ∈ entries)
    (others : List (Value × Value)) : e ∈ addAbsent entries others := by
  induction others generalizing entries with
  | nil => exact h
  | cons first others ih =>
    rw [addAbsent, List.foldl_cons]
    apply ih
    split_ifs
    · exact h
    · exact List.mem_append_left _ h

/-- The merge key is there after others are added if it is there before or among the others. -/
lemma hasMergeKey_addAbsent {entries others : List (Value × Value)} :
    HasMergeKey (addAbsent entries others) ↔ HasMergeKey entries ∨ HasMergeKey others := by
  constructor
  · rintro ⟨e, he, hkey⟩
    exact (mem_of_mem_addAbsent he).imp (fun he => ⟨e, he, hkey⟩) fun he => ⟨e, he, hkey⟩
  · rintro (⟨e, he, hkey⟩ | ⟨e, he, hkey⟩)
    · exact ⟨e, mem_addAbsent_of_mem he others, hkey⟩
    · obtain ⟨before, after, rfl⟩ := List.append_of_mem he
      rw [addAbsent, List.foldl_append, List.foldl_cons]
      change HasMergeKey (addAbsent _ after)
      split_ifs with hfound
      · rw [hkey] at hfound
        obtain ⟨v, hv⟩ := Value.isSome_find?_text_iff.1 hfound
        exact ⟨_, mem_addAbsent_of_mem hv after, rfl⟩
      · exact ⟨e, mem_addAbsent_of_mem (by simp) after, hkey⟩

/-- Entries that several mappings add come from one of them. -/
lemma mem_of_mem_foldl_addAbsent {entries : List (Value × Value)}
    {mappings : List (List (Value × Value))} {e : Value × Value}
    (h : e ∈ mappings.foldl addAbsent entries) :
    e ∈ entries ∨ ∃ others ∈ mappings, e ∈ others := by
  induction mappings generalizing entries with
  | nil => exact .inl h
  | cons first mappings ih =>
    rcases ih h with h | ⟨others, hothers, h⟩
    · rcases mem_of_mem_addAbsent h with h | h
      · exact .inl h
      · exact .inr ⟨first, List.mem_cons_self, h⟩
    · exact .inr ⟨others, List.mem_cons_of_mem _ hothers, h⟩

/-- The merge key is there after several mappings are added if it is there before or in one of
them. -/
lemma hasMergeKey_foldl_addAbsent {entries : List (Value × Value)}
    {mappings : List (List (Value × Value))} :
    HasMergeKey (mappings.foldl addAbsent entries) ↔
      HasMergeKey entries ∨ ∃ others ∈ mappings, HasMergeKey others := by
  induction mappings generalizing entries with
  | nil => simp
  | cons first mappings ih =>
    rw [List.foldl_cons, ih, hasMergeKey_addAbsent, List.exists_mem_cons_iff, or_assoc]

/-- The mappings of a list are added one by one, if there is nothing else in it. -/
lemma addItems_eq {entries merged : List (Value × Value)} {items : List Value}
    (h : addItems entries items = .ok merged) :
    merged = (offered (.list items)).foldl addAbsent entries := by
  fun_induction addItems entries items with
  | case1 entries => exact (Except.ok.inj h).symm
  | case2 entries others items ih => exact ih h
  | case3 => cases h
  | case4 => cases h
  | case5 => cases h

/-- **All that the own merge of a mapping can do**: without a merge key, nothing; with one, the
entry is removed and the mappings that it offers are added. -/
lemma takeMergeKey_cases {entries merged : List (Value × Value)}
    (h : takeMergeKey entries = .ok merged) :
    (¬ HasMergeKey entries ∧ merged = entries) ∨
      ∃ before v after, entries = before ++ (mergeKey, v) :: after ∧
        merged = (offered v).foldl addAbsent (swapRemove entries before.length) := by
  unfold takeMergeKey at h
  split at h
  · rename_i hfind
    obtain rfl := Except.ok.inj h
    refine .inl ⟨?_, rfl⟩
    rintro ⟨e, he, hkey⟩
    have hsame := List.findIdx?_eq_none_iff.1 hfind e he
    rw [hkey] at hsame
    cases hsame
  · rename_i position hfind
    obtain ⟨hlt, hkey, -⟩ := List.findIdx?_eq_some_iff_getElem.1 hfind
    have hkey : entries[position].1 = mergeKey := Value.same_text_iff.1 hkey
    refine .inr ⟨entries.take position, entries[position].2, entries.drop (position + 1), ?_, ?_⟩
    · rw [← hkey]
      exact ((List.take_append_drop position entries).symm.trans
        (congrArg _ (List.drop_eq_getElem_cons hlt)))
    · rw [List.length_take_of_le (Nat.le_of_lt hlt)]
      dsimp only at h
      rw [List.getElem?_eq_getElem hlt, Option.map_some] at h
      split at h
      · cases ‹some _ = none›
      · rename_i m hm
        obtain rfl := Except.ok.inj h
        rw [Option.some.inj hm]
        rfl
      · rename_i items hitems
        rw [Option.some.inj hitems]
        exact addItems_eq h
      · cases h
      · cases h

/-- If the keys of a mapping are distinct, it has no second merge key. -/
lemma not_hasMergeKey_of_pairwise {before after : List (Value × Value)} {v : Value}
    (h : (before ++ (mergeKey, v) :: after).Pairwise fun a b => a.1.same b.1 = false) :
    ¬ HasMergeKey (before ++ after) := by
  obtain ⟨-, hafter, hcross⟩ := List.pairwise_append.1 h
  rintro ⟨e, he, hkey⟩
  have hsame : e.1.same mergeKey = true := Value.same_text_iff.2 hkey
  rcases List.mem_append.1 he with he | he
  · have hdistinct := hcross e he (mergeKey, v) List.mem_cons_self
    rw [hsame] at hdistinct
    cases hdistinct
  · have hdistinct := List.rel_of_pairwise_cons hafter he
    rw [hkey] at hdistinct
    cases hdistinct

/-- **After its own merge, a mapping has a merge key exactly if it chains**, provided that its keys
are distinct.

**Proof sketch.** If there is a merge key, it is the only one, and its entry is removed. So a merge
key can only come from a mapping that is offered, and it does: no key hinders it. -/
lemma hasMergeKey_of_takeMergeKey {entries merged : List (Value × Value)}
    (hkeys : entries.Pairwise fun a b => a.1.same b.1 = false)
    (h : takeMergeKey entries = .ok merged) : HasMergeKey merged ↔ Chains entries := by
  rcases takeMergeKey_cases h with ⟨hnone, rfl⟩ | ⟨before, v, after, rfl, rfl⟩
  · exact ⟨fun hkey => absurd hkey hnone, fun ⟨e, he, hkey, _⟩ => absurd ⟨e, he, hkey⟩ hnone⟩
  · have hrest := not_hasMergeKey_of_pairwise hkeys
    have hremoved :
        ¬ HasMergeKey (swapRemove (before ++ (mergeKey, v) :: after) before.length) := by
      rintro ⟨e, he, hkey⟩
      exact hrest ⟨e, (swapRemove_perm before after _).mem_iff.1 he, hkey⟩
    rw [hasMergeKey_foldl_addAbsent]
    constructor
    · rintro (hkey | hoffered)
      · exact absurd hkey hremoved
      · exact ⟨(mergeKey, v), by simp, rfl, hoffered⟩
    · rintro ⟨e, he, hkey, hoffered⟩
      have hcases : e ∈ before ++ after ∨ e = (mergeKey, v) := by
        simp only [List.mem_append, List.mem_cons] at he ⊢
        tauto
      rcases hcases with he | rfl
      · exact absurd ⟨e, he, hkey⟩ hrest
      · exact .inr hoffered

/-- What is offered stands inside the value of the merge key. -/
lemma reaches_of_mem_offered {v : Value} {others : List (Value × Value)} (h : others ∈ offered v) :
    v.Reaches (.map others) := by
  unfold offered at h
  split at h
  · rw [List.mem_singleton.1 h]
    exact .refl
  · obtain ⟨item, hitem, h⟩ := List.mem_filterMap.1 h
    split at h
    · obtain rfl := Option.some.inj h
      exact .item hitem .refl
    · cases h
  · cases h

/-- The values of a mapping after its own merge stand inside the values before. -/
lemma exists_reaches_of_takeMergeKey {entries merged : List (Value × Value)}
    (h : takeMergeKey entries = .ok merged) {e : Value × Value} (he : e ∈ merged) :
    ∃ origin ∈ entries, origin.2.Reaches e.2 := by
  rcases takeMergeKey_cases h with ⟨-, rfl⟩ | ⟨before, v, after, rfl, rfl⟩
  · exact ⟨e, he, .refl⟩
  · rcases mem_of_mem_foldl_addAbsent he with he | ⟨others, hothers, he⟩
    · have he := (swapRemove_perm before after _).mem_iff.1 he
      refine ⟨e, ?_, .refl⟩
      simp only [List.mem_append, List.mem_cons] at he ⊢
      tauto
    · exact ⟨(mergeKey, v), by simp, (reaches_of_mem_offered hothers).trans (.entry he .refl)⟩

/-! ## Depth -/

/-- The items of a list are nested at most as deep as all of them together. -/
lemma depth_le_itemsDepth {items : List Value} {v : Value} (h : v ∈ items) :
    depth v ≤ itemsDepth items := by
  induction items with
  | nil => cases h
  | cons first items ih =>
    rw [itemsDepth]
    rcases List.mem_cons.1 h with rfl | h
    · exact Nat.le_max_left _ _
    · exact Nat.le_trans (ih h) (Nat.le_max_right _ _)

/-- The values of entries are nested at most as deep as all of them together. -/
lemma depth_le_entriesDepth {entries : List (Value × Value)} {e : Value × Value}
    (h : e ∈ entries) : depth e.2 ≤ entriesDepth entries := by
  induction entries with
  | nil => cases h
  | cons first entries ih =>
    rw [entriesDepth]
    rcases List.mem_cons.1 h with rfl | h
    · exact Nat.le_max_left _ _
    · exact Nat.le_trans (ih h) (Nat.le_max_right _ _)

/-- What stands inside a value is nested at most as deep. -/
lemma depth_le_of_reaches {v w : Value} (h : v.Reaches w) : depth w ≤ depth v := by
  induction h with
  | refl => exact Nat.le_refl _
  | item mem _ ih =>
    have hitem := depth_le_itemsDepth mem
    rw [depth]
    omega
  | entry mem _ ih =>
    have hentry := depth_le_entriesDepth mem
    rw [depth]
    omega
  | content _ ih =>
    rw [depth]
    omega

/-! ## All merges -/

/-- The items of a list are merged one by one. -/
lemma forall₂_of_mergeItems {merge : Value → Except MergeError Value} {items merged : List Value}
    (h : mergeItems merge items = .ok merged) :
    List.Forall₂ (fun v w => merge v = .ok w) items merged := by
  induction items generalizing merged with
  | nil =>
    obtain rfl := Except.ok.inj h
    exact .nil
  | cons v items ih =>
    obtain ⟨rest, hrest, h⟩ := exists_of_bind_eq_ok h
    obtain ⟨w, hw, h⟩ := exists_of_bind_eq_ok h
    obtain rfl := Except.ok.inj h
    exact .cons hw (ih hrest)

/-- What is merged one by one has some property somewhere exactly if it had a corresponding
property there before. -/
lemma exists_mem_iff_of_forall₂ {α β : Type} {R : α → β → Prop} {P : α → Prop} {Q : β → Prop}
    {xs : List α} {ys : List β} (h : List.Forall₂ R xs ys)
    (hPQ : ∀ x ∈ xs, ∀ y, R x y → (Q y ↔ P x)) : (∃ y ∈ ys, Q y) ↔ ∃ x ∈ xs, P x := by
  induction h with
  | nil => simp
  | cons hxy _ ih =>
    rw [List.exists_mem_cons_iff, List.exists_mem_cons_iff, hPQ _ List.mem_cons_self _ hxy,
      ih fun x hx => hPQ x (List.mem_cons_of_mem _ hx)]

/-- The values of entries are merged one by one, and their keys stay. -/
lemma forall₂_zip {R : Value → Value → Prop} {entries : List (Value × Value)} {values : List Value}
    (h : List.Forall₂ R (entries.map Prod.snd) values) :
    List.Forall₂ (fun e f => f.1 = e.1 ∧ R e.2 f.2) entries
      ((entries.map Prod.fst).zip values) := by
  induction entries generalizing values with
  | nil => simp
  | cons e entries ih =>
    cases h with
    | cons hvalue hrest => exact .cons ⟨rfl, hvalue⟩ (ih hrest)

/-! ### Parts of a value -/

/-- A list holds a merge key if one of its items does. -/
lemma holdsMergeKey_list {items : List Value} :
    HoldsMergeKey (.list items) ↔ ∃ v ∈ items, HoldsMergeKey v := by
  constructor
  · rintro ⟨entries, hreach, hkey⟩
    cases hreach with
    | item mem inside => exact ⟨_, mem, entries, inside, hkey⟩
  · rintro ⟨v, mem, entries, inside, hkey⟩
    exact ⟨entries, .item mem inside, hkey⟩

/-- A mapping holds a merge key if it has one or one of its values holds one. -/
lemma holdsMergeKey_map {entries : List (Value × Value)} :
    HoldsMergeKey (.map entries) ↔
      HasMergeKey entries ∨ ∃ e ∈ entries, HoldsMergeKey e.2 := by
  constructor
  · rintro ⟨inner, hreach, hkey⟩
    cases hreach with
    | refl => exact .inl hkey
    | entry mem inside => exact .inr ⟨_, mem, inner, inside, hkey⟩
  · rintro (hkey | ⟨e, mem, inner, inside, hkey⟩)
    · exact ⟨entries, .refl, hkey⟩
    · exact ⟨inner, .entry mem inside, hkey⟩

/-- Tags do not change whether a value holds a merge key. -/
lemma holdsMergeKey_tagged {name : Text} {v : Value} :
    HoldsMergeKey (.tagged name v) ↔ HoldsMergeKey v := by
  constructor
  · rintro ⟨entries, hreach, hkey⟩
    cases hreach with
    | content inside => exact ⟨entries, inside, hkey⟩
  · rintro ⟨entries, inside, hkey⟩
    exact ⟨entries, .content inside, hkey⟩

/-- The merge of a list keeps a merge key if the merge of one of its items does. -/
lemma keepsMergeKey_list {items : List Value} :
    KeepsMergeKey (.list items) ↔ ∃ v ∈ items, KeepsMergeKey v := by
  constructor
  · rintro ⟨entries, hvisit, hchains⟩
    cases hvisit with
    | item mem inside => exact ⟨_, mem, entries, inside, hchains⟩
  · rintro ⟨v, mem, entries, inside, hchains⟩
    exact ⟨entries, .item mem inside, hchains⟩

/-- The merge of a mapping keeps a merge key if the mapping chains, or if the merge of one of the
values does that are there after its own merge. -/
lemma keepsMergeKey_map {entries merged : List (Value × Value)}
    (h : takeMergeKey entries = .ok merged) :
    KeepsMergeKey (.map entries) ↔ Chains entries ∨ ∃ e ∈ merged, KeepsMergeKey e.2 := by
  constructor
  · rintro ⟨inner, hvisit, hchains⟩
    cases hvisit with
    | refl => exact .inl hchains
    | entry take mem inside =>
      obtain rfl := Except.ok.inj (h.symm.trans take)
      exact .inr ⟨_, mem, inner, inside, hchains⟩
  · rintro (hchains | ⟨e, mem, inner, inside, hchains⟩)
    · exact ⟨entries, .refl, hchains⟩
    · exact ⟨inner, .entry h mem inside, hchains⟩

/-- Tags do not change whether the merge of a value keeps a merge key. -/
lemma keepsMergeKey_tagged {name : Text} {v : Value} :
    KeepsMergeKey (.tagged name v) ↔ KeepsMergeKey v := by
  constructor
  · rintro ⟨entries, hvisit, hchains⟩
    cases hvisit with
    | content inside => exact ⟨entries, inside, hchains⟩
  · rintro ⟨entries, inside, hchains⟩
    exact ⟨entries, .content inside, hchains⟩

/-- A scalar holds no merge key, and its merge keeps none. -/
lemma holdsMergeKey_iff_of_isScalar {v : Value} (h : v.isScalar = true) :
    HoldsMergeKey v ↔ KeepsMergeKey v := by
  constructor
  · rintro ⟨entries, hreach, -⟩
    rw [← hreach.eq_of_isScalar h] at h
    cases h
  · rintro ⟨entries, hvisit, -⟩
    cases hvisit <;> cases h

/-- **A value holds a merge key after all merges exactly if its merge keeps one**, provided that
the keys of each mapping are distinct and that all levels are merged.

**Proof sketch.** Induction on the levels. A mapping has a merge key after its own merge exactly
if it chains (`hasMergeKey_of_takeMergeKey`). Its values after its own merge stand inside its
values before, so they have distinct keys and are one level less deep; and the keys do not change
when the values are merged. -/
lemma holdsMergeKey_iff_of_mergeDepth {n : Nat} {v w : Value} (hdepth : depth v ≤ n)
    (hkeys : v.DistinctKeys) (h : mergeDepth n v = .ok w) :
    HoldsMergeKey w ↔ KeepsMergeKey v := by
  induction n generalizing v w with
  | zero =>
    obtain rfl := Except.ok.inj h
    apply holdsMergeKey_iff_of_isScalar
    cases v <;> first | rfl | simp [depth] at hdepth
  | succ n ih =>
    cases v with
    | list items =>
      obtain ⟨values, hvalues, rfl⟩ := exists_of_map_eq_ok h
      rw [holdsMergeKey_list, keepsMergeKey_list]
      refine exists_mem_iff_of_forall₂ (forall₂_of_mergeItems hvalues) fun x hx y hxy => ?_
      have hless := depth_le_itemsDepth hx
      rw [depth] at hdepth
      exact ih (by omega) (hkeys.of_reaches (.item hx .refl)) hxy
    | map entries =>
      obtain ⟨merged, hmerged, h⟩ := exists_of_bind_eq_ok h
      obtain ⟨values, hvalues, h⟩ := exists_of_bind_eq_ok h
      obtain rfl := Except.ok.inj h
      have hentries := forall₂_zip (forall₂_of_mergeItems hvalues)
      rw [holdsMergeKey_map, keepsMergeKey_map hmerged,
        ← hasMergeKey_of_takeMergeKey (hkeys entries .refl) hmerged]
      refine or_congr ?_ (exists_mem_iff_of_forall₂ hentries ?_)
      · exact exists_mem_iff_of_forall₂ hentries fun e _ f hef => by rw [hef.1]
      · intro e he f hef
        obtain ⟨origin, horigin, hreach⟩ := exists_reaches_of_takeMergeKey hmerged he
        have hless := depth_le_of_reaches hreach
        have hentry := depth_le_entriesDepth horigin
        rw [depth] at hdepth
        exact ih (by omega) (hkeys.of_reaches (.entry horigin hreach)) hef.2
    | tagged name v =>
      obtain ⟨u, hu, rfl⟩ := exists_of_map_eq_ok h
      rw [holdsMergeKey_tagged, keepsMergeKey_tagged]
      rw [depth] at hdepth
      exact ih (by omega) (hkeys.of_reaches (.content .refl)) hu
    | _ =>
      obtain rfl := Except.ok.inj h
      exact holdsMergeKey_iff_of_isScalar rfl

end Yaml

end ChartValues
