import ChartValues.Proofs.Line.Above
import Mathlib.Logic.Relation

set_option autoImplicit false

/-!
# Blocks of key lines

Indentation puts key lines into blocks: a key line stands under the nearest key line above it that
is indented less, and the key lines under the same line, or under none, are a block. The path of a
key line is the path of the line that it stands under, and its own key. So two key lines have the
same path only if some block repeats a key.

## Main definitions

* `Line.keyAt?`, `Line.pathAt?` — the key line with some index, and its path.
* `Line.IsParent` — a key line stands under another.
* `Line.InSameBlock` — two key lines stand under the same line, or under none.
* `Line.RepeatsKey` — two key lines, or lines that they stand under, repeat a key in a block.
* `Line.IsNearest` — the nearest key line above a place that is indented less.

## Main results

* `Line.ancestors_of_isNearest` — the ancestors go on from those of the nearest line that is
  indented less.
* `Line.isParent_unique` — a key line stands under one line at most.
* `Line.pathAt?_cases` — the path of a key line, told by the line that it stands under.
* `Line.exists_repeatsKey_of_pathAt?_eq` — lines with the same path have a key that is repeated in
  a block.
-/

namespace ChartValues

namespace Line

/-! ## Definitions -/

/-- The key line with the given index. -/
def keyAt? (lines : List Text) (index : Nat) : Option KeyLine :=
  lines[index]?.bind KeyLine.parse?

/-- The path of the key line with the given index: its ancestors and its key. -/
def pathAt? (lines : List Text) (index : Nat) : Option (List Text) :=
  (keyAt? lines index).map fun found => ancestors lines index found.indent ++ [found.key]

/-- `IsParent lines outer inner` says that the key line `inner` stands under the key line `outer`:
it is the nearest above that is indented less. -/
def IsParent (lines : List Text) (outer inner : Nat) : Prop :=
  outer < inner ∧ ∃ parent child, keyAt? lines outer = some parent ∧
    keyAt? lines inner = some child ∧ parent.indent < child.indent ∧
    ∀ between found, outer < between → between < inner → keyAt? lines between = some found →
      child.indent ≤ found.indent

/-- `InSameBlock lines first second` says that two key lines stand under the same line, or that
both stand under none. -/
def InSameBlock (lines : List Text) (first second : Nat) : Prop :=
  ∀ outer, IsParent lines outer first ↔ IsParent lines outer second

/-- `RepeatsKey lines first second block key` says that two lines in the same block have the same
key, where one of them is `first` or a line that it stands under, and the other one is `second` or
a line that this stands under. The path of the block is `block`. -/
def RepeatsKey (lines : List Text) (first second : Nat) (block : List Text) (key : Text) : Prop :=
  ∃ a b, a ≠ b ∧ Relation.ReflTransGen (IsParent lines) a first ∧
    Relation.ReflTransGen (IsParent lines) b second ∧ InSameBlock lines a b ∧
    pathAt? lines a = some (block ++ [key]) ∧ pathAt? lines b = some (block ++ [key])

/-! ## Step by step -/

variable {lines : List Text} {index indent outer : Nat} {found : KeyLine}

/-- One line more is the nearest line above. -/
lemma reverse_take_succ (lines : List Text) (index : Nat) :
    (lines.take (index + 1)).reverse = lines[index]?.toList ++ (lines.take index).reverse := by
  rw [List.take_add_one, List.reverse_append]
  cases lines[index]? <;> rfl

/-- A line above is passed over unless it is a key line that is indented less. -/
lemma ancestors_succ_of_forall_le
    (h : ∀ other, keyAt? lines index = some other → indent ≤ other.indent) :
    ancestors lines (index + 1) indent = ancestors lines index indent := by
  unfold ancestors
  rw [reverse_take_succ]
  cases hget : lines[index]? with
  | none => rfl
  | some line =>
    rw [keyAt?, hget, Option.bind_some] at h
    change (climb indent (line :: (lines.take index).reverse)).reverse = _
    cases hparse : KeyLine.parse? line with
    | none => rw [climb_cons_of_none hparse]
    | some other => rw [climb_cons_of_le hparse (h other hparse)]

/-- A key line above that is indented less is the innermost ancestor. -/
lemma ancestors_succ_of_lt (h : keyAt? lines index = some found) (hlt : found.indent < indent) :
    ancestors lines (index + 1) indent = ancestors lines index found.indent ++ [found.key] := by
  obtain ⟨line, hget, hparse⟩ := Option.bind_eq_some_iff.1 h
  unfold ancestors
  rw [reverse_take_succ, hget]
  change (climb indent (line :: (lines.take index).reverse)).reverse = _
  rw [climb_cons_of_lt hparse hlt, List.reverse_cons]

/-! ## The line above -/

/-- `IsNearest lines index indent outer found` says that the key line `found`, with the index
`outer`, is the nearest above a place that is indented less than `indent`. -/
def IsNearest (lines : List Text) (index indent outer : Nat) (found : KeyLine) : Prop :=
  outer < index ∧ keyAt? lines outer = some found ∧ found.indent < indent ∧
    ∀ between other, outer < between → between < index → keyAt? lines between = some other →
      indent ≤ other.indent

/-- A line that is passed over makes no difference to which one is the nearest. -/
lemma isNearest_succ_iff
    (h : ∀ other, keyAt? lines index = some other → indent ≤ other.indent) :
    IsNearest lines (index + 1) indent outer found ↔ IsNearest lines index indent outer found := by
  constructor
  · rintro ⟨hlt, hfound, hless, hbetween⟩
    have hne : outer ≠ index := by
      rintro rfl
      have := h found hfound
      omega
    exact ⟨by omega, hfound, hless, fun between other hgt hlt =>
      hbetween between other hgt (by omega)⟩
  · rintro ⟨hlt, hfound, hless, hbetween⟩
    refine ⟨by omega, hfound, hless, fun between other hgt hlt hother => ?_⟩
    rcases Nat.lt_succ_iff_lt_or_eq.1 hlt with hlt | rfl
    · exact hbetween between other hgt hlt hother
    · exact h other hother

/-- A key line directly above that is indented less is the nearest. -/
lemma isNearest_succ_of_lt (h : keyAt? lines index = some found) (hlt : found.indent < indent) :
    IsNearest lines (index + 1) indent index found :=
  ⟨by omega, h, hlt, fun between other hgt hlt => by omega⟩

/-- **The ancestors go on from those of the nearest line that is indented less.** -/
lemma ancestors_of_isNearest (h : IsNearest lines index indent outer found) :
    ancestors lines index indent = ancestors lines outer found.indent ++ [found.key] := by
  induction index with
  | zero => exact absurd h.1 (Nat.not_lt_zero outer)
  | succ index ih =>
    rcases Nat.lt_succ_iff_lt_or_eq.1 h.1 with hlt | rfl
    · have hpassed : ∀ other, keyAt? lines index = some other → indent ≤ other.indent :=
        fun other => h.2.2.2 index other hlt (by omega)
      rw [ancestors_succ_of_forall_le hpassed, ih ((isNearest_succ_iff hpassed).1 h)]
    · exact ancestors_succ_of_lt h.2.1 h.2.2.1

/-- Where no line above is indented less, there are no ancestors. -/
lemma ancestors_of_forall_not_isNearest
    (h : ∀ outer found, ¬ IsNearest lines index indent outer found) :
    ancestors lines index indent = [] := by
  induction index with
  | zero => rfl
  | succ index ih =>
    have hpassed : ∀ other, keyAt? lines index = some other → indent ≤ other.indent := by
      intro other hother
      by_contra hlt
      exact h index other (isNearest_succ_of_lt hother (by omega))
    rw [ancestors_succ_of_forall_le hpassed]
    exact ih fun outer found hnearest =>
      h outer found ((isNearest_succ_iff hpassed).2 hnearest)

/-- The line that a key line stands under is the nearest above that is indented less. -/
lemma isParent_iff_exists_isNearest {inner : Nat} :
    IsParent lines outer inner ↔ ∃ parent child, keyAt? lines inner = some child ∧
      IsNearest lines inner child.indent outer parent := by
  constructor
  · rintro ⟨hlt, parent, child, hparent, hchild, hless, hbetween⟩
    exact ⟨parent, child, hchild, hlt, hparent, hless, hbetween⟩
  · rintro ⟨parent, child, hchild, hlt, hparent, hless, hbetween⟩
    exact ⟨hlt, parent, child, hparent, hchild, hless, hbetween⟩

/-- A key line stands under one line at most. -/
lemma isParent_unique {outer' inner : Nat} (h : IsParent lines outer inner)
    (h' : IsParent lines outer' inner) : outer = outer' := by
  obtain ⟨hlt, parent, child, hparent, hchild, hless, hbetween⟩ := h
  obtain ⟨hlt', parent', child', hparent', hchild', hless', hbetween'⟩ := h'
  obtain rfl := Option.some.inj (hchild.symm.trans hchild')
  rcases Nat.lt_trichotomy outer outer' with h | h | h
  · have := hbetween outer' parent' h hlt' hparent'
    omega
  · exact h
  · have := hbetween' outer parent h hlt hparent
    omega

/-- A path ends in the key of its line. -/
lemma exists_of_pathAt? {path : List Text} (h : pathAt? lines index = some path) :
    ∃ found, keyAt? lines index = some found ∧
      path = ancestors lines index found.indent ++ [found.key] := by
  obtain ⟨found, hfound, hpath⟩ := Option.map_eq_some_iff.1 h
  exact ⟨found, hfound, hpath.symm⟩

/-- **The path of a key line goes on from the path of the line that it stands under**; if it stands
under none, its own key is all of it. -/
lemma pathAt?_cases {block : List Text} {key : Text}
    (h : pathAt? lines index = some (block ++ [key])) :
    ((∀ outer, ¬ IsParent lines outer index) ∧ block = []) ∨
      ∃ outer, IsParent lines outer index ∧ pathAt? lines outer = some block := by
  obtain ⟨child, hchild, hpath⟩ := exists_of_pathAt? h
  obtain ⟨rfl, -⟩ := List.append_inj' hpath rfl
  by_cases hnone : ∀ outer parent, ¬ IsNearest lines index child.indent outer parent
  · refine .inl ⟨fun outer hparent => ?_, ancestors_of_forall_not_isNearest hnone⟩
    obtain ⟨parent, child', hchild', hnearest⟩ := isParent_iff_exists_isNearest.1 hparent
    obtain rfl := Option.some.inj (hchild.symm.trans hchild')
    exact hnone outer parent hnearest
  · push Not at hnone
    obtain ⟨outer, parent, hnearest⟩ := hnone
    refine .inr ⟨outer, isParent_iff_exists_isNearest.2 ⟨parent, child, hchild, hnearest⟩, ?_⟩
    rw [pathAt?, hnearest.2.1, Option.map_some, ancestors_of_isNearest hnearest]

/-- Two lines in the same block: they stand under the same line, or both under none. -/
lemma inSameBlock_of_isParent {outer first second : Nat} (hfirst : IsParent lines outer first)
    (hsecond : IsParent lines outer second) : InSameBlock lines first second := by
  intro other
  constructor
  · intro h
    rwa [isParent_unique h hfirst]
  · intro h
    rwa [isParent_unique h hsecond]

/-! ## Lines with the same path -/

/-- **Lines with the same path have a key that is repeated in a block.**

**Proof sketch.** Induction on the first line. Both lines stand under some line or both under none,
since their paths are equally long. If they stand under the same line or under none, they are in
the same block themselves. Otherwise the two lines that they stand under have the same path. -/
lemma exists_repeatsKey_of_pathAt?_eq {first second : Nat} (hne : first ≠ second)
    {path : List Text} (hfirst : pathAt? lines first = some path)
    (hsecond : pathAt? lines second = some path) :
    ∃ block key, RepeatsKey lines first second block key ∧ block ++ [key] <+: path := by
  induction first using Nat.strong_induction_on generalizing second path with
  | _ first ih =>
  obtain ⟨found, -, hpath⟩ := exists_of_pathAt? hfirst
  -- how the path was climbed does not matter any more, only that it ends in the key of the line
  generalize ancestors lines first found.indent = block at hpath
  subst hpath
  have hself : InSameBlock lines first second → ∃ block' key,
      RepeatsKey lines first second block' key ∧ block' ++ [key] <+: block ++ [found.key] :=
    fun h => ⟨block, found.key, ⟨first, second, hne, .refl, .refl, h, hfirst, hsecond⟩,
      List.prefix_rfl⟩
  rcases pathAt?_cases hfirst with ⟨htop, hblock⟩ | ⟨outer, hparent, houter⟩
  · rcases pathAt?_cases hsecond with ⟨htop', -⟩ | ⟨outer', -, houter'⟩
    · exact hself fun outer => iff_of_false (htop outer) (htop' outer)
    · obtain ⟨found', -, hpath⟩ := exists_of_pathAt? houter'
      simp [hblock] at hpath
  · rcases pathAt?_cases hsecond with ⟨-, hblock⟩ | ⟨outer', hparent', houter'⟩
    · obtain ⟨found', -, hpath⟩ := exists_of_pathAt? houter
      simp [hblock] at hpath
    · by_cases hsame : outer = outer'
      · subst hsame
        exact hself (inSameBlock_of_isParent hparent hparent')
      · obtain ⟨block', key, ⟨a, b, hab, ha, hb, hrest⟩, hbegins⟩ :=
          ih outer hparent.1 hsame houter houter'
        exact ⟨block', key, ⟨a, b, hab, ha.tail hparent, hb.tail hparent', hrest⟩,
          hbegins.trans (List.prefix_append _ _)⟩

end Line

end ChartValues
