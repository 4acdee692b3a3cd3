import ChartValues.Proofs.Parameter.Sections
import ChartValues.Proofs.ValuesFile
import ChartValues.Proofs.Yaml.TextKeys

set_option autoImplicit false

/-!
# Overlapping parameters

The tree holds every key once, but the paths of key lines are guessed from their indentation. So
two lines can document the same path, and a line can be documented beside lines that document what
is inside its value. The first happens only if a block of key lines repeats a key; the second
happens exactly where the line of the outer key shows a value.

## Main results

* `everywhere_hasDistinctTexts_of_parseValues` — the tree of a values file holds text keys once.
* `repeatsKey_of_path_eq` — when two lines document the same path.
* `isSome_findingAt_iff_hasInlineValue` — when a key is documented beside what is inside its value.
-/

namespace ChartValues

/-! ## The same path twice -/

/-- The tree of a values file holds every text key once. -/
lemma everywhere_hasDistinctTexts_of_parseValues {t : Text} {root : Value}
    (h : parseValues t = .ok root) : root.Everywhere Value.HasDistinctTexts := by
  obtain ⟨v, hv, hmerge⟩ := exists_of_parseValues h
  refine Yaml.everywhere_hasDistinctTexts_of_mergeDepth ?_ hmerge
  intro entries hreach
  exact Value.hasDistinctTexts_of_pairwise (Yaml.distinctKeys_value hv entries hreach)

/-- The last key of a path that leads somewhere is a key of the mapping before it. -/
lemma exists_entries_of_resolve?_append {root v : Value} {path : List Text} {key : Text}
    (h : root.resolve? (path ++ [key]) = some v) :
    ∃ w entries, root.resolve? path = some w ∧ w.entries? = some entries ∧
      Value.find? entries (.text key) = some v := by
  rw [Value.resolve?_append] at h
  obtain ⟨w, hw, h⟩ := Option.bind_eq_some_iff.1 h
  obtain ⟨u, hu, h⟩ := Option.bind_eq_some_iff.1 h
  obtain rfl := Option.some.inj h
  obtain ⟨entries, hentries, hfind⟩ := Option.bind_eq_some_iff.1 hu
  exact ⟨w, entries, hw, hentries, hfind⟩

/-- **Two lines document the same path only if a block repeats a key**: in the text of a values
file, the two lines or lines that they stand under are in the same block of key lines and have the
same key. The mapping of the tree at the path of this block holds the key only once, so that at
most one of the two lines can be the one that gave it to the tree. What both lines document is the
same value, under the same name.

**Proof sketch.** The two lines have the same path, so that some block repeats a key
(`Line.exists_repeatsKey_of_pathAt?_eq`). The path of the repeated key is the beginning of a path
that leads somewhere, so it leads somewhere itself, and the mapping where it ends has distinct text
keys, since reading refuses equal keys and merging adds absent ones only. -/
theorem repeatsKey_of_path_eq {t : Text} {root : Value} (h : parseValues t = .ok root)
    {first second : Nat} (hne : first ≠ second) {f g : Finding}
    (hfirst : findingAt t.lines root first = some f)
    (hsecond : findingAt t.lines root second = some g) (hpath : f.path = g.path) :
    (∃ block key, Line.RepeatsKey t.lines first second block key ∧ block ++ [key] <+: f.path ∧
      ∃ v entries, root.resolve? block = some v ∧ v.entries? = some entries ∧
        Value.keyCount entries key = 1) ∧
      f.parameter.name = g.parameter.name ∧ f.parameter.kind = g.parameter.kind ∧
      f.parameter.shown = g.parameter.shown := by
  obtain ⟨-, -, hlineF, hvalueF, -⟩ := exists_of_findingAt hfirst
  obtain ⟨-, -, hlineG, hvalueG, -⟩ := exists_of_findingAt hsecond
  rw [← hpath] at hlineG hvalueG
  have hvalue : f.value = g.value := Option.some.inj (hvalueF.symm.trans hvalueG)
  refine ⟨?_, by simp [Finding.parameter, hpath], by simp [Finding.parameter, hvalue],
    by simp [Finding.parameter, hvalue]⟩
  obtain ⟨block, key, hrepeats, rest, hrest⟩ :=
    Line.exists_repeatsKey_of_pathAt?_eq hne hlineF hlineG
  rw [← hrest, Value.resolve?_append] at hvalueF
  obtain ⟨w, hw, -⟩ := Option.bind_eq_some_iff.1 hvalueF
  obtain ⟨v, entries, hv, hentries, hfind⟩ := exists_entries_of_resolve?_append hw
  have hreach : root.Reaches (.map entries) :=
    (Value.Reaches.of_resolve? hv).trans (.of_entries? hentries)
  have hkeys := everywhere_hasDistinctTexts_of_parseValues h entries hreach
  exact ⟨block, key, hrepeats, ⟨rest, hrest⟩, v, entries, hv, hentries,
    hkeys.keyCount_eq_one hfind⟩

/-- A values file with a quoted key, whose block looks as if it belonged to the key before. -/
def quotedParent : Text :=
  "a:\n  # About a\n  x: 1\n\"b\":\n  # About b\n  x: 2\n".toList

/-- Two lines of the file with a quoted key document the same path, each with its own comment. -/
lemma exists_findings_of_quotedParent :
    ∃ root f g, parseValues quotedParent = .ok root ∧
      findingAt quotedParent.lines root 2 = some f ∧
      findingAt quotedParent.lines root 5 = some g ∧ f.path = g.path ∧
      f.comments ≠ g.comments := by
  have hcheck : (parseValues quotedParent).toOption.any (fun root =>
      (findingAt quotedParent.lines root 2).any fun f =>
        (findingAt quotedParent.lines root 5).any fun g =>
          f.path == g.path && f.comments != g.comments) = true := by decide +kernel
  obtain ⟨root, hroot, hcheck⟩ := exists_root_of_any hcheck
  obtain ⟨f, hf, hcheck⟩ := (Option.any_eq_true _ _).1 hcheck
  obtain ⟨g, hg, hcheck⟩ := (Option.any_eq_true _ _).1 hcheck
  obtain ⟨hpath, hcomments⟩ := Bool.and_eq_true_iff.1 hcheck
  exact ⟨root, f, g, hroot, hf, hg, by simpa using hpath, by simpa using hcomments⟩

/-- In the file with a quoted key, the block below `a` repeats the key `x`, because the quoted key
is no key line. The tree holds `x` once below `a`. -/
theorem repeatsKey_quotedParent :
    ∃ root f g, parseValues quotedParent = .ok root ∧
      findingAt quotedParent.lines root 2 = some f ∧
      findingAt quotedParent.lines root 5 = some g ∧ f.path = g.path ∧
      (∃ block key, Line.RepeatsKey quotedParent.lines 2 5 block key ∧
        block ++ [key] <+: f.path ∧ ∃ v entries, root.resolve? block = some v ∧
          v.entries? = some entries ∧ Value.keyCount entries key = 1) ∧
      f.parameter.name = g.parameter.name ∧ f.parameter.kind = g.parameter.kind ∧
      f.parameter.shown = g.parameter.shown := by
  obtain ⟨root, f, g, hroot, hf, hg, hpath, -⟩ := exists_findings_of_quotedParent
  exact ⟨root, f, g, hroot, hf, hg, hpath,
    repeatsKey_of_path_eq hroot (by decide) hf hg hpath⟩

/-- A path can be documented twice: two lines of the file with a quoted key document the same one,
and the comment of the second is not about it. -/
theorem path_eq_quotedParent :
    ∃ root first second f g, parseValues quotedParent = .ok root ∧ first ≠ second ∧
      findingAt quotedParent.lines root first = some f ∧
      findingAt quotedParent.lines root second = some g ∧ f.path = g.path ∧
      f.comments ≠ g.comments := by
  obtain ⟨root, f, g, hroot, hf, hg, hpath, hcomments⟩ := exists_findings_of_quotedParent
  exact ⟨root, 2, 5, f, g, hroot, by decide, hf, hg, hpath, hcomments⟩

/-! ## A key beside what is inside its value -/

/-- A value that has entries is not null. -/
lemma isNull_of_entries? {v : Value} {entries : List (Value × Value)}
    (h : v.entries? = some entries) : v.isNull = false := by
  fun_induction Value.entries? v with
  | case1 => rfl
  | case2 name v ih => exact ih h
  | case3 => cases h

/-- **A key is documented beside what is inside its value exactly if its line shows a value.** If
some line documents a path that goes on from the path of a key line, this key line is documented as
well exactly if something other than an anchor or a comment follows its colon.

**Proof sketch.** The longer path leads somewhere, so the shorter one leads to a mapping that has
entries. It is not null, and whether the key line only opens its block is told by the line alone. -/
theorem isSome_findingAt_iff_hasInlineValue {t : Text} {root : Value} {outer inner : Nat}
    {found : KeyLine} {path : List Text} {g : Finding}
    (hkey : Line.keyAt? t.lines outer = some found)
    (hpath : Line.pathAt? t.lines outer = some path)
    (hinner : findingAt t.lines root inner = some g) (hbegins : path <+: g.path)
    (hne : path ≠ g.path) :
    (findingAt t.lines root outer).isSome = true ↔ found.hasInlineValue = true := by
  obtain ⟨-, -, -, hvalue, -⟩ := exists_of_findingAt hinner
  obtain ⟨rest, hrest⟩ := hbegins
  rw [← hrest, Value.resolve?_append] at hvalue
  obtain ⟨v, hv, hvalue⟩ := Option.bind_eq_some_iff.1 hvalue
  rw [isSome_findingAt_iff hkey hpath hv]
  cases rest with
  | nil => exact absurd (by simpa using hrest) hne
  | cons key rest =>
    obtain ⟨w, hw, -⟩ := Option.bind_eq_some_iff.1 hvalue
    obtain ⟨entries, hentries, hfind⟩ := Option.bind_eq_some_iff.1 hw
    have hsome : entries ≠ [] := by
      rintro rfl
      cases hfind
    simp [documents, opensBlock, isNull_of_entries? hentries, hentries, hsome]

/-- A values file with a tag on the line of a key that only opens a block. -/
def taggedParent : Text := "a: !!map\n  x: 1\n".toList

/-- In the file with a tag, both lines find something. -/
lemma exists_findings_of_taggedParent :
    ∃ root f g, parseValues taggedParent = .ok root ∧
      findingAt taggedParent.lines root 0 = some f ∧
      findingAt taggedParent.lines root 1 = some g ∧ f.path = [['a']] ∧
      g.path = [['a'], ['x']] := by
  have hcheck : (parseValues taggedParent).toOption.any (fun root =>
      (findingAt taggedParent.lines root 0).any fun f =>
        (findingAt taggedParent.lines root 1).any fun g =>
          f.path == [['a']] && g.path == [['a'], ['x']]) = true := by decide +kernel
  obtain ⟨root, hroot, hcheck⟩ := exists_root_of_any hcheck
  obtain ⟨f, hf, hcheck⟩ := (Option.any_eq_true _ _).1 hcheck
  obtain ⟨g, hg, hcheck⟩ := (Option.any_eq_true _ _).1 hcheck
  obtain ⟨houter, hinner⟩ := Bool.and_eq_true_iff.1 hcheck
  exact ⟨root, f, g, hroot, hf, hg, by simpa using houter, by simpa using hinner⟩

/-- In the file with a tag, the tag counts as a value on the line of the outer key, so that this key
is documented beside the inner one. -/
theorem isSome_findingAt_taggedParent :
    ∃ root g, parseValues taggedParent = .ok root ∧
      Line.keyAt? taggedParent.lines 0 = some ⟨0, ['a'], true⟩ ∧
      Line.pathAt? taggedParent.lines 0 = some [['a']] ∧
      findingAt taggedParent.lines root 1 = some g ∧ [['a']] <+: g.path ∧ [['a']] ≠ g.path ∧
      (findingAt taggedParent.lines root 0).isSome = true := by
  obtain ⟨root, -, g, hroot, -, hg, -, hpath⟩ := exists_findings_of_taggedParent
  have hkey : Line.keyAt? taggedParent.lines 0 = some ⟨0, ['a'], true⟩ := by decide
  have houter : Line.pathAt? taggedParent.lines 0 = some [['a']] := by decide
  have hbegins : [['a']] <+: g.path := by
    rw [hpath]
    exact ⟨[['x']], rfl⟩
  have hne : [['a']] ≠ g.path := by simp [hpath]
  exact ⟨root, g, hroot, hkey, houter, hg, hbegins, hne,
    (isSome_findingAt_iff_hasInlineValue hkey houter hg hbegins hne).2 rfl⟩

/-- A key that only opens a block can be documented beside what is inside its value: the two lines
of the file with a tag do so. -/
theorem path_prefix_taggedParent :
    ∃ root outer inner f g, parseValues taggedParent = .ok root ∧
      findingAt taggedParent.lines root outer = some f ∧
      findingAt taggedParent.lines root inner = some g ∧ f.path <+: g.path ∧
      f.path ≠ g.path := by
  obtain ⟨root, f, g, hroot, hf, hg, houter, hinner⟩ := exists_findings_of_taggedParent
  refine ⟨root, 0, 1, f, g, hroot, hf, hg, ?_, by simp [houter, hinner]⟩
  rw [houter, hinner]
  exact ⟨[['x']], rfl⟩

end ChartValues
