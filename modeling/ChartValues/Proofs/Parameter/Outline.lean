import ChartValues.Proofs.Parameter.Sites

set_option autoImplicit false

/-!
# Files written from a tree

A tree of mappings is written as a file in block style: every key stands on a line of its own, and
the entries of a mapping stand below its key, all indented by the same blanks, deeper than the key
itself. Other values, and mappings that shall not be opened, follow their key on its line. Between
these lines any others may stand that define no key.

What is extracted from such a file are the leaves of the tree.

## Main definitions

* `Outline` — the entries of a mapping, with the layout that they are written in.
* `Outline.root` — the tree of an outline.
* `Outline.lines` — the key lines of a file that is written from an outline.
* `Outline.leaves` — the leaves of an outline, with their paths.
* `Outline.WellFormed` — the conditions under which a file can be read back.

## Main results

* `Outline.climb_lines` — a climb passes over a subtree that has ended.
* `Outline.sites_lines` — the lines of an outline document its leaves.
* `parameters_of_outline` — the parameters of a file are the leaves of its outline.
-/

namespace ChartValues

/-- The entries of a mapping, with the layout that they are written in. -/
inductive Outline where
  /-- No entries are left. -/
  | done
  /-- A key with its value on the same line, and the entries that follow. -/
  | leaf (key : BareKey) (text : InlineText) (value : Value) (rest : Outline)
  /-- A key with a mapping below it, whose entries are indented by the given blanks, and the
  entries that follow. -/
  | block (key : BareKey) (indent : Text) (entries : Outline) (rest : Outline)

namespace Outline

/-- The entries of the mapping. -/
def entries : Outline → List (Value × Value)
  | done => []
  | leaf key _ value rest => (.text key.text, value) :: rest.entries
  | block key _ inner rest => (.text key.text, .map inner.entries) :: rest.entries

/-- The tree of an outline. -/
def root (o : Outline) : Value := .map o.entries

/-- The keys of the mapping. -/
def keys : Outline → List Text
  | done => []
  | leaf key _ _ rest => key.text :: rest.keys
  | block key _ _ rest => key.text :: rest.keys

/-- The leaves below the mapping, with their paths, in the order in which they are written. -/
def leaves : Outline → List (List Text × Value)
  | done => []
  | leaf key _ value rest => ([key.text], value) :: rest.leaves
  | block key _ inner rest =>
    (inner.leaves.map fun l => (key.text :: l.1, l.2)) ++ rest.leaves

/-- The key lines of the mapping, where its own keys are indented by the given blanks. -/
def lines (pad : Text) : Outline → List Text
  | done => []
  | leaf key text _ rest => (pad ++ (key.text ++ ':' :: ' ' :: text.text)) :: rest.lines pad
  | block key indent inner rest =>
    (pad ++ (key.text ++ [':'])) :: (inner.lines indent ++ rest.lines pad)

/-- The conditions under which a mapping can be read back, where its own keys are indented by the
given blanks: leaves are not null, blocks have entries and are indented deeper than their key, and
the keys are distinct. -/
inductive WellFormed : Text → Outline → Prop where
  | done {pad : Text} : WellFormed pad .done
  | leaf {pad : Text} {key : BareKey} {text : InlineText} {value : Value} {rest : Outline}
      (notNull : value.isNull = false) (fresh : key.text ∉ rest.keys)
      (follow : WellFormed pad rest) : WellFormed pad (.leaf key text value rest)
  | block {pad : Text} {key : BareKey} {indent : Text} {inner rest : Outline}
      (notDone : inner ≠ .done) (blank : ∀ c ∈ indent, Text.isBlank c = true)
      (deeper : pad.byteLength < indent.byteLength) (below : WellFormed indent inner)
      (fresh : key.text ∉ rest.keys) (follow : WellFormed pad rest) :
      WellFormed pad (.block key indent inner rest)

/-! ## Entries -/

/-- The keys of the entries are the keys of the outline. -/
lemma exists_key_of_mem_entries {o : Outline} {e : Value × Value} (h : e ∈ o.entries) :
    ∃ key ∈ o.keys, e.1 = .text key := by
  induction o with
  | done => simp [entries] at h
  | leaf key text value rest ih =>
    rcases List.mem_cons.1 h with rfl | h
    · exact ⟨key.text, by simp [keys], rfl⟩
    · obtain ⟨other, hother, he⟩ := ih h
      exact ⟨other, by simp [keys, hother], he⟩
  | block key indent inner rest _ ih =>
    rcases List.mem_cons.1 h with rfl | h
    · exact ⟨key.text, by simp [keys], rfl⟩
    · obtain ⟨other, hother, he⟩ := ih h
      exact ⟨other, by simp [keys, hother], he⟩

/-- An entry is found below others with different keys. -/
lemma find?_cons_of_mem {o : Outline} {first : Text} (hfresh : first ∉ o.keys) (value : Value)
    {key : Text} {v : Value} (h : (.text key, v) ∈ o.entries) :
    Value.find? ((.text first, value) :: o.entries) (.text key) =
      Value.find? o.entries (.text key) := by
  obtain ⟨other, hother, hkey⟩ := exists_key_of_mem_entries h
  obtain rfl : key = other := by simpa using hkey
  have hne : (first == key) = false := by
    simp only [beq_eq_false_iff_ne, ne_eq]
    rintro rfl
    exact hfresh hother
  simp [Value.find?, Value.same, hne]

/-- Every entry is found by its key. -/
lemma find?_entries {pad : Text} {o : Outline} (ho : o.WellFormed pad) {key : Text} {v : Value}
    (h : (.text key, v) ∈ o.entries) : Value.find? o.entries (.text key) = some v := by
  induction ho with
  | done => simp [entries] at h
  | leaf notNull fresh follow ih =>
    rcases List.mem_cons.1 h with he | h
    · obtain ⟨rfl, rfl⟩ : key = _ ∧ v = _ := by simpa using he
      simp [entries, Value.find?, Value.same]
    · rw [entries, find?_cons_of_mem fresh _ h, ih h]
  | block notDone blank deeper below fresh follow _ ih =>
    rcases List.mem_cons.1 h with he | h
    · obtain ⟨rfl, rfl⟩ : key = _ ∧ v = _ := by simpa using he
      simp [entries, Value.find?, Value.same]
    · rw [entries, find?_cons_of_mem fresh _ h, ih h]

/-! ## Lines -/

/-- All lines of a mapping are key lines, indented at least as deep as its own keys. -/
lemma exists_parse?_of_mem_lines {pad : Text} {o : Outline} (ho : o.WellFormed pad)
    (hpad : ∀ c ∈ pad, Text.isBlank c = true) {line : Text} (hline : line ∈ o.lines pad) :
    ∃ found, KeyLine.parse? line = some found ∧ pad.byteLength ≤ found.indent := by
  induction ho with
  | done => cases hline
  | leaf notNull fresh follow ih =>
    rcases List.mem_cons.1 hline with rfl | hline
    · exact ⟨_, KeyLine.parse?_inline hpad _ _, le_rfl⟩
    · exact ih hpad hline
  | block notDone blank deeper below fresh follow ihBelow ih =>
    rcases List.mem_cons.1 hline with rfl | hline
    · exact ⟨_, KeyLine.parse?_opening hpad _, le_rfl⟩
    · rcases List.mem_append.1 hline with hline | hline
      · obtain ⟨found, hparse, hle⟩ := ihBelow blank hline
        exact ⟨found, hparse, deeper.le.trans hle⟩
      · exact ih hpad hline

/-- No line of a mapping is indented less than its own keys. -/
lemma atLeast_lines {pad : Text} {o : Outline} (ho : o.WellFormed pad)
    (hpad : ∀ c ∈ pad, Text.isBlank c = true) : Line.AtLeast pad.byteLength (o.lines pad) := by
  rintro line hline found hparse
  obtain ⟨other, hother, hle⟩ := exists_parse?_of_mem_lines ho hpad hline
  obtain rfl := Option.some.inj (hparse.symm.trans hother)
  exact hle

/-- All lines of a mapping are key lines. -/
lemma filter_lines {pad : Text} {o : Outline} (ho : o.WellFormed pad)
    (hpad : ∀ c ∈ pad, Text.isBlank c = true) :
    (o.lines pad).filter Line.definesKey = o.lines pad := by
  refine List.filter_eq_self.2 fun line hline => ?_
  obtain ⟨found, hparse, -⟩ := exists_parse?_of_mem_lines ho hpad hline
  simp [Line.definesKey, hparse]

/-- A climb passes over a mapping that has ended, if it starts at most as deep as its keys. -/
lemma climb_lines {pad : Text} {o : Outline} (ho : o.WellFormed pad)
    (hpad : ∀ c ∈ pad, Text.isBlank c = true) {start : Nat} (hstart : start ≤ pad.byteLength)
    (above : List Text) :
    Line.climb start ((o.lines pad).reverse ++ above) = Line.climb start above :=
  Line.climb_append_of_le
    (fun line hline => atLeast_lines ho hpad line (List.mem_reverse.1 hline)) hstart above

/-- **The lines of a mapping document its leaves**, if its own keys lead to its entries from the
place where it is written.

**Proof sketch.** Induction on the conditions of reading back. The ancestors of the next key are
those of the mapping: the lines above it are those of siblings that have ended, over which the climb
passes (`climb_lines`). Below a key that opens a block, the climb starts deeper and meets this key
first. A leaf is documented, because it is not null and follows its key on the line; a key that
opens a block is not, because no value is seen on its line and the block has entries. -/
lemma sites_lines {tree : Value} {pad : Text} {o : Outline} (ho : o.WellFormed pad)
    (hpad : ∀ c ∈ pad, Text.isBlank c = true) {path above : List Text}
    (hclimb : Line.climb pad.byteLength above = path.reverse)
    (hlead : ∀ key v, (.text key, v) ∈ o.entries → tree.resolve? (path ++ [key]) = some v) :
    sites tree above (o.lines pad) = o.leaves.map fun l => (path ++ l.1, l.2) := by
  induction ho generalizing path above with
  | done => rfl
  | @leaf pad key text value rest notNull fresh follow ih =>
    have hparse := KeyLine.parse?_inline hpad key text
    have hvalue := hlead key.text value (by simp [entries])
    have hsite : siteAt tree above (pad ++ (key.text ++ ':' :: ' ' :: text.text)) =
        some (path ++ [key.text], value) := by
      have hdocuments : documents ⟨pad.byteLength, key.text, true⟩ value = true := by
        simp [documents, opensBlock, notNull]
      simp [siteAt, hparse, KeyLine.path, hclimb, hvalue, hdocuments]
    have hnext : Line.climb pad.byteLength
        ((pad ++ (key.text ++ ':' :: ' ' :: text.text)) :: above) = path.reverse := by
      rw [Line.climb_cons_of_le hparse le_rfl, hclimb]
    rw [lines, sites, hsite, ih hpad hnext fun k v h => hlead k v (by simp [entries, h])]
    rfl
  | @block pad key indent inner rest notDone blank deeper below fresh follow ihBelow ih =>
    have hparse := KeyLine.parse?_opening hpad key
    have hvalue := hlead key.text (.map inner.entries) (by simp [entries])
    have hsite : siteAt tree above (pad ++ (key.text ++ [':'])) = none := by
      have hopens : documents ⟨pad.byteLength, key.text, false⟩ (.map inner.entries) = false := by
        cases inner with
        | done => exact absurd rfl notDone
        | leaf => rfl
        | block => rfl
      simp [siteAt, hparse, KeyLine.path, hclimb, hvalue, hopens]
    -- below the key, the climb starts deeper and meets it first
    have hbelow : Line.climb indent.byteLength ((pad ++ (key.text ++ [':'])) :: above) =
        (path ++ [key.text]).reverse := by
      rw [Line.climb_cons_of_lt hparse deeper, hclimb]
      simp
    have hinner : ∀ k v, (.text k, v) ∈ inner.entries →
        tree.resolve? (path ++ [key.text] ++ [k]) = some v := by
      intro k v h
      rw [Value.resolve?_append, hvalue]
      simp [Value.resolve?, Value.child?, Value.entries?, find?_entries below h]
    have hnext : Line.climb pad.byteLength
        ((inner.lines indent).reverse ++ (pad ++ (key.text ++ [':'])) :: above) =
          path.reverse := by
      rw [climb_lines below blank deeper.le, Line.climb_cons_of_le hparse le_rfl, hclimb]
    rw [lines, sites, hsite, sites_append, ihBelow blank hbelow hinner,
      ih hpad hnext fun k v h => hlead k v (by simp [entries, h])]
    simp [leaves]

end Outline

/-! ## Whole files -/

/-- **The parameters of a file are the leaves of its outline**: from a text that is written from an
outline, with any lines between that define no key, exactly one parameter is extracted for each
leaf, in the order of the leaves, with the path, the kind and the value of the leaf.

**Proof sketch.** Names, kinds and values depend on the key lines alone (`sites_filter`), and the
key lines of the outline document its leaves (`Outline.sites_lines`); at the top of the file
nothing stands above, and every entry is found by its key. -/
theorem parameters_of_outline {o : Outline} (ho : o.WellFormed []) {t : Text}
    (ht : Line.Padded (o.lines []) t.lines) :
    (parameters t o.root).map (fun p => (p.name, p.kind, p.shown)) =
      o.leaves.map fun l => (Text.joinWith ['.'] l.1, l.2.kind, l.2.shown) := by
  have hlead : ∀ key v, (.text key, v) ∈ o.entries → o.root.resolve? ([] ++ [key]) = some v := by
    intro key v h
    simp [Outline.root, Value.resolve?, Value.child?, Value.entries?, Outline.find?_entries ho h]
  have hlines : t.lines.filter Line.definesKey = o.lines [] := by
    rw [ht.filter_eq, Outline.filter_lines ho (by simp)]
  have hsites : (findings t o.root).map Finding.site = o.leaves := by
    rw [map_site_findings, ← sites_filter, hlines]
    have hclimb : Line.climb (Text.byteLength []) [] = ([] : List Text).reverse := by
      simp [Line.climb]
    simpa using Outline.sites_lines ho (by simp) hclimb hlead
  calc (parameters t o.root).map (fun p => (p.name, p.kind, p.shown))
      = ((findings t o.root).map Finding.site).map
          fun l => (Text.joinWith ['.'] l.1, l.2.kind, l.2.shown) := by
        rw [parameters, List.map_map, List.map_map]
        rfl
    _ = o.leaves.map fun l => (Text.joinWith ['.'] l.1, l.2.kind, l.2.shown) := by
        rw [hsites]

/-- The outline of a small values file: a block with two leaves, of which the second is a mapping
on one line, and a leaf after the block. -/
def serviceOutline : Outline :=
  .block { text := "svc".toList } [' ', ' ']
    (.leaf { text := "type".toList } { text := "NodePort".toList } (.text "NodePort".toList)
      (.leaf { text := "ports".toList } { text := "\x7bhttp: 80\x7d".toList }
        (.map [(.text "http".toList, .int 80)]) .done))
    (.leaf { text := "replicas".toList } { text := "3".toList } (.int 3) .done)

/-- A file that is written from the outline, with a banner and a comment. -/
def serviceFile : Text :=
  ("# =====\n# Net\n# =====\nsvc:\n  # Kind\n  type: NodePort\n  ports: \x7bhttp: 80\x7d\n" ++
    "\nreplicas: 3\n").toList

/-- The parameters of the small file. -/
theorem parameters_serviceFile :
    serviceOutline.WellFormed [] ∧ Line.Padded (serviceOutline.lines []) serviceFile.lines ∧
      (parameters serviceFile serviceOutline.root).map (fun p => (p.name, p.kind, p.shown)) =
        [("svc.type".toList, .string, "\x60\"NodePort\"\x60".toList),
          ("svc.ports".toList, .object, "See values.yaml".toList),
          ("replicas".toList, .int, "\x603\x60".toList)] := by
  have hwf : serviceOutline.WellFormed [] := by
    have hblank : ∀ c ∈ [' ', ' '], Text.isBlank c = true := List.all_eq_true.1 rfl
    refine .block (by simp) hblank (by decide) ?_ (by decide) (.leaf rfl (by decide) .done)
    exact .leaf rfl (by decide) (.leaf rfl (by decide) .done)
  have hkeys : serviceFile.lines.filter Line.definesKey = serviceOutline.lines [] := by decide
  have hpadded : Line.Padded (serviceOutline.lines []) serviceFile.lines := by
    rw [← hkeys]
    exact Line.padded_filter _
  exact ⟨hwf, hpadded, (parameters_of_outline hwf hpadded).trans (by decide)⟩

end ChartValues
