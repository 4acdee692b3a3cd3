import ChartValues.Proofs.Host.Growth

set_option autoImplicit false

/-!
# Overwriting files

A file that has been written can be written again. Of several contents the last one stays; and where
the same content is written again, the tree is not only as good as before, it is the same.

## Main results

* `FileTree.put_put`, `FileTree.put_of_node?` — a node is put where one stands already.
* `FileTree.HoldsFile.put`, `FileTree.HoldsFile.put_same` — a file is written again.
-/

namespace ChartValues

namespace FileTree

variable {tree : FileTree} {path : Text} {place : Place} {node : Node} {content : ByteArray}

/-- Of two nodes put at a place, the second one stays. -/
lemma put_put (tree : FileTree) (place : Place) (first second : Node) :
    (tree.put place first).put place second = tree.put place second := by
  unfold put
  congr 1
  induction tree.nodes with
  | nil => simp [putNode]
  | cons entry nodes ih =>
    obtain ⟨other, node⟩ := entry
    by_cases hother : other = place
    · simp [putNode, hother]
    · simp [putNode, hother, ih]

/-- A node that is put where it stands changes nothing. -/
lemma put_of_node? (hplace : place ≠ []) (h : tree.node? place = some node) :
    tree.put place node = tree := by
  obtain ⟨nodes⟩ := tree
  simp only [node?, hplace, if_false] at h
  unfold put
  congr 1
  induction nodes with
  | nil => simp at h
  | cons entry nodes ih =>
    obtain ⟨other, found⟩ := entry
    by_cases hother : other = place
    · subst hother
      have hfound : found = node := by simpa [List.lookup_cons] using h
      simp [putNode, hfound]
    · have hne : (place == other) = false := by simpa using Ne.symm hother
      have hrest : nodes.lookup place = some node := by simpa [List.lookup_cons, hne] using h
      simp [putNode, hother, ih hrest]

/-- A file stands where its path leads. -/
lemma HoldsFile.place_eq (h : tree.HoldsFile path place content) : place = destination path :=
  eq_destination_of_follow h.follow

/-- **A file that is written again** is there with its new content. -/
lemma HoldsFile.put (h : tree.HoldsFile path place content) (again : ByteArray) :
    (tree.put place (.file again)).HoldsFile path place again := by
  obtain ⟨other, hagain, -⟩ := holdsFile_of_write (h.write again)
  rwa [hagain.place_eq, ← h.place_eq] at hagain

/-- No directory is gone where a file is written again. -/
lemma HoldsFile.keepsDirectories_put (h : tree.HoldsFile path place content)
    (again : ByteArray) : KeepsDirectories tree (tree.put place (.file again)) := by
  obtain ⟨-, -, -, hkeeps⟩ := holdsFile_of_write (h.write again)
  exact hkeeps

/-- **A file that is written again with the same content** leaves the tree as it is. -/
lemma HoldsFile.put_same (h : tree.HoldsFile path place content) :
    tree.put place (.file content) = tree :=
  put_of_node? (ne_nil_of_entryPlace? h.entry) h.node

end FileTree

end ChartValues
