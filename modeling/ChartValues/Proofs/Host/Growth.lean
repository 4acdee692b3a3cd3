import ChartValues.Host.FileTree
import Mathlib.Data.List.TakeWhile

set_option autoImplicit false

/-!
# Growing file trees

Adding a directory to a tree changes nothing that stood there, and writing a file changes nothing
but the file. Either way all directories stay, so that a path that could be followed can still be
followed: it leads to the same place.

## Main definitions

* `FileTree.GrowsAt`, `FileTree.Grows` — nothing but directories has been added.
* `FileTree.KeepsDirectories` — no directory is gone.
* `FileTree.destination` — the place that a path leads to, told by its segments.
* `FileTree.LeadsToDirectory`, `FileTree.HoldsFile` — what a path leads to.

## Main results

* `FileTree.walk_of_keepsDirectories` — segments lead to the same place while directories stay.
* `FileTree.eq_destination_of_follow` — where a path leads does not depend on the tree.
* `FileTree.follow_of_entryPlace?` — a path leads to the entry at its place.
* `FileTree.grows_of_addDirectory` — what adding a directory does.
* `FileTree.holdsFile_of_write` — what writing a file does.
-/

namespace ChartValues

/-! ## Ends of paths -/

/-- Only a path that ends in a slash has nothing behind its last slash. -/
lemma Path.eq_nil_or_getLast?_of_getLast?_segments {path : Text}
    (h : (segments path).getLast? = some []) : path = [] ∨ path.getLast? = some '/' := by
  induction path with
  | nil => exact .inl rfl
  | cons c t ih =>
    right
    rw [segments] at h
    split_ifs at h with hc
    · rw [List.getLast?_cons_of_ne_nil (segments_ne_nil t)] at h
      rcases ih h with rfl | hlast
      · simp [hc]
      · rw [List.getLast?_cons, hlast]
        rfl
    · obtain ⟨s, rest, hsegments⟩ := List.exists_cons_of_ne_nil (segments_ne_nil t)
      rw [hsegments] at h ih
      cases rest with
      | nil => simp at h
      | cons next rest =>
        have hlast : (s :: next :: rest).getLast? = some [] := by simpa using h
        rcases ih hlast with rfl | hlast
        · simp [segments] at hsegments
        · rw [List.getLast?_cons, hlast]
          rfl

/-- The segments of a path around its last name. Empty segments follow only if the path ends in a
slash. -/
lemma Path.segments_eq_of_dropWhile {path name : Text} {above : List Text}
    (h : (segments path).reverse.dropWhile List.isEmpty = name :: above) :
    name.isEmpty = false ∧ ∃ tail, segments path = above.reverse ++ name :: tail ∧
      (∀ segment ∈ tail, segment.isEmpty) ∧
      (path ≠ [] → path.getLast? ≠ some '/' → tail = []) := by
  have hname : name.isEmpty = false := by
    have hhead := List.head?_dropWhile_not List.isEmpty (segments path).reverse
    rw [h] at hhead
    simpa using hhead
  have hsplit : segments path =
      above.reverse ++ name :: ((segments path).reverse.takeWhile List.isEmpty).reverse :=
    calc segments path
        = ((segments path).reverse.takeWhile List.isEmpty
            ++ (segments path).reverse.dropWhile List.isEmpty).reverse := by
          rw [List.takeWhile_append_dropWhile, List.reverse_reverse]
      _ = above.reverse ++ name :: ((segments path).reverse.takeWhile List.isEmpty).reverse := by
          rw [h, List.reverse_append, List.reverse_cons, List.append_assoc, List.singleton_append]
  have hempty : ∀ segment ∈ ((segments path).reverse.takeWhile List.isEmpty).reverse,
      segment.isEmpty :=
    fun segment hsegment => List.mem_takeWhile_imp (List.mem_reverse.1 hsegment)
  refine ⟨hname, _, hsplit, hempty, fun hpath hend => ?_⟩
  generalize ((segments path).reverse.takeWhile List.isEmpty).reverse = tail at hsplit hempty
  rcases List.eq_nil_or_concat tail with rfl | ⟨rest, segment, rfl⟩
  · rfl
  · have hsegment : segment = [] := by simpa using hempty segment (by simp)
    have hlast : (segments path).getLast? = some [] := by
      rw [hsplit, hsegment, List.concat_eq_append, ← List.cons_append, ← List.append_assoc,
        List.getLast?_concat]
    rcases eq_nil_or_getLast?_of_getLast?_segments hlast with hnil | hslash
    · exact absurd hnil hpath
    · exact absurd hslash hend

namespace FileTree

variable {tree before between after : FileTree} {path : Text} {place : Place}
  {content : ByteArray}

/-! ## Growth -/

/-- At a place nothing has changed, or a directory has been added. -/
def GrowsAt (before after : FileTree) (place : Place) : Prop :=
  after.node? place = before.node? place ∨
    before.node? place = none ∧ after.node? place = some .directory

/-- Nothing has changed but that directories have been added. -/
def Grows (before after : FileTree) : Prop := ∀ place, GrowsAt before after place

/-- No directory is gone. -/
def KeepsDirectories (before after : FileTree) : Prop :=
  ∀ place, before.node? place = some .directory → after.node? place = some .directory

lemma Grows.refl (tree : FileTree) : Grows tree tree := fun _ => .inl rfl

lemma GrowsAt.trans (h : GrowsAt before between place) (h' : GrowsAt between after place) :
    GrowsAt before after place := by
  rcases h' with h' | ⟨hnone, hdirectory⟩
  · rcases h with h | ⟨hnone, hdirectory⟩
    · exact .inl (h'.trans h)
    · exact .inr ⟨hnone, h'.trans hdirectory⟩
  · rcases h with h | ⟨-, hother⟩
    · exact .inr ⟨h.symm.trans hnone, hdirectory⟩
    · rw [hother] at hnone
      cases hnone

lemma Grows.trans (h : Grows before between) (h' : Grows between after) : Grows before after :=
  fun place => (h place).trans (h' place)

/-- What stands at a place stays there. -/
lemma GrowsAt.node?_eq (h : GrowsAt before after place) {node : Node}
    (hnode : before.node? place = some node) : after.node? place = some node := by
  rcases h with h | ⟨hnone, -⟩
  · exact h.trans hnode
  · rw [hnone] at hnode
    cases hnode

lemma Grows.node?_eq (h : Grows before after) {node : Node}
    (hnode : before.node? place = some node) : after.node? place = some node :=
  (h place).node?_eq hnode

lemma Grows.keepsDirectories (h : Grows before after) : KeepsDirectories before after :=
  fun _ => h.node?_eq

/-! ## Following paths -/

/-- Segments in a row are followed one after the other. -/
lemma walk_append (tree : FileTree) (place : Place) (segments rest : List Text) :
    tree.walk place (segments ++ rest) = (tree.walk place segments).bind (tree.walk · rest) := by
  induction segments generalizing place with
  | nil => rfl
  | cons segment segments ih =>
    rw [List.cons_append, walk, walk]
    split
    · rfl
    · rfl
    · exact ih _

/-- **Segments lead to the same place while directories stay.** -/
lemma walk_of_keepsDirectories (hkeeps : KeepsDirectories before after) {start : Place}
    {segments : List Text} (h : before.walk start segments = .ok place) :
    after.walk start segments = .ok place := by
  induction segments generalizing start with
  | nil => exact h
  | cons segment segments ih =>
    rw [walk] at h
    split at h
    · cases h
    · cases h
    · rename_i hnode
      rw [walk, hkeeps start hnode]
      exact ih h

/-- Empty segments lead from a directory to itself. -/
lemma walk_of_isEmpty (h : tree.node? place = some .directory) {segments : List Text}
    (hsegments : ∀ segment ∈ segments, segment.isEmpty) :
    tree.walk place segments = .ok place := by
  induction segments with
  | nil => rfl
  | cons segment segments ih =>
    obtain ⟨hsegment, hsegments⟩ := List.forall_mem_cons.1 hsegments
    have hstep : step place segment = place := by
      simp [step, Path.isIdle, hsegment]
    rw [walk, h]
    change tree.walk (step place segment) segments = .ok place
    rw [hstep, ih hsegments]

/-- Where a path leads, and to what. -/
lemma follow_eq_ok_iff {node : Node} : tree.follow path = .ok (place, node) ↔
    path ≠ [] ∧ tree.walk [] (Path.segments path) = .ok place ∧ tree.node? place = some node := by
  unfold follow
  dsimp only
  by_cases hpath : path = []
  · simp [hpath, bind, Except.bind]
  · rw [if_neg (by simpa using hpath)]
    cases hwalk : tree.walk [] (Path.segments path) with
    | error e => simp [bind, Except.bind]
    | ok other =>
      simp only [bind, Except.bind, pure, Except.pure, ne_eq, hpath, not_false_eq_true, true_and,
        Except.ok.injEq]
      cases hnode : tree.node? other with
      | none =>
        simp only [reduceCtorEq, false_iff, not_and]
        rintro rfl
        simp [hnode]
      | some found =>
        simp only [Except.ok.injEq, Prod.mk.injEq]
        constructor
        · rintro ⟨rfl, rfl⟩
          exact ⟨rfl, hnode⟩
        · rintro ⟨rfl, hfound⟩
          exact ⟨rfl, Option.some.inj (hnode.symm.trans hfound)⟩

/-- The place that a path leads to wherever it leads anywhere. It is told by the segments alone. -/
def destination (path : Text) : Place := (Path.segments path).foldl step []

/-- Where segments lead does not depend on the tree. -/
lemma eq_foldl_of_walk {start : Place} {segments : List Text}
    (h : tree.walk start segments = .ok place) : place = segments.foldl step start := by
  induction segments generalizing start with
  | nil => exact (Except.ok.inj h).symm
  | cons segment segments ih =>
    rw [walk] at h
    split at h
    · cases h
    · cases h
    · exact ih h

/-- **A path leads to its destination in every tree** in which it leads anywhere. -/
lemma eq_destination_of_follow {node : Node} (h : tree.follow path = .ok (place, node)) :
    place = destination path :=
  eq_foldl_of_walk (follow_eq_ok_iff.1 h).2.1

/-- A path leads to what stands at its place while directories stay. -/
lemma follow_of_keepsDirectories (hkeeps : KeepsDirectories before after) {node other : Node}
    (h : before.follow path = .ok (place, node)) (hother : after.node? place = some other) :
    after.follow path = .ok (place, other) := by
  obtain ⟨hpath, hwalk, -⟩ := follow_eq_ok_iff.1 h
  exact follow_eq_ok_iff.2 ⟨hpath, walk_of_keepsDirectories hkeeps hwalk, hother⟩

/-- The path leads to a directory. -/
def LeadsToDirectory (tree : FileTree) (path : Text) : Prop :=
  ∃ place, tree.follow path = .ok (place, .directory)

/-- A path leads to its directory while directories stay. -/
lemma LeadsToDirectory.of_keepsDirectories (hkeeps : KeepsDirectories before after)
    (h : before.LeadsToDirectory path) : after.LeadsToDirectory path := by
  obtain ⟨place, h⟩ := h
  have hnode := hkeeps place (follow_eq_ok_iff.1 h).2.2
  exact ⟨place, follow_of_keepsDirectories hkeeps h hnode⟩

/-! ## Places for entries -/

/-- The place for a new entry is below a directory that its path leads through. -/
lemma entryPlace?_eq_some_iff : tree.entryPlace? path = .ok (some place) ↔
    path ≠ [] ∧ ∃ name above parent,
      (Path.segments path).reverse.dropWhile List.isEmpty = name :: above ∧
        tree.walk [] above.reverse = .ok parent ∧ tree.node? parent = some .directory ∧
        name ≠ ['.'] ∧ name ≠ ['.', '.'] ∧ parent ++ [name] = place := by
  unfold entryPlace?
  dsimp only
  by_cases hpath : path = []
  · simp [hpath, bind, Except.bind]
  · rw [if_neg (by simpa using hpath)]
    cases hsegments : (Path.segments path).reverse.dropWhile List.isEmpty with
    | nil => simp [pure, Except.pure]
    | cons name above =>
      cases hwalk : tree.walk [] above.reverse with
      | error e => simp [bind, Except.bind, hwalk]
      | ok parent =>
        rcases hnode : tree.node? parent with _ | _ | _
        · simp [bind, Except.bind, hwalk, hnode]
        · by_cases hdots : name = ['.'] ∨ name = ['.', '.']
          · rcases hdots with rfl | rfl <;>
              simp [bind, Except.bind, pure, Except.pure, hwalk, hnode]
          · obtain ⟨hdot, hdots⟩ := not_or.1 hdots
            simp only [bind, Except.bind, pure, Except.pure, hwalk, hnode, hdot, hdots,
              decide_false, Bool.or_self, Bool.false_eq_true, if_false, Except.ok.injEq,
              Option.some.injEq]
            constructor
            · intro hplace
              exact ⟨hpath, name, above, parent, rfl, hwalk, hnode, hdot, hdots, hplace⟩
            · rintro ⟨-, _, _, other, hcons, hother, -, -, -, hplace⟩
              obtain ⟨rfl, rfl⟩ := List.cons.inj hcons
              rw [Except.ok.inj (hwalk.symm.trans hother)]
              exact hplace
        · simp [bind, Except.bind, hwalk, hnode]

/-- The place for an entry is not the top. -/
lemma ne_nil_of_entryPlace? (h : tree.entryPlace? path = .ok (some place)) : place ≠ [] := by
  obtain ⟨-, name, -, parent, -, -, -, -, -, rfl⟩ := entryPlace?_eq_some_iff.1 h
  simp

/-- The place for an entry stays the same while directories stay. -/
lemma entryPlace?_of_keepsDirectories (hkeeps : KeepsDirectories before after)
    (h : before.entryPlace? path = .ok (some place)) :
    after.entryPlace? path = .ok (some place) := by
  rw [entryPlace?_eq_some_iff] at h ⊢
  obtain ⟨hpath, name, above, parent, hsegments, hwalk, hnode, hdots⟩ := h
  exact ⟨hpath, name, above, parent, hsegments, walk_of_keepsDirectories hkeeps hwalk,
    hkeeps parent hnode, hdots⟩

/-- **A path leads to the entry at its place**, which must be a directory if the path ends in a
slash. -/
lemma follow_of_entryPlace? (h : tree.entryPlace? path = .ok (some place)) {node : Node}
    (hnode : tree.node? place = some node)
    (hend : node = .directory ∨ path.getLast? ≠ some '/') :
    tree.follow path = .ok (place, node) := by
  obtain ⟨hpath, name, above, parent, hsegments, hwalk, hparent, hdot, hdots, rfl⟩ :=
    entryPlace?_eq_some_iff.1 h
  obtain ⟨hname, tail, hsplit, hempty, hnil⟩ := Path.segments_eq_of_dropWhile hsegments
  have hstep : step parent name = parent ++ [name] := by
    simp [step, Path.isIdle, hname, hdot, hdots]
  have htail : tree.walk (parent ++ [name]) tail = .ok (parent ++ [name]) := by
    rcases hend with rfl | hend
    · exact walk_of_isEmpty hnode hempty
    · rw [hnil hpath hend]
      rfl
  have hfull : tree.walk [] (Path.segments path) = .ok (parent ++ [name]) := by
    rw [hsplit, walk_append, hwalk]
    change tree.walk parent (name :: tail) = _
    rw [walk, hparent]
    change tree.walk (step parent name) tail = _
    rw [hstep, htail]
  exact follow_eq_ok_iff.2 ⟨hpath, hfull, hnode⟩

/-! ## Operations -/

lemma addDirectory_eq_ok (h : tree.addDirectory path = .ok after) :
    ∃ place, tree.entryPlace? path = .ok (some place) ∧ tree.node? place = none ∧
      after = tree.put place .directory := by
  unfold addDirectory at h
  cases hplace : tree.entryPlace? path with
  | error e => simp [bind, Except.bind, hplace] at h
  | ok entry =>
    cases entry with
    | none => simp [bind, Except.bind, hplace] at h
    | some place =>
      simp only [bind, Except.bind, hplace, pure, Except.pure] at h
      split_ifs at h with hnode
      exact ⟨place, rfl, by simpa using hnode, (Except.ok.inj h).symm⟩

/-- When a file is written. -/
lemma write_eq_ok_iff : tree.write path content = .ok after ↔
    ∃ place, tree.entryPlace? path = .ok (some place) ∧ path.getLast? ≠ some '/' ∧
      tree.node? place ≠ some .directory ∧ tree.put place (.file content) = after := by
  unfold write
  cases hplace : tree.entryPlace? path with
  | error e => simp [bind, Except.bind]
  | ok entry =>
    cases entry with
    | none => simp [bind, Except.bind]
    | some place =>
      by_cases hfails : path.getLast? = some '/' ∨ tree.node? place = some .directory
      · rcases hfails with hfails | hfails <;> simp [bind, Except.bind, hfails]
      · obtain ⟨hend, hnode⟩ := not_or.1 hfails
        simp [bind, Except.bind, pure, Except.pure, hend, hnode]

/-- **What adding a directory does**: the tree grows, and the path leads to a directory. -/
lemma grows_of_addDirectory (h : tree.addDirectory path = .ok after) :
    Grows tree after ∧ after.LeadsToDirectory path := by
  obtain ⟨place, hplace, hnone, rfl⟩ := addDirectory_eq_ok h
  have hput := node?_put tree (ne_nil_of_entryPlace? hplace) .directory
  have hgrows : Grows tree (tree.put place .directory) := by
    intro other
    unfold GrowsAt
    rw [hput]
    split_ifs with hother
    · subst hother
      exact .inr ⟨hnone, rfl⟩
    · exact .inl rfl
  have hentry := entryPlace?_of_keepsDirectories hgrows.keepsDirectories hplace
  exact ⟨hgrows, place, follow_of_entryPlace? hentry (by simp [hput]) (.inl rfl)⟩

/-- No directory is added where a path leads to one. -/
lemma addDirectory_of_leadsToDirectory (h : tree.LeadsToDirectory path) :
    ∃ e, tree.addDirectory path = .error e := by
  cases hadd : tree.addDirectory path with
  | error e => exact ⟨e, rfl⟩
  | ok after =>
    -- the new directory would stand where the path leads, but something stands there
    obtain ⟨place, hplace, hnone, rfl⟩ := addDirectory_eq_ok hadd
    obtain ⟨other, hfollow⟩ := h
    have hput := node?_put tree (ne_nil_of_entryPlace? hplace) .directory
    have hkeeps := (grows_of_addDirectory hadd).1.keepsDirectories
    have hentry := entryPlace?_of_keepsDirectories hkeeps hplace
    have hnew := follow_of_entryPlace? hentry (by simp [hput]) (.inl rfl)
    rw [eq_destination_of_follow hnew, ← eq_destination_of_follow hfollow,
      (follow_eq_ok_iff.1 hfollow).2.2] at hnone
    cases hnone

/-- A file has been written to a path: it stands at the place for it. -/
structure HoldsFile (tree : FileTree) (path : Text) (place : Place) (content : ByteArray) :
    Prop where
  entry : tree.entryPlace? path = .ok (some place)
  last : path.getLast? ≠ some '/'
  node : tree.node? place = some (.file content)

/-- The path of a file leads to it. -/
lemma HoldsFile.follow (h : tree.HoldsFile path place content) :
    tree.follow path = .ok (place, .file content) :=
  follow_of_entryPlace? h.entry h.node (.inr h.last)

/-- A file stays while the tree grows. -/
lemma HoldsFile.of_grows (h : before.HoldsFile path place content) (hgrows : Grows before after) :
    after.HoldsFile path place content where
  entry := entryPlace?_of_keepsDirectories hgrows.keepsDirectories h.entry
  last := h.last
  node := hgrows.node?_eq h.node

/-- A file can be written again. -/
lemma HoldsFile.write (h : tree.HoldsFile path place content) (again : ByteArray) :
    tree.write path again = .ok (tree.put place (.file again)) :=
  write_eq_ok_iff.2 ⟨place, h.entry, h.last, by simp [h.node], rfl⟩

/-- **What writing a file does**: the file stands at the place for it, nothing else changes, and no
directory is gone. -/
lemma holdsFile_of_write (h : tree.write path content = .ok after) :
    ∃ place, after.HoldsFile path place content ∧
      (∀ other, other ≠ place → after.node? other = tree.node? other) ∧
      KeepsDirectories tree after := by
  obtain ⟨place, hplace, hend, hnode, rfl⟩ := write_eq_ok_iff.1 h
  have hput := node?_put tree (ne_nil_of_entryPlace? hplace) (.file content)
  have hkeeps : KeepsDirectories tree (tree.put place (.file content)) := by
    intro other hother
    rw [hput, if_neg]
    · exact hother
    · rintro rfl
      exact hnode hother
  have hholds : (tree.put place (.file content)).HoldsFile path place content :=
    { entry := entryPlace?_of_keepsDirectories hkeeps hplace
      last := hend
      node := by simp [hput] }
  exact ⟨place, hholds, fun other hother => by simp [hput, hother], hkeeps⟩

end FileTree

end ChartValues
