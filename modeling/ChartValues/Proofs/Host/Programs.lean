import ChartValues.Host.State
import ChartValues.Proofs.Host.Growth

set_option autoImplicit false

/-!
# Looking at a host and creating directories

Looking at a host changes nothing. Creating a directory and those above it, as far as they are
missing, can stop half-way: some directories have been created then. Whether it stops or not, the
tree only grows; and if it does not stop, the path leads to a directory.

## Main results

* `HostState.run_pathExists`, `HostState.run_isDirectory` — what a path leads to.
* `HostState.run_ensureDirectory` — what creating one directory does.
* `HostState.run_createFrom`, `HostState.run_createDirectories` — what creating a directory and
  those above it does.
* `HostState.run_createDirectories_of_leadsToDirectory` — a directory that is there is left as it
  is.
-/

namespace ChartValues

namespace HostState

open FileTree

variable {state after : HostState} {path : Text}

/-! ## Runs -/

/-- Programs run one after the other. -/
lemma run_bind {α β : Type} (program : StateM HostState α) (next : α → StateM HostState β)
    (state : HostState) :
    run (program >>= next) state = run (next (run program state).1) (run program state).2 := rfl

/-! ## Looking -/

/-- What a path leads to is told without a change. -/
lemma run_entryKind? (path : Text) (state : HostState) :
    run (Host.entryKind? path) state =
      ((state.tree.follow path).toOption.map fun found => kindOf found.2, state) := by
  rcases hfollow : state.tree.follow path with e | found <;>
    simp only [run, Host.entryKind?, hfollow] <;> rfl

/-- Whether a path leads anywhere is told without a change. -/
lemma run_pathExists (path : Text) (state : HostState) :
    run (Host.pathExists path) state = ((state.tree.follow path).toOption.isSome, state) := by
  unfold Host.pathExists
  rw [run_bind, run_entryKind?]
  cases state.tree.follow path <;> rfl

/-- Whether a path leads to a directory is told without a change. -/
lemma run_isDirectory (path : Text) (state : HostState) :
    ∃ isDirectory, run (Host.isDirectory path) state = (isDirectory, state) ∧
      (isDirectory = true ↔ state.tree.LeadsToDirectory path) := by
  unfold Host.isDirectory
  rw [run_bind, run_entryKind?]
  refine ⟨_, rfl, ?_⟩
  unfold LeadsToDirectory
  rcases state.tree.follow path with e | ⟨place, _ | content⟩ <;> simp [kindOf, Except.toOption]

/-! ## Directories -/

lemma run_createDirectory_of_ok {tree : FileTree} (h : state.tree.addDirectory path = .ok tree) :
    run (Host.createDirectory path) state = (.ok (), { state with tree }) := by
  simp only [run, Host.createDirectory, change, h]

lemma run_createDirectory_of_error {e : HostError} (h : state.tree.addDirectory path = .error e) :
    run (Host.createDirectory path) state = (.error e, state) := by
  simp only [run, Host.createDirectory, change, h]

/-- **What creating one directory does**: the tree grows, and it is said whether the path leads to
a directory. -/
lemma run_ensureDirectory (path : Text) (state : HostState) :
    ∃ result after, run (Host.ensureDirectory path) state = (result, after) ∧
      Grows state.tree after.tree ∧
      (result = .ok () ↔ after.tree.LeadsToDirectory path) := by
  unfold Host.ensureDirectory
  cases hadd : state.tree.addDirectory path with
  | ok tree =>
    obtain ⟨hgrows, hdirectory⟩ := grows_of_addDirectory hadd
    refine ⟨.ok (), { state with tree }, ?_, hgrows, by simp [hdirectory]⟩
    rw [run_bind, run_createDirectory_of_ok hadd]
    rfl
  | error e =>
    obtain ⟨isDirectory, hrun, hiff⟩ := run_isDirectory path state
    refine ⟨if isDirectory then .ok () else .error e, state, ?_, Grows.refl _, ?_⟩
    · rw [run_bind, run_createDirectory_of_error hadd]
      dsimp only
      rw [run_bind, hrun]
      rfl
    · rw [← hiff]
      cases isDirectory <;> simp

/-- **What creating the first of some directories does**: the tree grows, and the path leads to a
directory unless the program says that it failed.

**Proof sketch.** Induction on the directories. Each one is created on its own first, and again
after those above it have been created. -/
lemma run_createFrom (paths : List Text) (state : HostState) :
    ∃ result after, run (Host.createFrom paths) state = (result, after) ∧
      Grows state.tree after.tree ∧
      (result = .ok () → ∀ path ∈ paths.head?, path = [] ∨ after.tree.LeadsToDirectory path) := by
  induction paths generalizing state with
  | nil => exact ⟨_, _, rfl, Grows.refl _, by simp⟩
  | cons path above ih =>
    unfold Host.createFrom
    split_ifs with hpath
    · have hnil : path = [] := by simpa using hpath
      exact ⟨_, _, rfl, Grows.refl _, by simp [hnil]⟩
    · obtain ⟨first, between, hfirst, hgrows, hdirectory⟩ := run_ensureDirectory path state
      rw [run_bind, hfirst]
      dsimp only
      split
      · -- the directory has no place to stand yet: those above it come first
        obtain ⟨rest, later, hrest, hmore, -⟩ := ih between
        rw [run_bind, hrest]
        dsimp only
        split
        · obtain ⟨again, after, hagain, hlast, hdirectory⟩ := run_ensureDirectory path later
          refine ⟨again, after, hagain, (hgrows.trans hmore).trans hlast, ?_⟩
          simpa using fun hok => Or.inr (hdirectory.1 hok)
        · exact ⟨_, _, rfl, hgrows.trans hmore, by simp⟩
      · refine ⟨first, between, rfl, hgrows, ?_⟩
        simpa using fun hok => Or.inr (hdirectory.1 hok)

/-- A directory that is there is left as it is. -/
lemma run_ensureDirectory_of_leadsToDirectory (h : state.tree.LeadsToDirectory path) :
    run (Host.ensureDirectory path) state = (.ok (), state) := by
  obtain ⟨e, hadd⟩ := addDirectory_of_leadsToDirectory h
  obtain ⟨isDirectory, hrun, hiff⟩ := run_isDirectory path state
  unfold Host.ensureDirectory
  rw [run_bind, run_createDirectory_of_error hadd]
  dsimp only
  rw [run_bind, hrun, hiff.2 h]
  rfl

/-- Where a directory is there, nothing is created. -/
lemma run_createFrom_of_leadsToDirectory (h : path = [] ∨ state.tree.LeadsToDirectory path)
    (above : List Text) : run (Host.createFrom (path :: above)) state = (.ok (), state) := by
  unfold Host.createFrom
  split_ifs with hpath
  · rfl
  · have h : state.tree.LeadsToDirectory path := h.resolve_left (by simpa using hpath)
    rw [run_bind, run_ensureDirectory_of_leadsToDirectory h]
    rfl

/-- Where a directory is there, nothing is created above it either. -/
lemma run_createDirectories_of_leadsToDirectory
    (h : path = [] ∨ state.tree.LeadsToDirectory path) :
    run (Host.createDirectories path) state = (.ok (), state) :=
  run_createFrom_of_leadsToDirectory h (Path.above (Path.segments path).reverse)

/-- **What creating a directory and those above it does**: the tree grows; and the path leads to a
directory unless the program says that it failed. -/
lemma run_createDirectories (path : Text) (state : HostState) :
    ∃ result after, run (Host.createDirectories path) state = (result, after) ∧
      Grows state.tree after.tree ∧
      (result = .ok () → path = [] ∨ after.tree.LeadsToDirectory path) := by
  obtain ⟨result, after, hrun, hgrows, hdirectory⟩ := run_createFrom (Path.ancestors path) state
  exact ⟨result, after, hrun, hgrows, fun hok => hdirectory hok path rfl⟩

end HostState

end ChartValues
