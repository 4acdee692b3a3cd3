import ChartValues.Host.FileTree

set_option autoImplicit false

/-!
# The state of a host

A state is a file tree, and what has been printed. A program that keeps a state is a function from
states to states, so that it can be reasoned about.

## Main definitions

* `HostState` — a file tree and what has been printed.
* `HostState.run` — runs a program from a state.
-/

namespace ChartValues

/-- A file tree, and what has been printed. -/
structure HostState where
  tree : FileTree
  printed : Text
deriving DecidableEq

namespace HostState

/-- Changes the tree, or fails and leaves it. -/
def change (f : FileTree → Except HostError FileTree) : StateM HostState (Except HostError Unit) :=
  fun state =>
    match f state.tree with
    | .ok tree => (.ok (), { state with tree })
    | .error e => (.error e, state)

/-- What a node is. -/
def kindOf : Node → EntryKind
  | .directory => .directory
  | .file _ => .file

instance : Host (StateM HostState) where
  entryKind? path := fun state =>
    (match state.tree.follow path with
      | .ok (_, node) => some (kindOf node)
      | .error _ => none, state)
  readBytes path := fun state => (state.tree.read path, state)
  writeBytes path content := change fun tree => tree.write path content
  createDirectory path := change fun tree => tree.addDirectory path
  print text := fun state => ((), { state with printed := state.printed ++ text })

/-- Runs a program from a state. -/
def run {α : Type} (program : StateM HostState α) (state : HostState) : α × HostState :=
  program state

end HostState

end ChartValues
