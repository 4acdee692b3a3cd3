import ChartValues.Host.Basic

set_option autoImplicit false

/-!
# File trees

A model of the files and directories of a machine. A node stands at a place, which is the list of
names that lead to it from the top; the working directory is the top. A path is followed segment
by segment, and every segment but the last must lead to a directory.

## Main definitions

* `FileTree` — the nodes of a tree, each at its place.
* `FileTree.follow` — the place that a path leads to.
* `FileTree.read`, `FileTree.write`, `FileTree.addDirectory`, `FileTree.remove` — the operations.
* `FileTree.listing` — the paths of all that is below a directory.

## Main results

* `FileTree.node?_put` — what stands at a place after a node has been put somewhere.
-/

namespace ChartValues

/-- The names that lead to a node from the top. -/
abbrev Place := List Text

/-- What stands at a place. -/
inductive Node where
  | directory
  | file (content : ByteArray)

/-- Files are compared by their contents. -/
instance : DecidableEq Node
  | .directory, .directory => isTrue rfl
  | .directory, .file _ => isFalse nofun
  | .file _, .directory => isFalse nofun
  | .file a, .file b =>
    have := ByteArray.decEq a b
    decidable_of_iff (a = b) (Node.file.injEq a b).symm.to_iff

/-- The nodes of a tree, each at its place. The top, which is a directory, is not listed. -/
structure FileTree where
  nodes : List (Place × Node)
deriving DecidableEq

namespace FileTree

/-- The tree in which nothing but the top stands. -/
def empty : FileTree := ⟨[]⟩

/-! ## Nodes -/

/-- The node at a place. -/
def node? (tree : FileTree) (place : Place) : Option Node :=
  if place = [] then some .directory else tree.nodes.lookup place

/-- The nodes after one has been put at a place, where it takes over from the one before. -/
def putNode (place : Place) (node : Node) : List (Place × Node) → List (Place × Node)
  | [] => [(place, node)]
  | (p, n) :: rest => if p = place then (p, node) :: rest else (p, n) :: putNode place node rest

/-- The tree after a node has been put at a place. -/
def put (tree : FileTree) (place : Place) (node : Node) : FileTree :=
  ⟨putNode place node tree.nodes⟩

/-- What stands at a place after a node has been put somewhere. -/
theorem node?_put (tree : FileTree) {place : Place} (h : place ≠ []) (node : Node) (p : Place) :
    (tree.put place node).node? p = if p = place then some node else tree.node? p := by
  simp only [node?, put]
  by_cases hp : p = []
  · subst hp
    simp [Ne.symm h]
  · simp only [hp, if_false]
    induction tree.nodes with
    | nil => simp only [putNode, List.lookup_cons, List.lookup_nil]; split <;> simp_all
    | cons n ns ih =>
      obtain ⟨q, n⟩ := n
      simp only [putNode]
      split
      · rename_i hq
        subst hq
        simp only [List.lookup_cons]
        split <;> simp_all
      · rename_i hq
        simp only [List.lookup_cons, ih]
        split
        · rename_i hpq
          have : p = q := by simpa using hpq
          subst this
          simp [hq]
        · rfl

/-! ## Following paths -/

/-- The place that a segment leads to from another. -/
def step (place : Place) (segment : Text) : Place :=
  if Path.isIdle segment then place
  else if segment = ['.', '.'] then place.dropLast
  else place ++ [segment]

/-- The place that segments lead to from another. They start from directories only; where they
lead in the end need not be anything yet. -/
def walk (tree : FileTree) : Place → List Text → Except HostError Place
  | place, [] => .ok place
  | place, segment :: rest =>
    match tree.node? place with
    | none => .error .notFound
    | some (.file _) => .error .notDirectory
    | some .directory => walk tree (step place segment) rest

/-- The place that a path leads to, and what stands there. The empty path leads nowhere. -/
def follow (tree : FileTree) (path : Text) : Except HostError (Place × Node) := do
  if path.isEmpty then .error .notFound
  let place ← tree.walk [] (Path.segments path)
  match tree.node? place with
  | none => .error .notFound
  | some node => return (place, node)

/-- The place for a new entry. A path that ends in dots, or that is the top, names no entry but a
directory that is there. -/
def entryPlace? (tree : FileTree) (path : Text) : Except HostError (Option Place) := do
  if path.isEmpty then .error .notFound
  match (Path.segments path).reverse.dropWhile List.isEmpty with
  | [] => return none
  | name :: above =>
    let place ← tree.walk [] above.reverse
    match tree.node? place with
    | none => .error .notFound
    | some (.file _) => .error .notDirectory
    | some .directory =>
      return if name = ['.'] || name = ['.', '.'] then none else some (place ++ [name])

/-! ## Operations -/

/-- The content of a file. -/
def read (tree : FileTree) (path : Text) : Except HostError ByteArray := do
  match ← tree.follow path with
  | (_, .directory) => .error .isDirectory
  | (_, .file content) => return content

/-- The tree after a file has been written. A path that ends in a slash names no file. -/
def write (tree : FileTree) (path : Text) (content : ByteArray) : Except HostError FileTree := do
  match ← tree.entryPlace? path with
  | none => .error .isDirectory
  | some place =>
    if path.getLast? = some '/' || tree.node? place = some .directory then .error .isDirectory
    else return tree.put place (.file content)

/-- The tree after a directory has been added. -/
def addDirectory (tree : FileTree) (path : Text) : Except HostError FileTree := do
  match ← tree.entryPlace? path with
  | none => .error .alreadyExists
  | some place =>
    if (tree.node? place).isSome then .error .alreadyExists
    else return tree.put place .directory

/-- The tree after a file, or a directory with all that is below it, has been removed. -/
def remove (tree : FileTree) (path : Text) : Except HostError FileTree := do
  let (place, _) ← tree.follow path
  return ⟨tree.nodes.filter fun n => !place.isPrefixOf n.1⟩

/-! ## Listing -/

/-- Whether a text comes before another, or is the same, by the codes of its characters. -/
def precedes : Text → Text → Bool
  | [], _ => true
  | _ :: _, [] => false
  | c :: t, d :: u => if c = d then precedes t u else c < d

/-- The path of a node from a directory above it, with a slash after a directory. -/
def pathBelow (top : Place) (n : Place × Node) : Option Text :=
  match top.isPrefixOf? n.1 with
  | none | some [] => none
  | some names =>
    let path := Text.joinWith ['/'] names
    some (if n.2 = .directory then path ++ ['/'] else path)

/-- The paths of all that is below a directory, in order. -/
def listing (tree : FileTree) (top : Place) : List Text :=
  (tree.nodes.filterMap (pathBelow top)).mergeSort precedes

end FileTree

end ChartValues
