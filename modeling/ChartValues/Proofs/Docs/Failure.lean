import ChartValues.Proofs.Docs.Steps

set_option autoImplicit false

/-!
# Failing runs

A run looks for the values file, reads it, and writes the reference page and then the guide page.
Whatever goes wrong, the error says how far the run came, and so what it leaves behind: the tree as
it was, some more directories, or the whole reference page.

## Main definitions

* `DocsError.ConcernsValues`, `DocsError.Concerns` — what an error is about.
* `LeavesReference` — the reference page has been written, and no other file has changed.
* `readValues`, `writeReference`, `writeGuide` — the parts of a run.
* `ReachesGuide` — a run comes as far as the guide page.

## Main results

* `generate_eq_bind` — a run is its parts.
* `HostState.error_of_run_generate` — how a run fails.
* `tree_of_failed_run` — what a failing run leaves behind.
-/

namespace ChartValues

/-! ## Errors -/

namespace DocsError

/-- The error is about the values file. -/
def ConcernsValues : DocsError → Prop
  | .missingValues _ | .read _ _ | .parse _ _ => True
  | .createDirectory _ _ | .write _ _ => False

/-- The error is about writing to a path: the file itself, or the directory that it goes to. -/
def Concerns (output : Text) : DocsError → Prop
  | .createDirectory directory _ => Path.parent? output = some directory
  | .write path _ => path = output
  | .missingValues _ | .read _ _ | .parse _ _ => False

/-- An error about the values file is not about writing. -/
lemma not_concerns_of_concernsValues {e : DocsError} (h : e.ConcernsValues) (output : Text) :
    ¬ e.Concerns output := by
  cases e with
  | missingValues path => exact id
  | read path details => exact id
  | parse path details => exact id
  | createDirectory path details => exact h.elim
  | write path details => exact h.elim

end DocsError

/-- The whole reference page of the values file that was there before has been written, and nothing
else has changed but that directories have been added. -/
def LeavesReference (paths : DocPaths) (before after : FileTree) : Prop :=
  ∃ source root place, before.readText paths.values = .ok source ∧
    parseValues source = .ok root ∧
    after.follow paths.reference =
      .ok (place, .file (Page.bytes (Page.reference (parameters source root)))) ∧
    ∀ other, other ≠ place → FileTree.GrowsAt before after other

/-! ## Parts of a run -/

section Parts

variable {m : Type → Type} [Monad m] [Host m]

/-- Looks for the values file, and reads it. -/
def readValues (paths : DocPaths) : ExceptT DocsError m (List Parameter) := do
  unless ← ExceptT.lift (Host.pathExists paths.values) do
    throw (.missingValues paths.values)
  tell (Style.detail.apply ("Parsing ".toList ++ paths.values ++ "...".toList))
  readParameters paths.values

/-- Writes the reference page, and hands the parameters on. -/
def writeReference (paths : DocPaths) (ps : List Parameter) :
    ExceptT DocsError m (List Parameter) := do
  tell ("Found ".toList ++ Text.ofNat ps.length ++ " parameters".toList)
  tell (Style.detail.apply "Generating values-reference.md...".toList)
  tell (Style.detail.apply "Generating values.md...".toList)
  writePage paths.reference (Page.reference ps)
  return ps

/-- Writes the guide page. -/
def writeGuide (paths : DocPaths) (ps : List Parameter) : ExceptT DocsError m Report := do
  tell (Style.success.apply ("✅ Reference documentation: ".toList ++ paths.reference))
  writePage paths.guide (Page.guide ps)
  tell (Style.success.apply ("✅ User guide documentation: ".toList ++ paths.guide))
  return { parameters := ps.length, reference := paths.reference, guide := paths.guide }

/-- A run reads the values file, writes the reference page, and then writes the guide page. -/
lemma generate_eq_bind [LawfulMonad m] (paths : DocPaths) :
    (generate paths : ExceptT DocsError m Report) =
      (readValues paths >>= writeReference paths) >>= writeGuide paths := by
  unfold generate readValues writeReference writeGuide
  simp only [bind_assoc]
  refine bind_congr fun found => ?_
  cases found <;> simp

end Parts

/-- A run comes as far as the guide page: the reference page has been written. -/
def ReachesGuide (paths : DocPaths) (state : HostState) : Prop :=
  ∃ ps, (HostState.run (readValues paths >>= writeReference paths).run state).1 = .ok ps

namespace HostState

open FileTree

variable {paths : DocPaths} {state after : HostState} {e : DocsError} {ps : List Parameter}

/-! ## The values file -/

/-- A run that finds no values file stops there. -/
lemma run_readValues_of_missing (h : ∀ found, state.tree.follow paths.values ≠ .ok found) :
    run (readValues paths).run state = (.error (.missingValues paths.values), state) := by
  cases hfollow : state.tree.follow paths.values with
  | ok found => exact absurd hfollow (h found)
  | error cause =>
    unfold readValues
    rw [run_lift_bind, run_pathExists, hfollow]
    rfl

/-- A run that finds its values file reads it. -/
lemma of_run_readValues {found : Place × Node}
    (hfound : state.tree.follow paths.values = .ok found)
    {result : Except DocsError (List Parameter)}
    (h : run (readValues paths).run state = (result, after)) :
    ∃ between, between.tree = state.tree ∧
      run (readParameters paths.values).run between = (result, after) := by
  unfold readValues at h
  rw [run_lift_bind, run_pathExists, hfound] at h
  exact of_run_tell_bind h

/-- **How the values file fails to be read**: nothing has changed, and that there is none is said
only if its path leads nowhere. -/
lemma error_of_run_readValues (h : run (readValues paths).run state = (.error e, after)) :
    after.tree = state.tree ∧ e.ConcernsValues ∧
      ∀ path, e = .missingValues path → ∀ found, state.tree.follow paths.values ≠ .ok found := by
  by_cases hmissing : ∀ found, state.tree.follow paths.values ≠ .ok found
  · obtain ⟨he, rfl⟩ := Prod.mk.inj ((run_readValues_of_missing hmissing).symm.trans h)
    obtain rfl := Except.error.inj he
    exact ⟨rfl, trivial, fun _ _ => hmissing⟩
  · obtain ⟨found, hfound⟩ := not_forall_not.1 hmissing
    obtain ⟨between, htree, h⟩ := of_run_readValues hfound h
    obtain ⟨rfl, details, rfl | rfl⟩ := error_of_run_readParameters h
    · exact ⟨htree, trivial, nofun⟩
    · exact ⟨htree, trivial, nofun⟩

/-- What has been read are the parameters of the values file, and nothing has changed. -/
lemma ok_of_run_readValues (h : run (readValues paths).run state = (.ok ps, after)) :
    after.tree = state.tree ∧ ∃ source root, state.tree.readText paths.values = .ok source ∧
      parseValues source = .ok root ∧ ps = parameters source root := by
  by_cases hmissing : ∀ found, state.tree.follow paths.values ≠ .ok found
  · cases (run_readValues_of_missing hmissing).symm.trans h
  · obtain ⟨found, hfound⟩ := not_forall_not.1 hmissing
    obtain ⟨between, htree, h⟩ := of_run_readValues hfound h
    obtain ⟨rfl, hread⟩ := ok_of_run_readParameters h
    rw [htree] at hread
    exact ⟨htree, hread⟩

/-! ## The reference page -/

/-- What is printed before the reference page is written leaves the tree. -/
lemma of_run_writeReference {result : Except DocsError (List Parameter)}
    (h : run (writeReference paths ps).run state = (result, after)) :
    ∃ between, between.tree = state.tree ∧
      run (writePage paths.reference (Page.reference ps) >>= fun _ => pure ps).run between =
        (result, after) := by
  unfold writeReference at h
  obtain ⟨found, hfound, h⟩ := of_run_tell_bind h
  obtain ⟨first, hfirst, h⟩ := of_run_tell_bind h
  obtain ⟨second, hsecond, h⟩ := of_run_tell_bind h
  exact ⟨second, hsecond.trans (hfirst.trans hfound), h⟩

/-- Nothing but directories has been added before the reference page is written. -/
lemma error_of_run_writeReference
    (h : run (writeReference paths ps).run state = (.error e, after)) :
    e.Concerns paths.reference ∧ Grows state.tree after.tree := by
  obtain ⟨between, htree, h⟩ := of_run_writeReference h
  rcases error_of_run_bind h with hwrite | ⟨_, _, -, h⟩
  · obtain ⟨hgrows, hcause⟩ := error_of_run_writePage hwrite
    rw [htree] at hgrows
    refine ⟨?_, hgrows⟩
    rcases hcause with ⟨directory, details, hparent, rfl, -⟩ | ⟨details, cause, rfl, -⟩
    · exact hparent
    · rfl
  · cases h

/-- The reference page has been written, and its directory is there. -/
lemma ok_of_run_writeReference {handed : List Parameter}
    (h : run (writeReference paths ps).run state = (.ok handed, after)) :
    handed = ps ∧ WritesPage paths.reference (Page.reference ps) state.tree after.tree := by
  obtain ⟨between, htree, h⟩ := of_run_writeReference h
  obtain ⟨_, written, hwrite, h⟩ := ok_of_run_bind h
  obtain ⟨hok, rfl⟩ := Prod.mk.inj h
  have hpage := ok_of_run_writePage hwrite
  rw [htree] at hpage
  exact ⟨(Except.ok.inj hok).symm, hpage⟩

/-! ## The guide page -/

/-- **How the guide page fails to be written** after the reference page: the reference page stays,
and the error is not about it. Its directory is there, and its file could be written again. -/
lemma error_of_run_writeGuide {place : Place} {content : ByteArray}
    (hholds : state.tree.HoldsFile paths.reference place content)
    (hthere : state.tree.HasParent paths.reference)
    (h : run (writeGuide paths ps).run state = (.error e, after)) :
    e.Concerns paths.guide ∧ ¬ e.ConcernsValues ∧ ¬ e.Concerns paths.reference ∧
      Grows state.tree after.tree := by
  unfold writeGuide at h
  obtain ⟨between, htree, h⟩ := of_run_tell_bind h
  rcases error_of_run_bind h with hwrite | ⟨_, _, -, h⟩
  · obtain ⟨hgrows, hcause⟩ := error_of_run_writePage hwrite
    rw [htree] at hgrows hcause
    rcases hcause with ⟨directory, details, hparent, rfl, hmissing⟩ | ⟨details, cause, rfl, hfails⟩
    · exact ⟨hparent, id, fun hsame => hmissing (hthere directory hsame), hgrows⟩
    · -- both pages are one file, which is there: it can be written again
      refine ⟨rfl, id, fun hsame => ?_, hgrows⟩
      have hsame : paths.guide = paths.reference := hsame
      rw [hsame, (hholds.of_grows hgrows).write] at hfails
      cases hfails
  · obtain ⟨_, -, h⟩ := of_run_tell_bind h
    cases h

/-! ## Whole runs -/

/-- **How a run fails**: while the values file is read, at the reference page, or at the guide
page. -/
lemma error_of_run_generate (h : run (generate paths).run state = (.error e, after)) :
    (run (readValues paths).run state = (.error e, after) ∧ ¬ ReachesGuide paths state) ∨
      (e.Concerns paths.reference ∧ Grows state.tree after.tree ∧ ¬ ReachesGuide paths state) ∨
      (e.Concerns paths.guide ∧ ¬ e.ConcernsValues ∧ ¬ e.Concerns paths.reference ∧
        LeavesReference paths state.tree after.tree ∧ ReachesGuide paths state) := by
  rw [generate_eq_bind] at h
  rcases error_of_run_bind h with hstart | ⟨handed, written, hstart, h⟩
  · -- the run stops before it comes to the guide page
    have hreaches : ¬ ReachesGuide paths state := by
      rintro ⟨ps, hok⟩
      rw [hstart] at hok
      cases hok
    rcases error_of_run_bind hstart with hread | ⟨ps, between, hread, h⟩
    · exact .inl ⟨hread, hreaches⟩
    · obtain ⟨htree, -⟩ := ok_of_run_readValues hread
      have hfails := error_of_run_writeReference h
      rw [htree] at hfails
      exact .inr (.inl ⟨hfails.1, hfails.2, hreaches⟩)
  · have hreaches : ReachesGuide paths state := ⟨handed, by rw [hstart]⟩
    obtain ⟨ps, between, hread, hreference⟩ := ok_of_run_bind hstart
    obtain ⟨htree, source, root, hsource, hroot, rfl⟩ := ok_of_run_readValues hread
    obtain ⟨rfl, hpage⟩ := ok_of_run_writeReference hreference
    rw [htree] at hpage
    obtain ⟨hguide, hvalues, hother, hgrows⟩ :=
      error_of_run_writeGuide hpage.holds hpage.parent h
    refine .inr (.inr ⟨hguide, hvalues, hother, ?_, hreaches⟩)
    exact ⟨source, root, _, hsource, hroot, (hpage.holds.of_grows hgrows).follow,
      fun other hne => (hpage.others other hne).trans (hgrows other)⟩

/-! ## What is said about a failure -/

/-- A run that finds no values file says so, is no error, and leaves the tree. -/
lemma run_run_of_missing (h : ∀ found, state.tree.follow paths.values ≠ .ok found) :
    ∃ after, run (ChartValues.run paths) state = (.ok false, after) ∧ after.tree = state.tree := by
  have hgenerate : run (generate paths).run state =
      (.error (.missingValues paths.values), state) := by
    rw [generate_eq_bind]
    exact run_bind_of_error (run_bind_of_error (run_readValues_of_missing h))
  unfold ChartValues.run
  rw [run_bind, hgenerate]
  exact ⟨_, rfl, rfl⟩

/-- A run that finds its values file does not say that there is none. -/
lemma run_run_ne_false {found : Place × Node}
    (hfound : state.tree.follow paths.values = .ok found) :
    (run (ChartValues.run paths) state).1 ≠ .ok false := by
  unfold ChartValues.run
  rw [run_bind]
  rcases hrun : run (generate paths).run state with ⟨e | report, after⟩
  · have hcause := error_of_run_generate hrun
    cases e with
    | missingValues path =>
      rcases hcause with ⟨hread, -⟩ | ⟨hreference, -⟩ | ⟨hguide, -⟩
      · exact absurd hfound ((error_of_run_readValues hread).2.2 path rfl found)
      · exact hreference.elim
      · exact hguide.elim
    | read path details => exact nofun
    | parse path details => exact nofun
    | createDirectory path details => exact nofun
    | write path details => exact nofun
  · exact nofun

end HostState

open HostState FileTree

/-- **What a failing run leaves behind.** For every file tree and all paths, whatever they lead to
and however they are spelt:

* After an error about the values file the tree is what it was.
* After an error about the reference page — its directory or its file — nothing has changed but
  that directories have been added, so that every file is what it was.
* A run that comes as far as the guide page fails with an error about the guide page. Then the whole
  reference page stands where its path leads, and nothing else has changed but that directories
  have been added.
* The error says how far the run came: to the guide page exactly if it is about neither the values
  file nor the reference page. So an error about both pages, which may share their directory or be
  one file, comes from the reference page.
* A run says that there is no values file exactly if the path of the values file leads nowhere, and
  then the tree is what it was.

**Proof sketch.** Directories are created one by one, and creating one adds a directory where
nothing stood (`grows_of_addDirectory`), so the tree grows even where the creation of a directory
and those above it stops half-way (`run_createFrom`). A tree that grows keeps its directories, so
paths go on to lead where they led (`walk_of_keepsDirectories`): the reference page stays, and its
directory and its file cannot fail a second time (`error_of_run_writeGuide`). -/
theorem tree_of_failed_run (paths : DocPaths) (state : HostState) :
    (∀ e after, HostState.run (generate paths).run state = (.error e, after) →
      (e.ConcernsValues → after.tree = state.tree) ∧
        (e.Concerns paths.reference → Grows state.tree after.tree) ∧
        (ReachesGuide paths state →
          e.Concerns paths.guide ∧ LeavesReference paths state.tree after.tree) ∧
        (ReachesGuide paths state ↔ ¬ e.ConcernsValues ∧ ¬ e.Concerns paths.reference)) ∧
      ((HostState.run (run paths) state).1 = .ok false ↔
        ∀ found, state.tree.follow paths.values ≠ .ok found) ∧
      ((HostState.run (run paths) state).1 = .ok false →
        (HostState.run (run paths) state).2.tree = state.tree) := by
  have hfalse : (HostState.run (run paths) state).1 = .ok false ↔
      ∀ found, state.tree.follow paths.values ≠ .ok found := by
    constructor
    · intro h found hfound
      exact run_run_ne_false hfound h
    · intro hmissing
      obtain ⟨after, hrun, -⟩ := run_run_of_missing hmissing
      exact congrArg Prod.fst hrun
  refine ⟨fun e after h => ?_, hfalse, fun h => ?_⟩
  · rcases error_of_run_generate h with ⟨hread, hreaches⟩ | ⟨hreference, hgrows, hreaches⟩ |
      ⟨hguide, hvalues, hreference, hleaves, hreaches⟩
    · obtain ⟨htree, hvalues, -⟩ := error_of_run_readValues hread
      exact ⟨fun _ => htree, fun h => absurd h (DocsError.not_concerns_of_concernsValues hvalues _),
        fun h => absurd h hreaches, fun h => absurd h hreaches, fun h => absurd hvalues h.1⟩
    · exact ⟨fun h => absurd hreference (DocsError.not_concerns_of_concernsValues h _),
        fun _ => hgrows, fun h => absurd h hreaches, fun h => absurd h hreaches,
        fun h => absurd hreference h.2⟩
    · exact ⟨fun h => absurd h hvalues, fun h => absurd h hreference, fun _ => ⟨hguide, hleaves⟩,
        fun _ => ⟨hvalues, hreference⟩, fun _ => hreaches⟩
  · obtain ⟨after, hrun, htree⟩ := run_run_of_missing (hfalse.1 h)
    rw [hrun]
    exact htree

/-! ## A run that fails at its second page -/

/-- Paths of which the guide page would stand below the values file. -/
def belowValues : DocPaths where
  values := "values.yaml".toList
  reference := "docs/reference.md".toList
  guide := "values.yaml/guide.md".toList

/-- A host with nothing but a small values file. -/
def smallHost : HostState where
  tree := ⟨[(["values.yaml".toList], .file "a: 1\n".toUTF8)]⟩
  printed := []

/-- The guide page cannot be written below the values file, and the reference page stays; without
any file nothing is written. -/
theorem tree_of_belowValues :
    (∃ e after, HostState.run (generate belowValues).run smallHost = (.error e, after) ∧
      ReachesGuide belowValues smallHost ∧ e.Concerns belowValues.guide ∧
      LeavesReference belowValues smallHost.tree after.tree) ∧
      (HostState.run (run belowValues) ⟨.empty, []⟩).1 = .ok false ∧
      (HostState.run (run belowValues) ⟨.empty, []⟩).2.tree = .empty := by
  have herror : (HostState.run (generate belowValues).run smallHost).1 =
      .error (.createDirectory "values.yaml".toList HostError.alreadyExists.message) := by
    decide +kernel
  have hreference : Path.parent? belowValues.reference ≠ some "values.yaml".toList := by decide
  have hmissing : FileTree.empty.follow belowValues.values = .error .notFound := by decide
  obtain ⟨hfailed, -⟩ := tree_of_failed_run belowValues smallHost
  obtain ⟨-, hiff, htree⟩ := tree_of_failed_run belowValues ⟨.empty, []⟩
  have hfalse : (HostState.run (run belowValues) ⟨.empty, []⟩).1 = .ok false := by
    refine hiff.2 fun found hfound => ?_
    rw [hmissing] at hfound
    cases hfound
  rcases hrun : HostState.run (generate belowValues).run smallHost with ⟨result, after⟩
  rw [hrun] at herror
  obtain rfl : result = _ := herror
  obtain ⟨-, -, hleaves, hreaches⟩ := hfailed _ after hrun
  have hreaches := hreaches.2 ⟨id, hreference⟩
  exact ⟨⟨_, after, rfl, hreaches, hleaves hreaches⟩, hfalse, htree hfalse⟩

end ChartValues
