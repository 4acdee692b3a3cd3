import ChartValues.Proofs.Docs.Failure

set_option autoImplicit false

/-!
# Successful runs

A run that succeeds leaves both pages where their paths lead, and changes nothing else but that
directories may be added. What it writes is told by the text of the values file alone. So a second
run finds all directories that it needs and writes what is there already, unless the first one has
written over the values file.

## Main definitions

* `LeavesPages` — both pages have been written, and no other file has changed.
* `FileTree.LeadSame` — two paths lead to the same node.

## Main results

* `HostState.ok_of_run_generate` — how a run succeeds.
* `tree_of_successful_run` — what a successful run leaves behind.
* `run_generate_again` — a second run changes nothing.
-/

namespace ChartValues

open FileTree

/-! ## What is left behind -/

/-- `LeavesPages paths ps before after` says that both pages of some parameters have been written:
they stand where their paths lead, their directories are there, and nothing else has changed but
that directories have been added. If both paths lead to the same place, the guide page stands
there, which is written last. -/
structure LeavesPages (paths : DocPaths) (ps : List Parameter) (before after : FileTree) :
    Prop where
  reference : after.HoldsFile paths.reference (destination paths.reference)
    (Page.bytes (if destination paths.reference = destination paths.guide then Page.guide ps
      else Page.reference ps))
  guide : after.HoldsFile paths.guide (destination paths.guide) (Page.bytes (Page.guide ps))
  referenceParent : after.HasParent paths.reference
  guideParent : after.HasParent paths.guide
  others : ∀ place, place ≠ destination paths.reference → place ≠ destination paths.guide →
    GrowsAt before after place
  keeps : KeepsDirectories before after

/-- The guide page is written after the reference page, and takes its place if both are one file. -/
lemma WritesPage.leavesPages {paths : DocPaths} {ps : List Parameter}
    {before between after : FileTree}
    (hreference : WritesPage paths.reference (Page.reference ps) before between)
    (hguide : WritesPage paths.guide (Page.guide ps) between after) :
    LeavesPages paths ps before after where
  reference :=
    { entry := entryPlace?_of_keepsDirectories hguide.keeps hreference.holds.entry
      last := hreference.holds.last
      node := by
        split_ifs with hsame
        · rw [hsame]
          exact hguide.holds.node
        · exact (hguide.others _ hsame).node?_eq hreference.holds.node }
  guide := hguide.holds
  referenceParent := hreference.parent.of_keepsDirectories hguide.keeps
  guideParent := hguide.parent
  others place href hne := (hreference.others place href).trans (hguide.others place hne)
  keeps place h := hguide.keeps place (hreference.keeps place h)

/-- The reference page is written once more where both pages stand, and then the guide page: the
tree becomes what it was. -/
lemma LeavesPages.put_reference {paths : DocPaths} {ps : List Parameter}
    {before after : FileTree} (h : LeavesPages paths ps before after) :
    let between := after.put (destination paths.reference) (.file (Page.bytes (Page.reference ps)))
    ∃ content, between.HoldsFile paths.guide (destination paths.guide) content ∧
      between.HasParent paths.guide ∧
      between.put (destination paths.guide) (.file (Page.bytes (Page.guide ps))) = after := by
  intro between
  by_cases hsame : destination paths.reference = destination paths.guide
  · have hbetween : between =
        after.put (destination paths.guide) (.file (Page.bytes (Page.reference ps))) := by
      rw [← hsame]
    rw [hbetween, put_put]
    exact ⟨_, h.guide.put _, h.guideParent.of_keepsDirectories (h.guide.keepsDirectories_put _),
      h.guide.put_same⟩
  · have hreference := h.reference
    rw [if_neg hsame] at hreference
    have hbetween : between = after := hreference.put_same
    rw [hbetween]
    exact ⟨_, h.guide, h.guideParent, h.guide.put_same⟩

namespace HostState

variable {paths : DocPaths} {state after : HostState} {report : Report} {ps : List Parameter}

/-! ## How a run succeeds -/

/-- The guide page has been written, and the run says so. -/
lemma ok_of_run_writeGuide (h : run (writeGuide paths ps).run state = (.ok report, after)) :
    report = ⟨ps.length, paths.reference, paths.guide⟩ ∧
      WritesPage paths.guide (Page.guide ps) state.tree after.tree := by
  unfold writeGuide at h
  obtain ⟨between, htree, h⟩ := of_run_tell_bind h
  obtain ⟨_, written, hwrite, h⟩ := ok_of_run_bind h
  obtain ⟨last, hlast, h⟩ := of_run_tell_bind h
  obtain ⟨hreport, rfl⟩ := Prod.mk.inj h
  have hpage := ok_of_run_writePage hwrite
  rw [htree, ← hlast] at hpage
  exact ⟨(Except.ok.inj hreport).symm, hpage⟩

/-- **How a run succeeds**: the values file is read, and both pages are written from it. -/
lemma ok_of_run_generate (h : run (generate paths).run state = (.ok report, after)) :
    ∃ source root, state.tree.readText paths.values = .ok source ∧
      parseValues source = .ok root ∧
      report = ⟨(parameters source root).length, paths.reference, paths.guide⟩ ∧
      LeavesPages paths (parameters source root) state.tree after.tree := by
  rw [generate_eq_bind] at h
  obtain ⟨handed, written, hstart, h⟩ := ok_of_run_bind h
  obtain ⟨ps, between, hread, hreference⟩ := ok_of_run_bind hstart
  obtain ⟨htree, source, root, hsource, hroot, rfl⟩ := ok_of_run_readValues hread
  obtain ⟨rfl, hpage⟩ := ok_of_run_writeReference hreference
  obtain ⟨hreport, hguide⟩ := ok_of_run_writeGuide h
  rw [htree] at hpage
  exact ⟨source, root, hsource, hroot, hreport, hpage.leavesPages hguide⟩

/-! ## Taking the steps again -/

/-- A values file that can be read is read, and the tree stays. -/
lemma run_readValues_of_ok {source : Text} {root : Value}
    (hsource : state.tree.readText paths.values = .ok source)
    (hroot : parseValues source = .ok root) :
    ∃ after, after.tree = state.tree ∧
      run (readValues paths).run state = (.ok (parameters source root), after) := by
  obtain ⟨content, hfollow⟩ := exists_follow_of_readText hsource
  unfold readValues
  rw [run_lift_bind, run_pathExists, hfollow]
  obtain ⟨between, htree, hrun⟩ := run_tell_bind
    (Style.detail.apply ("Parsing ".toList ++ paths.values ++ "...".toList))
    (fun _ => readParameters paths.values) state
  rw [← htree] at hsource
  exact ⟨between, htree, hrun.trans (run_readParameters_of_ok hsource hroot)⟩

/-- The reference page is written again. -/
lemma run_writeReference_of_holdsFile {place : Place} {content : ByteArray}
    (hparent : state.tree.HasParent paths.reference)
    (hholds : state.tree.HoldsFile paths.reference place content) (ps : List Parameter) :
    ∃ after, after.tree = state.tree.put place (.file (Page.bytes (Page.reference ps))) ∧
      run (writeReference paths ps).run state = (.ok ps, after) := by
  unfold writeReference
  obtain ⟨found, hfound, hrun⟩ := run_tell_bind _ _ state
  obtain ⟨first, hfirst, hnext⟩ := run_tell_bind _ _ found
  obtain ⟨second, hsecond, hlast⟩ := run_tell_bind _ _ first
  rw [hrun, hnext, hlast]
  have htree : second.tree = state.tree := hsecond.trans (hfirst.trans hfound)
  rw [← htree] at hparent hholds
  rw [run_bind_of_ok (run_writePage_of_holdsFile hparent hholds _)]
  exact ⟨_, by rw [← htree], rfl⟩

/-- The guide page is written again. -/
lemma run_writeGuide_of_holdsFile {place : Place} {content : ByteArray}
    (hparent : state.tree.HasParent paths.guide)
    (hholds : state.tree.HoldsFile paths.guide place content) (ps : List Parameter) :
    ∃ after, after.tree = state.tree.put place (.file (Page.bytes (Page.guide ps))) ∧
      run (writeGuide paths ps).run state =
        (.ok ⟨ps.length, paths.reference, paths.guide⟩, after) := by
  unfold writeGuide
  obtain ⟨between, htree, hrun⟩ := run_tell_bind _ _ state
  rw [← htree] at hparent hholds
  rw [hrun, run_bind_of_ok (run_writePage_of_holdsFile hparent hholds _)]
  obtain ⟨last, hlast, hrun⟩ := run_tell_bind _ _ _
  rw [hrun]
  exact ⟨last, by rw [hlast, ← htree], rfl⟩

/-- **Where both pages stand already, a run changes nothing.**

**Proof sketch.** All directories that the run needs are there, so that each page is put where a
file stands. What both steps leave together is the tree that was there
(`LeavesPages.put_reference`). -/
lemma run_generate_of_leavesPages {source : Text} {root : Value} {before : FileTree}
    (hsource : state.tree.readText paths.values = .ok source)
    (hroot : parseValues source = .ok root)
    (hpages : LeavesPages paths (parameters source root) before state.tree) :
    ∃ after, after.tree = state.tree ∧ run (generate paths).run state =
      (.ok ⟨(parameters source root).length, paths.reference, paths.guide⟩, after) := by
  obtain ⟨read, hread, hrunRead⟩ := run_readValues_of_ok hsource hroot
  rw [← hread] at hpages ⊢
  obtain ⟨written, hwritten, hrunReference⟩ := run_writeReference_of_holdsFile
    hpages.referenceParent hpages.reference (parameters source root)
  obtain ⟨content, hholds, hparent, htree⟩ := hpages.put_reference
  rw [← hwritten] at hholds hparent htree
  obtain ⟨after, hafter, hrunGuide⟩ := run_writeGuide_of_holdsFile hparent hholds
    (parameters source root)
  refine ⟨after, hafter.trans htree, ?_⟩
  rw [generate_eq_bind, bind_assoc, run_bind_of_ok hrunRead, run_bind_of_ok hrunReference,
    hrunGuide]

end HostState

open HostState

/-! ## Successful runs -/

/-- **What a successful run leaves behind.** For every file tree and all paths, whatever they lead
to and however they are spelt, let the parameters be those of the values file that was there before:

* The report gives their number.
* The guide page stands where its path leads.
* So does the reference page, unless both paths lead to the same place, where the guide page stands.
* Every other file is what it was, and no directory is gone: nothing else has changed but that
  directories have been added.
* What is written does not depend on what was there: any other run that reads the same text, from
  any file tree, makes the same report and writes the same pages to the same places.

**Proof sketch.** Writing a page puts a file at one place and adds directories
(`ok_of_run_writePage`), and the second page cannot undo the first but by taking its place
(`WritesPage.leavesPages`). Places and contents are told by the paths and the text that is read. -/
theorem tree_of_successful_run {paths : DocPaths} {state after : HostState} {report : Report}
    (h : HostState.run (generate paths).run state = (.ok report, after)) :
    ∃ source root, state.tree.readText paths.values = .ok source ∧
      parseValues source = .ok root ∧
      report = ⟨(parameters source root).length, paths.reference, paths.guide⟩ ∧
      after.tree.follow paths.guide = .ok (destination paths.guide,
        .file (Page.bytes (Page.guide (parameters source root)))) ∧
      after.tree.follow paths.reference = .ok (destination paths.reference,
        .file (Page.bytes (if destination paths.reference = destination paths.guide
          then Page.guide (parameters source root)
          else Page.reference (parameters source root)))) ∧
      (∀ place, place ≠ destination paths.reference → place ≠ destination paths.guide →
        GrowsAt state.tree after.tree place) ∧
      KeepsDirectories state.tree after.tree ∧
      ∀ state' report' after', state'.tree.readText paths.values = .ok source →
        HostState.run (generate paths).run state' = (.ok report', after') →
        report' = report ∧ after'.tree.follow paths.guide = after.tree.follow paths.guide ∧
          after'.tree.follow paths.reference = after.tree.follow paths.reference := by
  obtain ⟨source, root, hsource, hroot, rfl, hpages⟩ := ok_of_run_generate h
  refine ⟨source, root, hsource, hroot, rfl, hpages.guide.follow, hpages.reference.follow,
    hpages.others, hpages.keeps, fun state' report' after' hsource' h' => ?_⟩
  obtain ⟨_, _, hread, hroot', rfl, hpages'⟩ := ok_of_run_generate h'
  obtain rfl := Except.ok.inj (hsource'.symm.trans hread)
  obtain rfl := Except.ok.inj (hroot.symm.trans hroot')
  exact ⟨rfl, hpages'.guide.follow.trans hpages.guide.follow.symm,
    hpages'.reference.follow.trans hpages.reference.follow.symm⟩

/-- Paths of which both outputs are one file, in a directory that has to be created. -/
def onePage : DocPaths where
  values := "values.yaml".toList
  reference := "docs/page.md".toList
  guide := "docs/./../docs//page.md".toList

/-- The guide page takes the place of the reference page, and the values file stays. -/
theorem tree_of_onePage :
    ∃ ps after, HostState.run (generate onePage).run smallHost =
        (.ok ⟨ps.length, onePage.reference, onePage.guide⟩, after) ∧
      ps.length = 1 ∧
      after.tree.follow onePage.guide =
        .ok (["docs".toList, "page.md".toList], .file (Page.bytes (Page.guide ps))) ∧
      after.tree.follow onePage.reference = after.tree.follow onePage.guide ∧
      GrowsAt smallHost.tree after.tree ["values.yaml".toList] := by
  have hguide : destination onePage.guide = ["docs".toList, "page.md".toList] := by decide
  have hsame : destination onePage.reference = destination onePage.guide := by decide
  obtain ⟨after, hrun⟩ := exists_run_eq
    (show (HostState.run (generate onePage).run smallHost).1 =
      .ok ⟨1, onePage.reference, onePage.guide⟩ by decide +kernel)
  obtain ⟨source, root, -, -, hreport, hpage, hreference, hothers, -⟩ :=
    tree_of_successful_run hrun
  rw [if_pos hsame, hsame] at hreference
  rw [hsame, hguide] at hothers
  rw [hguide] at hpage hreference
  have hlength : 1 = (parameters source root).length := congrArg Report.parameters hreport
  rw [hreport] at hrun
  exact ⟨parameters source root, after, hrun, hlength.symm, hpage,
    hreference.trans hpage.symm, hothers _ (by decide) (by decide)⟩

/-- **A second run changes nothing.** For every file tree and all paths of which neither output path
has the destination of the values file: if a run succeeds, then the same run from the tree that it
leaves succeeds as well, makes the same report, and leaves this tree as it is. That the first run
has created directories, or has written both pages to one file, makes no difference.

The destination of a path is where it leads as soon as it leads anywhere. It is not enough that no
output path leads to the values file before the first run, since it may do so afterwards
(`exists_error_of_run_throughNew`).

**Proof sketch.** No directory is gone after the first run, and the values file is none of the two
files that have been written. So it is read again, with the same text. The rest is done already
(`run_generate_of_leavesPages`). -/
theorem run_generate_again {paths : DocPaths} {state after : HostState} {report : Report}
    (hreference : destination paths.reference ≠ destination paths.values)
    (hguide : destination paths.guide ≠ destination paths.values)
    (h : HostState.run (generate paths).run state = (.ok report, after)) :
    ∃ again, HostState.run (generate paths).run after = (.ok report, again) ∧
      again.tree = after.tree := by
  obtain ⟨source, root, hsource, hroot, rfl, hpages⟩ := ok_of_run_generate h
  have hread : after.tree.readText paths.values = .ok source := by
    obtain ⟨content, hfollow⟩ := exists_follow_of_readText hsource
    have hnode := (hpages.others _ hreference.symm hguide.symm).node?_eq
      (follow_eq_ok_iff.1 hfollow).2.2
    have hkept := follow_of_keepsDirectories hpages.keeps hfollow hnode
    rwa [← readText_congr (hfollow.trans hkept.symm)]
  obtain ⟨again, htree, hrun⟩ := run_generate_of_leavesPages hread hroot hpages
  exact ⟨again, hrun, htree⟩

/-- Two runs that write both pages to one file, in a directory that the first run creates. -/
theorem run_generate_again_onePage :
    ∃ report after again, HostState.run (generate onePage).run smallHost = (.ok report, after) ∧
      HostState.run (generate onePage).run after = (.ok report, again) ∧
      again.tree = after.tree := by
  obtain ⟨report, after, hrun⟩ := exists_run_eq_ok
    (show (HostState.run (generate onePage).run smallHost).1.isOk = true by decide +kernel)
  obtain ⟨again, hagain⟩ := run_generate_again (by decide) (by decide) hrun
  exact ⟨report, after, again, hrun, hagain⟩

/-! ## A run that writes over the values file -/

/-- Two paths lead to the same node. -/
def FileTree.LeadSame (tree : FileTree) (path path' : Text) : Prop :=
  ∃ found, tree.follow path = .ok found ∧ tree.follow path' = .ok found

/-- A path that leads nowhere leads to no node with another. -/
lemma not_leadSame_of_error {tree : FileTree} {path path' : Text} {cause : HostError}
    (h : tree.follow path = .error cause) : ¬ tree.LeadSame path path' := by
  rintro ⟨found, hfound, -⟩
  cases h.symm.trans hfound

/-- Paths of which the reference page goes to the values file, as soon as there is a directory. -/
def throughNew : DocPaths where
  values := "values.yaml".toList
  reference := "new/../values.yaml".toList
  guide := "guide.md".toList

/-- Neither output path leads to the values file before the first run, for there is no directory
`new`. The first run creates it, and writes over the values file, which the second run fails to
read. -/
theorem exists_error_of_run_throughNew :
    ¬ LeadSame smallHost.tree throughNew.reference throughNew.values ∧
      ¬ LeadSame smallHost.tree throughNew.guide throughNew.values ∧
      ∃ report after, HostState.run (generate throughNew).run smallHost = (.ok report, after) ∧
        ∃ e again, HostState.run (generate throughNew).run after = (.error e, again) := by
  have hreference : smallHost.tree.follow throughNew.reference = .error .notFound := by decide
  have hguide : smallHost.tree.follow throughNew.guide = .error .notFound := by decide
  obtain ⟨report, after, hrun⟩ := exists_run_eq_ok
    (show (HostState.run (generate throughNew).run smallHost).1.isOk = true by decide +kernel)
  refine ⟨not_leadSame_of_error hreference, not_leadSame_of_error hguide, report, after, hrun, ?_⟩
  obtain ⟨source, root, hsource, hroot, -, hpages⟩ := ok_of_run_generate hrun
  -- the first run leaves the reference page where the path of the values file leads
  have hsame : destination throughNew.reference = destination throughNew.values := by decide
  have hother : destination throughNew.reference ≠ destination throughNew.guide := by decide
  have hpage : after.tree.readText throughNew.values =
      .ok (Text.unlines (Page.reference (parameters source root))) := by
    obtain ⟨content, hfollow⟩ := exists_follow_of_readText hsource
    have hnode := hpages.reference.node
    rw [if_neg hother, hsame] at hnode
    exact readText_of_page (follow_of_keepsDirectories hpages.keeps hfollow hnode)
  -- and this page is no values file
  have hsmall : smallHost.tree.readText throughNew.values = .ok "a: 1\n".toList := by
    decide +kernel
  obtain rfl : "a: 1\n".toList = source := Except.ok.inj (hsmall.symm.trans hsource)
  have hcheck : (parseValues "a: 1\n".toList).toOption.all (fun root =>
      !(parseValues (Text.unlines (Page.reference (parameters "a: 1\n".toList root)))).isOk) := by
    decide +kernel
  rw [hroot] at hcheck
  rcases hagain : HostState.run (generate throughNew).run after with ⟨e | report', again⟩
  · exact ⟨e, again, rfl⟩
  · obtain ⟨source', root', hsource', hroot', -⟩ := ok_of_run_generate hagain
    obtain rfl := Except.ok.inj (hpage.symm.trans hsource')
    rw [Except.toOption, Option.all_some, hroot'] at hcheck
    cases hcheck

end ChartValues
