import ChartValues.Docs.Generate
import ChartValues.Proofs.Host.Overwriting
import ChartValues.Proofs.Host.Programs

set_option autoImplicit false

/-!
# The steps of a run

A run is a row of steps, and it fails where one of them fails. What each step does to the file tree
is said here: printing and reading leave it; writing a page lets it grow by directories, and then
puts a file at one place.

## Main definitions

* `FileTree.readText`, `Page.bytes`, `FileTree.HasParent` — what is read, what is written, and
  where.
* `WritesPage` — a page has been written.

## Main results

* `HostState.error_of_run_bind`, `HostState.ok_of_run_bind` — a row of steps fails where one of them
  fails.
* `HostState.ok_of_run_readParameters`, `HostState.error_of_run_readParameters` — what reading the
  values file does.
* `HostState.ok_of_run_writePage`, `HostState.error_of_run_writePage` — what writing a page does.
* `HostState.run_writePage_of_holdsFile` — a page is written again.
-/

namespace ChartValues

/-! ## Contents -/

/-- The text of a file in a tree. -/
def FileTree.readText (tree : FileTree) (path : Text) : Except HostError Text :=
  match tree.read path with
  | .error e => .error e
  | .ok bytes =>
    match bytes.utf8Decode? with
    | some chars => .ok chars.toList
    | none => .error .notText

/-- The bytes of a page. -/
def Page.bytes (page : List Text) : ByteArray := (String.ofList (Text.unlines page)).toUTF8

/-- The directory that a page goes to is there. The empty path stands for the working directory. -/
def FileTree.HasParent (tree : FileTree) (path : Text) : Prop :=
  ∀ directory, Path.parent? path = some directory →
    directory = [] ∨ tree.LeadsToDirectory directory

/-- The path leads to the same file in both trees, so that the same text is read. -/
lemma FileTree.readText_congr {before after : FileTree} {path : Text}
    (h : before.follow path = after.follow path) : before.readText path = after.readText path := by
  simp only [readText, read, h]

/-- A text that can be read stands in a file. -/
lemma FileTree.exists_follow_of_readText {tree : FileTree} {path text : Text}
    (h : tree.readText path = .ok text) :
    ∃ content, tree.follow path = .ok (destination path, .file content) := by
  rcases hfollow : tree.follow path with e | ⟨place, _ | content⟩
  · simp [readText, read, hfollow, bind, Except.bind] at h
  · simp [readText, read, hfollow, bind, Except.bind] at h
  · rw [eq_destination_of_follow hfollow]
    exact ⟨content, rfl⟩

/-- The text of a page is read where the page stands. -/
lemma FileTree.readText_of_page {tree : FileTree} {path : Text} {place : Place} {page : List Text}
    (h : tree.follow path = .ok (place, .file (Page.bytes page))) :
    tree.readText path = .ok (Text.unlines page) := by
  have hdecode : (Page.bytes page).utf8Decode? = some (Text.unlines page).toArray := by
    rw [Page.bytes, String.toUTF8, String.toByteArray_ofList]
    exact List.utf8Decode?_utf8Encode
  simp [readText, read, h, hdecode, bind, Except.bind, pure, Except.pure]

/-- The directory that a page goes to stays there while directories stay. -/
lemma FileTree.HasParent.of_keepsDirectories {before after : FileTree} {path : Text}
    (hkeeps : KeepsDirectories before after) (h : before.HasParent path) : after.HasParent path :=
  fun directory hparent => (h directory hparent).imp_right (·.of_keepsDirectories hkeeps)

/-- `WritesPage path page before after` says that a page has been written: it stands where its path
leads, its directory is there, and nothing else has changed but that directories have been
added. -/
structure WritesPage (path : Text) (page : List Text) (before after : FileTree) : Prop where
  holds : after.HoldsFile path (FileTree.destination path) (Page.bytes page)
  parent : after.HasParent path
  others : ∀ place, place ≠ FileTree.destination path → FileTree.GrowsAt before after place
  keeps : FileTree.KeepsDirectories before after

namespace HostState

open FileTree

variable {state after : HostState} {α β : Type} {e : DocsError} {path : Text}

/-! ## Results -/

section Results

variable {ran : Except DocsError α × HostState}

/-- A run leaves something behind. -/
lemma exists_run_eq {result : Except DocsError α} (h : ran.1 = result) :
    ∃ after, ran = (result, after) :=
  ⟨ran.2, Prod.ext h rfl⟩

/-- A run that succeeds has a result. -/
lemma exists_run_eq_ok (h : ran.1.isOk = true) : ∃ a after, ran = (.ok a, after) := by
  rcases ran with ⟨e | a, after⟩
  · cases h
  · exact ⟨a, after, rfl⟩

end Results

/-! ## Rows of steps -/

section Rows

variable {step : ExceptT DocsError (StateM HostState) α}
  {next : α → ExceptT DocsError (StateM HostState) β}

/-- After a step that does not fail, the next one is taken. -/
lemma run_bind_of_ok {a : α} (h : run step.run state = (.ok a, after)) :
    run (step >>= next).run state = run (next a).run after := by
  rw [ExceptT.run_bind, run_bind, h]

/-- Where a step fails, the steps that follow are not taken. -/
lemma run_bind_of_error (h : run step.run state = (.error e, after)) :
    run (step >>= next).run state = (.error e, after) := by
  rw [ExceptT.run_bind, run_bind, h]
  rfl

/-- A row of steps fails at the first one or later. -/
lemma error_of_run_bind (h : run (step >>= next).run state = (.error e, after)) :
    run step.run state = (.error e, after) ∨
      ∃ a between, run step.run state = (.ok a, between) ∧
        run (next a).run between = (.error e, after) := by
  rw [ExceptT.run_bind, run_bind] at h
  rcases hstep : run step.run state with ⟨cause | a, between⟩
  · rw [hstep] at h
    obtain ⟨hcause, rfl⟩ := Prod.mk.inj h
    rw [Except.error.inj hcause]
    exact .inl rfl
  · rw [hstep] at h
    exact .inr ⟨a, between, rfl, h⟩

/-- A row of steps that does not fail fails at none of them. -/
lemma ok_of_run_bind {b : β} (h : run (step >>= next).run state = (.ok b, after)) :
    ∃ a between, run step.run state = (.ok a, between) ∧
      run (next a).run between = (.ok b, after) := by
  rw [ExceptT.run_bind, run_bind] at h
  rcases hstep : run step.run state with ⟨_ | a, between⟩
  · rw [hstep] at h
    cases h
  · rw [hstep] at h
    exact ⟨a, between, rfl, h⟩

end Rows

/-- A line is printed, and the run goes on. -/
lemma run_tell_bind (line : Text) (next : Unit → ExceptT DocsError (StateM HostState) β)
    (state : HostState) :
    ∃ between, between.tree = state.tree ∧
      run (tell line >>= next).run state = run (next ()).run between :=
  ⟨(run (tell line).run state).2, rfl, rfl⟩

lemma of_run_tell_bind {line : Text}
    {next : Unit → ExceptT DocsError (StateM HostState) β} {result : Except DocsError β}
    (h : run (tell line >>= next).run state = (result, after)) :
    ∃ between, between.tree = state.tree ∧ run (next ()).run between = (result, after) := by
  obtain ⟨between, htree, hrun⟩ := run_tell_bind line next state
  exact ⟨between, htree, hrun.symm.trans h⟩

/-- An operation that does not fail is carried out, and the run goes on. -/
lemma run_lift_bind (act : StateM HostState α)
    (next : α → ExceptT DocsError (StateM HostState) β) (state : HostState) :
    run (ExceptT.lift act >>= next).run state =
      run (next (run act state).1).run (run act state).2 := rfl

/-- An operation of the host runs as a step, with its errors turned into those of the program. -/
lemma run_attempt (onError : Text → DocsError) (act : StateM HostState (Except HostError α))
    (state : HostState) :
    run (attempt onError act).run state =
      ((run act state).1.mapError fun cause => onError cause.message, (run act state).2) := rfl

/-- A step fails where its operation does, with the error that is made of the one of the host. -/
lemma error_of_run_attempt {onError : Text → DocsError}
    {act : StateM HostState (Except HostError α)}
    (h : run (attempt onError act).run state = (.error e, after)) :
    ∃ cause, run act state = (.error cause, after) ∧ e = onError cause.message := by
  rw [run_attempt] at h
  rcases hact : run act state with ⟨cause | a, between⟩
  · rw [hact] at h
    obtain ⟨herror, rfl⟩ := Prod.mk.inj h
    exact ⟨cause, rfl, (Except.error.inj herror).symm⟩
  · rw [hact] at h
    cases h

/-- A step that does not fail does what its operation does. -/
lemma ok_of_run_attempt {onError : Text → DocsError}
    {act : StateM HostState (Except HostError α)} {a : α}
    (h : run (attempt onError act).run state = (.ok a, after)) :
    run act state = (.ok a, after) := by
  rw [run_attempt] at h
  rcases hact : run act state with ⟨cause | b, between⟩
  · rw [hact] at h
    cases h
  · rw [hact] at h
    obtain ⟨hok, rfl⟩ := Prod.mk.inj h
    rw [Except.ok.inj hok]

/-! ## Reading -/

/-- Reading a text changes nothing. -/
lemma run_readText (path : Text) (state : HostState) :
    run (Host.readText path) state = (state.tree.readText path, state) := by
  unfold Host.readText FileTree.readText
  have hread : run (Host.readBytes path) state = (state.tree.read path, state) := rfl
  rw [run_bind, hread]
  dsimp only
  cases state.tree.read path with
  | error e => rfl
  | ok bytes =>
    dsimp only
    cases bytes.utf8Decode? <;> rfl

/-- Reading the values file changes nothing. What is read are the parameters of its text. -/
lemma ok_of_run_readParameters {ps : List Parameter}
    (h : run (readParameters path).run state = (.ok ps, after)) :
    after = state ∧ ∃ source root, state.tree.readText path = .ok source ∧
      parseValues source = .ok root ∧ ps = parameters source root := by
  unfold readParameters at h
  obtain ⟨source, between, hread, h⟩ := ok_of_run_bind h
  have hread := ok_of_run_attempt hread
  rw [run_readText] at hread
  obtain ⟨hsource, rfl⟩ := Prod.mk.inj hread
  cases hroot : parseValues source with
  | error cause =>
    rw [hroot] at h
    cases h
  | ok root =>
    rw [hroot] at h
    obtain ⟨hps, rfl⟩ := Prod.mk.inj h
    exact ⟨rfl, source, root, hsource, hroot, (Except.ok.inj hps).symm⟩

/-- A text that is a values file can be read. -/
lemma run_readParameters_of_ok {source : Text} {root : Value}
    (hsource : state.tree.readText path = .ok source) (hroot : parseValues source = .ok root) :
    run (readParameters path).run state = (.ok (parameters source root), state) := by
  have hread : run (attempt (.read path) (Host.readText path)).run state =
      (.ok source, state) := by
    rw [run_attempt, run_readText, hsource]
    rfl
  unfold readParameters
  rw [run_bind_of_ok hread]
  simp only [hroot]
  rfl

lemma error_of_run_readParameters
    (h : run (readParameters path).run state = (.error e, after)) :
    after = state ∧ ∃ details, e = .read path details ∨ e = .parse path details := by
  unfold readParameters at h
  rcases error_of_run_bind h with hread | ⟨source, between, hread, h⟩
  · obtain ⟨cause, hcause, rfl⟩ := error_of_run_attempt hread
    rw [run_readText] at hcause
    obtain ⟨-, rfl⟩ := Prod.mk.inj hcause
    exact ⟨rfl, _, .inl rfl⟩
  · have hread := ok_of_run_attempt hread
    rw [run_readText] at hread
    obtain ⟨-, rfl⟩ := Prod.mk.inj hread
    cases hroot : parseValues source with
    | error cause =>
      rw [hroot] at h
      obtain ⟨he, rfl⟩ := Prod.mk.inj h
      exact ⟨rfl, _, .inr (Except.error.inj he).symm⟩
    | ok root =>
      rw [hroot] at h
      cases h

/-! ## Writing -/

lemma run_writeText_of_ok {page : List Text} {tree : FileTree}
    (h : state.tree.write path (Page.bytes page) = .ok tree) :
    run (Host.writeText path (Text.unlines page)) state = (.ok (), { state with tree }) := by
  change change (fun tree => tree.write path (Page.bytes page)) state = _
  simp only [change, h]

lemma run_writeText_of_error {page : List Text} {cause : HostError}
    (h : state.tree.write path (Page.bytes page) = .error cause) :
    run (Host.writeText path (Text.unlines page)) state = (.error cause, state) := by
  change change (fun tree => tree.write path (Page.bytes page)) state = _
  simp only [change, h]

/-- Creates the directory that a page goes to, if there is one above it at all. -/
def createParent (path : Text) : ExceptT DocsError (StateM HostState) Unit :=
  match Path.parent? path with
  | some directory => attempt (.createDirectory directory) (Host.createDirectories directory)
  | none => pure ()

/-- A page is written after its directory has been created. -/
lemma writePage_eq (path : Text) (page : List Text) :
    (writePage path page : ExceptT DocsError (StateM HostState) Unit) =
      createParent path >>= fun _ =>
        attempt (.write path) (Host.writeText path (Text.unlines page)) := by
  unfold writePage createParent
  cases Path.parent? path <;> rfl

/-- A directory that cannot be created is not there; some of those above it may have been created
before the failure. -/
lemma error_of_run_createParent (h : run (createParent path).run state = (.error e, after)) :
    Grows state.tree after.tree ∧ ∃ directory details, Path.parent? path = some directory ∧
      e = .createDirectory directory details ∧
      ¬ (directory = [] ∨ state.tree.LeadsToDirectory directory) := by
  unfold createParent at h
  cases hparent : Path.parent? path with
  | none =>
    rw [hparent] at h
    cases h
  | some directory =>
    rw [hparent] at h
    obtain ⟨cause, hcause, rfl⟩ := error_of_run_attempt h
    obtain ⟨result, between, hrun, hgrows, -⟩ := run_createDirectories directory state
    obtain ⟨rfl, rfl⟩ := Prod.mk.inj (hrun.symm.trans hcause)
    refine ⟨hgrows, directory, _, rfl, rfl, fun hthere => ?_⟩
    cases (run_createDirectories_of_leadsToDirectory hthere).symm.trans hcause

lemma ok_of_run_createParent (h : run (createParent path).run state = (.ok (), after)) :
    Grows state.tree after.tree ∧ after.tree.HasParent path := by
  unfold createParent at h
  cases hparent : Path.parent? path with
  | none =>
    rw [hparent] at h
    obtain ⟨-, rfl⟩ := Prod.mk.inj h
    refine ⟨Grows.refl _, fun directory hdirectory => ?_⟩
    rw [hparent] at hdirectory
    cases hdirectory
  | some directory =>
    rw [hparent] at h
    obtain ⟨result, between, hrun, hgrows, hthere⟩ := run_createDirectories directory state
    obtain ⟨rfl, rfl⟩ := Prod.mk.inj (hrun.symm.trans (ok_of_run_attempt h))
    refine ⟨hgrows, fun other hother => ?_⟩
    obtain rfl := Option.some.inj (hparent.symm.trans hother)
    exact hthere rfl

/-- **How a page fails to be written**: either its directory is not there and cannot be created, or
the file cannot be written. The tree has grown by directories at most. -/
lemma error_of_run_writePage {page : List Text}
    (h : run (writePage path page).run state = (.error e, after)) :
    Grows state.tree after.tree ∧
      ((∃ directory details, Path.parent? path = some directory ∧
          e = .createDirectory directory details ∧
          ¬ (directory = [] ∨ state.tree.LeadsToDirectory directory)) ∨
        ∃ details cause, e = .write path details ∧
          after.tree.write path (Page.bytes page) = .error cause) := by
  rw [writePage_eq] at h
  rcases error_of_run_bind h with hcreate | ⟨_, between, hcreate, h⟩
  · obtain ⟨hgrows, hparent⟩ := error_of_run_createParent hcreate
    exact ⟨hgrows, .inl hparent⟩
  · obtain ⟨hgrows, -⟩ := ok_of_run_createParent hcreate
    obtain ⟨cause, hwrite, rfl⟩ := error_of_run_attempt h
    cases htree : between.tree.write path (Page.bytes page) with
    | ok tree =>
      rw [run_writeText_of_ok htree] at hwrite
      cases hwrite
    | error other =>
      rw [run_writeText_of_error htree] at hwrite
      obtain ⟨-, rfl⟩ := Prod.mk.inj hwrite
      exact ⟨hgrows, .inr ⟨_, other, rfl, htree⟩⟩

/-- **What writing a page does**: the page stands where its path leads, and nothing else has changed
but that directories have been added. -/
lemma ok_of_run_writePage {page : List Text}
    (h : run (writePage path page).run state = (.ok (), after)) :
    WritesPage path page state.tree after.tree := by
  rw [writePage_eq] at h
  obtain ⟨_, between, hcreate, h⟩ := ok_of_run_bind h
  obtain ⟨hgrows, hparent⟩ := ok_of_run_createParent hcreate
  have hwrite := ok_of_run_attempt h
  cases htree : between.tree.write path (Page.bytes page) with
  | error cause =>
    rw [run_writeText_of_error htree] at hwrite
    cases hwrite
  | ok tree =>
    rw [run_writeText_of_ok htree] at hwrite
    obtain ⟨-, rfl⟩ := Prod.mk.inj hwrite
    obtain ⟨place, hholds, hrest, hkeeps⟩ := holdsFile_of_write htree
    obtain rfl := hholds.place_eq
    exact
      { holds := hholds
        parent := hparent.of_keepsDirectories hkeeps
        others := fun other hother => (hgrows other).trans (.inl (hrest other hother))
        keeps := fun other hother => hkeeps other (hgrows.keepsDirectories other hother) }

/-- A directory that is there is left as it is. -/
lemma run_createParent_of_hasParent (h : state.tree.HasParent path) :
    run (createParent path).run state = (.ok (), state) := by
  unfold createParent
  cases hparent : Path.parent? path with
  | none => rfl
  | some directory =>
    dsimp only
    rw [run_attempt, run_createDirectories_of_leadsToDirectory (h directory hparent)]
    rfl

/-- **A page can be written again** where there is one: nothing but its file changes. -/
lemma run_writePage_of_holdsFile {place : Place} {content : ByteArray}
    (hparent : state.tree.HasParent path) (hholds : state.tree.HoldsFile path place content)
    (page : List Text) :
    run (writePage path page).run state =
      (.ok (), { state with tree := state.tree.put place (.file (Page.bytes page)) }) := by
  rw [writePage_eq, run_bind_of_ok (run_createParent_of_hasParent hparent), run_attempt,
    run_writeText_of_ok (hholds.write _)]
  rfl

end HostState

end ChartValues
