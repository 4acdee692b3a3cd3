import ChartValues.Proofs.Line.Joined
import ChartValues.Proofs.Parameter.Insertion
import ChartValues.Proofs.Parameter.Layout
import ChartValues.Proofs.Text.LineFeeds
import ChartValues.Proofs.ValuesFile

set_option autoImplicit false

/-!
# Line ends and byte order marks

Lines end in line feeds, and a carriage return before a line feed makes no difference. Extraction
knows nothing else of how a text is encoded. Behind a byte order mark, the first line is no comment,
and if it has a colon, it is a key line that nothing in the tree belongs to; then what is indented
below it is lost as well. With carriage returns in the place of line feeds there is a single line,
which says what the first line said that is not blank.

## Main definitions

* `Line.shadeKeys`, `Line.behindMark` — the lines that still count behind a byte order mark.

## Main results

* `survey_shadeKeys` — what stands below a key line that nothing belongs to.
* `findings_byteOrderMark_cons` — what is found behind a byte order mark.
* `findAt_joined` — what is found at a line with other text behind it.
* `parameters_encoded` — the parameters of a text in another encoding.
* `exists_parameters_encoded_ne` — a text that loses parameters in other encodings.
-/

namespace ChartValues

namespace Line

/-- The lines below a place, with blank lines in the place of all key lines down to the next one
that is not indented. -/
def shadeKeys : List Text → List Text
  | [] => []
  | line :: below =>
    match KeyLine.parse? line with
    | none => line :: shadeKeys below
    | some found => if found.indent = 0 then line :: below else [] :: shadeKeys below

/-- The lines of a text that still count behind a byte order mark: the first line is blank, and if
it had a colon, so are the key lines below it down to the next one that is not indented. -/
def behindMark : List Text → List Text
  | [] => []
  | first :: below => [] :: if ':' ∈ first then shadeKeys below else below

/-- A line that defines no key stays. -/
lemma shadeKeys_cons_of_none {line : Text} (h : KeyLine.parse? line = none) (below : List Text) :
    shadeKeys (line :: below) = line :: shadeKeys below := by
  rw [shadeKeys, h]

/-- A key line stays if it is not indented. -/
lemma shadeKeys_cons_of_some {line : Text} {found : KeyLine}
    (h : KeyLine.parse? line = some found) (below : List Text) :
    shadeKeys (line :: below) =
      if found.indent = 0 then line :: below else [] :: shadeKeys below := by
  rw [shadeKeys, h]

/-- A look-ahead sees comments only. -/
lemma outlook_shadeKeys (below : List Text) : outlook (shadeKeys below) = outlook below := by
  induction below with
  | nil => rfl
  | cons line below ih =>
    cases hparse : KeyLine.parse? line with
    | none => rw [shadeKeys_cons_of_none hparse, outlook, outlook, ih]
    | some found =>
      have hcomment := KeyLine.isComment_of_parse? hparse
      have hblank : isComment [] = false := rfl
      rw [shadeKeys_cons_of_some hparse]
      split_ifs
      · rfl
      · simp [outlook, hcomment, hblank]

/-- Below the same line, the comments above depend on those above it. -/
lemma commentRun_append_congr {above above' : List Text} (h : commentRun above = commentRun above')
    (nearer : List Text) : commentRun (nearer ++ above) = commentRun (nearer ++ above') := by
  have hrun : above.takeWhile isComment = above'.takeWhile isComment := List.reverse_inj.1 h
  simp only [commentRun, List.takeWhile_append, hrun]

end Line

/-! ## What a survey depends on -/

section Survey

variable {root : Value} {above above' : List Text}

/-- A survey depends on the lines above only through climbs and comments. -/
lemma survey_congr_of_climb (hclimb : ∀ start, Line.climb start above = Line.climb start above')
    (hrun : Line.commentRun above = Line.commentRun above') (title : Text) (below : List Text) :
    survey root title above below = survey root title above' below := by
  refine survey_congr (fun title nearer line => ?_) title below
  have hpath : ∀ found : KeyLine, found.path (nearer ++ above) = found.path (nearer ++ above') := by
    intro found
    rw [KeyLine.path, KeyLine.path, Line.climb_append, Line.climb_append, hclimb]
  rw [findAt_eq, findAt_eq, Line.commentRun_append_congr hrun]
  simp only [hpath]

/-- A line that is neither a key line nor a comment can be replaced by another one. -/
lemma survey_cons_congr {line line' : Text} (hline : KeyLine.parse? line = none)
    (hline' : KeyLine.parse? line' = none) (hcomment : Line.isComment line = false)
    (hcomment' : Line.isComment line' = false) (title : Text) (below : List Text) :
    survey root title above (line :: below) = survey root title above (line' :: below) := by
  rw [survey, survey, findAt_of_none hline, findAt_of_none hline',
    titleBelow_of_not_isComment hcomment, titleBelow_of_not_isComment hcomment']
  refine congrArg _ (survey_congr_of_climb (fun start => ?_) ?_ title below)
  · rw [Line.climb_cons_of_none hline, Line.climb_cons_of_none hline']
  · rw [Line.commentRun_cons_of_not_isComment hcomment,
      Line.commentRun_cons_of_not_isComment hcomment']

/-- Below a key line that is not indented, the lines above it do not count. -/
lemma survey_cons_of_indent_eq_zero {line : Text} {found : KeyLine}
    (hline : KeyLine.parse? line = some found) (hzero : found.indent = 0)
    (hrun : Line.commentRun above = Line.commentRun above') (title : Text) (below : List Text) :
    survey root title above (line :: below) = survey root title above' (line :: below) := by
  have hcomment := KeyLine.isComment_of_parse? hline
  have hpath : found.path above = found.path above' := by
    rw [KeyLine.path, KeyLine.path, hzero, Line.climb_zero, Line.climb_zero]
  have hfind : findAt root title above line = findAt root title above' line := by
    rw [findAt_eq, findAt_eq, hline, Option.bind_some, Option.bind_some, hpath, hrun]
  rw [survey, survey, hfind]
  refine congrArg _ (survey_congr_of_climb (fun start => ?_) ?_ _ below)
  · rcases Nat.eq_zero_or_pos start with rfl | hpos
    · rw [Line.climb_zero, Line.climb_zero]
    · have hlt : found.indent < start := hzero ▸ hpos
      rw [Line.climb_cons_of_lt hline hlt, Line.climb_cons_of_lt hline hlt, hzero, Line.climb_zero,
        Line.climb_zero]
  · rw [Line.commentRun_cons_of_not_isComment hcomment,
      Line.commentRun_cons_of_not_isComment hcomment]

end Survey

/-! ## Behind a byte order mark -/

variable {root : Value}

/-- **Below a key line that nothing belongs to**, key lines are lost down to the next one that is
not indented.

**Proof sketch.** Induction on the lines below, where those that were passed stand between the key
line and the current one. As long as all key lines among them are indented, the path of any other
indented key line begins with the key that nothing belongs to, and comments are the same. From a
key line that is not indented, no climb gets above it. -/
lemma survey_shadeKeys {line key : Text} {inline : Bool}
    (hline : KeyLine.parse? line = some ⟨0, key, inline⟩) (hend : IsDeadEnd root [key])
    {passed shaded : List Text} (hpassed : Line.AtLeast 1 passed)
    (hrun : Line.commentRun (passed ++ [line]) = Line.commentRun shaded) (title : Text)
    (below : List Text) :
    survey root title (passed ++ [line]) below =
      survey root title shaded (Line.shadeKeys below) := by
  induction below generalizing title passed shaded with
  | nil => rfl
  | cons next below ih =>
    cases hparse : KeyLine.parse? next with
    | none =>
      have hnext : Line.AtLeast 1 (next :: passed) := .cons (by simp [hparse]) hpassed
      have htitle : titleBelow title next below = titleBelow title next (Line.shadeKeys below) := by
        rw [titleBelow, titleBelow, Line.outlook_shadeKeys]
      have hrunNext : Line.commentRun (next :: passed ++ [line]) =
          Line.commentRun (next :: shaded) :=
        Line.commentRun_append_congr hrun [next]
      rw [Line.shadeKeys_cons_of_none hparse, survey, survey, findAt_of_none hparse,
        findAt_of_none hparse, htitle, ← List.cons_append, ih hnext hrunNext]
    | some found =>
      have hcomment := KeyLine.isComment_of_parse? hparse
      rw [Line.shadeKeys_cons_of_some hparse]
      split_ifs with hzero
      · exact survey_cons_of_indent_eq_zero hparse hzero hrun title below
      · have hnext : Line.AtLeast 1 (next :: passed) := by
          refine .cons (fun other hother => ?_) hpassed
          obtain rfl := Option.some.inj (hparse.symm.trans hother)
          exact Nat.one_le_iff_ne_zero.2 hzero
        have hnone : root.resolve? (found.path (passed ++ [line])) = none :=
          resolve?_path_of_lt hline hend
            (Line.le_frontier hpassed (Nat.one_le_iff_ne_zero.2 hzero))
        have hfind : findAt root title (passed ++ [line]) next = none := by
          rw [findAt_eq, hparse, Option.bind_some, hnone]
          rfl
        have hblank : KeyLine.parse? [] = none := rfl
        have hrunNext : Line.commentRun (next :: passed ++ [line]) =
            Line.commentRun ([] :: shaded) := by
          rw [List.cons_append, Line.commentRun_cons_of_not_isComment hcomment,
            Line.commentRun_cons_of_not_isComment rfl]
        rw [survey, survey, hfind, findAt_of_none hblank, titleBelow_of_not_isComment hcomment,
          titleBelow_of_not_isComment rfl, ← List.cons_append, ih hnext hrunNext]

/-- **What is found behind a byte order mark** is what is found in the lines that still count, if no
key of the tree begins with a byte order mark itself. -/
lemma findings_byteOrderMark_cons (t : Text)
    (hnone : ∀ name, root.resolve? [Text.byteOrderMark :: name] = none) :
    findings (Text.byteOrderMark :: t) root =
      findingsFrom root [] [] 0 (Line.behindMark t.lines) := by
  rw [findings_eq_survey, Text.lines_byteOrderMark_cons,
    findingsFrom_eq_survey root [] [] 0 _ (Nat.zero_le _) fun h => absurd rfl h]
  cases t.lines with
  | nil => rfl
  | cons first below =>
    have hcomment := KeyLine.isComment_byteOrderMark_cons first
    change survey root [] [] ((Text.byteOrderMark :: first) :: below) = _
    rw [Line.behindMark]
    split_ifs with hcolon
    · obtain ⟨name, inline, hparse⟩ := KeyLine.exists_parse?_byteOrderMark hcolon
      have hend : IsDeadEnd root [Text.byteOrderMark :: name] := by
        rw [IsDeadEnd, hnone]
        rfl
      have hfind : findAt root [] [] (Text.byteOrderMark :: first) = none := by
        rw [findAt_eq, hparse, Option.bind_some]
        change (root.resolve? [Text.byteOrderMark :: name]).bind _ = none
        rw [hnone]
        rfl
      have hrun : Line.commentRun ([] ++ [Text.byteOrderMark :: first]) = Line.commentRun [[]] := by
        rw [List.nil_append, Line.commentRun_cons_of_not_isComment hcomment]
        rfl
      have hpassed : Line.AtLeast 1 [] := List.forall_mem_nil _
      have hrest := survey_shadeKeys hparse hend hpassed hrun [] below
      rw [survey, hfind, titleBelow_of_not_isComment hcomment]
      exact hrest
    · exact survey_cons_congr (KeyLine.parse?_byteOrderMark_of_colon_notMem hcolon) rfl hcomment
        rfl [] below

/-- Behind a byte order mark, nothing is lost if the first line is neither a comment nor has a
colon. -/
lemma findings_byteOrderMark_cons_of_notMem {t first : Text} {below : List Text}
    (hlines : t.lines = first :: below) (hcomment : Line.isComment first = false)
    (hcolon : ':' ∉ first) (root : Value) :
    findings (Text.byteOrderMark :: t) root = findings t root := by
  have hparse : KeyLine.parse? first = none :=
    KeyLine.parse?_of_colon_notMem fun h => hcolon (Text.mem_of_mem_trim h)
  rw [findings_eq_survey, findings_eq_survey, Text.lines_byteOrderMark_cons, hlines]
  exact survey_cons_congr (KeyLine.parse?_byteOrderMark_of_colon_notMem hcolon) hparse
    (KeyLine.isComment_byteOrderMark_cons first) hcomment [] below

/-! ## Carriage returns only -/

/-- What is found in a text of one line is found at its first line. -/
lemma findings_of_lineFeed_notMem {t : Text} (h : '\n' ∉ t) (root : Value) :
    findings t root = (findAt root [] [] t).toList := by
  by_cases hne : t = []
  · subst hne
    rfl
  · rw [findings_eq_survey, Text.lines_of_lineFeed_notMem hne h]
    simp [survey]

/-- A line above which nothing stands has neither section nor comments. -/
lemma parameter_of_findAt_nil {line : Text} {f : Finding} (h : findAt root [] [] line = some f) :
    f.parameter.sectionTitle = [] ∧ f.parameter.examples = [] ∧
      f.parameter.description = "Configuration for ".toList ++ f.parameter.name := by
  rw [findAt_eq] at h
  obtain ⟨found, -, h⟩ := Option.bind_eq_some_iff.1 h
  obtain ⟨value, -, h⟩ := Option.bind_eq_some_iff.1 h
  split_ifs at h
  obtain rfl := Option.some.inj h
  have hname : Text.joinWith ['.'] [found.key] = found.key := List.intercalate_singleton
  refine ⟨rfl, rfl, ?_⟩
  change "Configuration for ".toList ++ found.key =
    "Configuration for ".toList ++ Text.joinWith ['.'] [found.key]
  rw [hname]

/-- **What is found at a line with other text behind it** is what is found at the line, unless it
only opened a block before. -/
lemma findAt_joined {pad line : Text} (hpad : ∀ c ∈ pad, Text.isBlank c = true)
    (hmark : ':' ∈ line.trim ∨ line.trim.startsWith ['#'] = true ∨
      line.trim.startsWith ['-', '-', '-'] = true)
    (hopens : ∀ found value, KeyLine.parse? line = some found →
      root.resolve? [found.key] = some value → opensBlock found value = false) (more : Text) :
    findAt root [] [] (pad ++ (line ++ more)) = findAt root [] [] line := by
  rcases hmark with hcolon | hmark
  · obtain ⟨hnone, hsome⟩ := KeyLine.parse?_joined hpad hcolon more
    cases hparse : KeyLine.parse? line with
    | none => rw [findAt_of_none hparse, findAt_of_none (hnone hparse)]
    | some found =>
      obtain ⟨found', hparse', hkey, hinline⟩ := hsome found hparse
      have hpath : ∀ k : KeyLine, k.path [] = [k.key] := fun _ => rfl
      rw [findAt_eq, findAt_eq, hparse, hparse', Option.bind_some, Option.bind_some, hpath, hpath,
        hkey]
      cases hvalue : root.resolve? [found.key] with
      | none => rfl
      | some value =>
        have hopens := hopens found value hparse hvalue
        have hopens' : opensBlock found' value = false := by
          unfold opensBlock at hopens ⊢
          cases hsees : found.hasInlineValue with
          | true => rw [hinline hsees]; rfl
          | false =>
            rw [hsees, Bool.not_false, Bool.true_and] at hopens
            rw [hopens, Bool.and_false]
        rw [Option.bind_some, Option.bind_some, documents, documents, hopens, hopens']
  · rw [findAt_of_none (KeyLine.parse?_of_marked hmark),
      findAt_of_none (KeyLine.parse?_joined_of_marked hpad hmark more)]

/-- Blank lines at the beginning of a file do not count. -/
lemma survey_append_of_blank {before : List Text} (hblank : ∀ line ∈ before, line.trim = [])
    (title : Text) (below : List Text) :
    survey root title [] (before ++ below) = survey root title [] below := by
  induction before with
  | nil => rfl
  | cons line before ih =>
    obtain ⟨hline, hblank⟩ := List.forall_mem_cons.1 hblank
    have hparse : KeyLine.parse? line = none :=
      KeyLine.parse?_of_colon_notMem (by rw [hline]; exact List.not_mem_nil)
    have hcomment : Line.isComment line = false := by
      rw [Line.isComment, hline]
      rfl
    rw [List.cons_append, survey, findAt_of_none hparse, titleBelow_of_not_isComment hcomment,
      ← ih hblank]
    refine survey_congr_of_climb (fun start => ?_) ?_ title (before ++ below)
    · exact Line.climb_cons_of_none hparse start []
    · exact Line.commentRun_cons_of_not_isComment hcomment []

/-- What is found at the first line that is not blank is found first. -/
lemma findings_eq_append_of_isFirstLine {t line : Text} (h : t.IsFirstLine line) (root : Value) :
    ∃ more, findings t root = findings line root ++ more := by
  obtain ⟨hne, before, after, hlines, hbefore⟩ := h
  have hmem : line ∈ t.lines := by simp [hlines]
  rw [findings_of_lineFeed_notMem (Text.not_mem_lineFeed_of_mem_lines hmem), findings_eq_survey,
    hlines, survey_append_of_blank hbefore]
  exact ⟨_, rfl⟩

/-! ## Encodings -/

/-- **The parameters of a text in another encoding.** For every text and every tree:

* With a carriage return before every line feed, the parameters are the same.
* Behind a byte order mark, they are the same if the first line is neither a comment nor has a
  colon. In any case they are those of the lines that still count (`Line.behindMark`), where no key
  of the tree begins with a byte order mark itself: the first line is blank, and if it had a colon,
  so are the key lines below it down to the next one that is not indented.
* With carriage returns in the place of line feeds, there is at most one parameter, without section
  and comments. If the first line that is not blank is a comment, separates documents, or has a
  colon, and does not only open a block, its parameter is the one that remains. It is the first
  parameter of the text.

**Proof sketch.** A carriage return before a line feed is taken for a blank at the end of the line
(`Text.map_trimEnd_lines_withCarriageReturns`). Behind a byte order mark, a line with a colon is a
key line that nothing in the tree belongs to (`KeyLine.exists_parse?_byteOrderMark`), so that all
that is indented below it is lost (`survey_shadeKeys`). With carriage returns only, there is
no line feed, so that the text is one line (`findings_of_lineFeed_notMem`), of which the first line
that is not blank is read (`findAt_joined`). -/
theorem parameters_encoded (t : Text) (root : Value) :
    parameters t.withCarriageReturns root = parameters t root ∧
      (∀ first below, t.lines = first :: below → Line.isComment first = false → ':' ∉ first →
        parameters (Text.byteOrderMark :: t) root = parameters t root) ∧
      ((∀ name, root.resolve? [Text.byteOrderMark :: name] = none) →
        parameters (Text.byteOrderMark :: t) root =
          (findingsFrom root [] [] 0 (Line.behindMark t.lines)).map Finding.parameter) ∧
      (parameters t.withBareReturns root).length ≤ 1 ∧
      (∀ p ∈ parameters t.withBareReturns root, p.sectionTitle = [] ∧ p.examples = [] ∧
        p.description = "Configuration for ".toList ++ p.name) ∧
      ∀ line, t.IsFirstLine line →
        (':' ∈ line.trim ∨ line.trim.startsWith ['#'] = true ∨
          line.trim.startsWith ['-', '-', '-'] = true) →
        (∀ found value, KeyLine.parse? line = some found →
          root.resolve? [found.key] = some value → opensBlock found value = false) →
        parameters t.withBareReturns root = parameters line root ∧
          ∃ more, parameters t root = parameters line root ++ more := by
  have hone : findings t.withBareReturns root =
      (findAt root [] [] t.withBareReturns).toList :=
    findings_of_lineFeed_notMem (Text.lineFeed_notMem_withBareReturns t) root
  refine ⟨?_, fun first below hlines hcomment hcolon => ?_, fun hnone => ?_, ?_, fun p hp => ?_,
    fun line hline hmark hopens => ?_⟩
  · exact congrArg _ (findings_eq_of_sameLayout
      (.of_map_trimEnd (Text.map_trimEnd_lines_withCarriageReturns t)) root)
  · exact congrArg _ (findings_byteOrderMark_cons_of_notMem hlines hcomment hcolon root)
  · exact congrArg _ (findings_byteOrderMark_cons t hnone)
  · rw [parameters, hone, List.length_map]
    exact Option.length_toList_le
  · obtain ⟨f, hf, rfl⟩ := List.mem_map.1 hp
    rw [hone, Option.mem_toList] at hf
    exact parameter_of_findAt_nil hf
  · obtain ⟨pad, more, hpad, heq⟩ := hline.exists_withBareReturns_eq
    obtain ⟨others, hothers⟩ := findings_eq_append_of_isFirstLine hline root
    have hfeed : '\n' ∉ line := by
      obtain ⟨-, before, after, hlines, -⟩ := hline
      exact Text.not_mem_lineFeed_of_mem_lines (t := t) (by simp [hlines])
    have hsame : findings t.withBareReturns root = findings line root := by
      rw [hone, heq, findAt_joined hpad hmark hopens, findings_of_lineFeed_notMem hfeed]
    refine ⟨congrArg _ hsame, others.map Finding.parameter, ?_⟩
    rw [parameters, hothers, List.map_append]
    rfl

/-- A values file with two keys. -/
def twoKeys : Text := "a: 1\nb: 2\n".toList

/-- Carriage returns before line feeds change nothing, a byte order mark loses the first key unless
there is a blank line between, and with carriage returns only, the first key is the only one. -/
theorem parameters_encoded_twoKeys :
    let root : Value := .map [(.text "a".toList, .int 1), (.text "b".toList, .int 2)]
    parameters twoKeys.withCarriageReturns root = parameters twoKeys root ∧
      parameters (Text.byteOrderMark :: '\n' :: twoKeys) root = parameters ('\n' :: twoKeys) root ∧
      parameters (Text.byteOrderMark :: twoKeys) root = parameters "b: 2".toList root ∧
      (∃ p, parameters twoKeys.withBareReturns root = [p] ∧ p.name = "a".toList ∧
        p.sectionTitle = [] ∧ ∃ more, parameters twoKeys root = p :: more) := by
  intro root
  obtain ⟨hreturns, -, hmark, -, hplain, hfirst⟩ := parameters_encoded twoKeys root
  obtain ⟨-, hblank, -⟩ := parameters_encoded ('\n' :: twoKeys) root
  have hnone : ∀ name, root.resolve? [Text.byteOrderMark :: name] = none := fun name => rfl
  have hline : twoKeys.IsFirstLine "a: 1".toList :=
    ⟨by decide, [], ["b: 2".toList], by decide, List.forall_mem_nil _⟩
  have hopens : ∀ found value, KeyLine.parse? "a: 1".toList = some found →
      root.resolve? [found.key] = some value → opensBlock found value = false := by
    intro found value hparse _
    have ha : KeyLine.parse? "a: 1".toList = some ⟨0, "a".toList, true⟩ := by decide
    obtain rfl := Option.some.inj (ha.symm.trans hparse)
    rfl
  obtain ⟨hone, more, hmore⟩ := hfirst _ hline (.inl (by decide)) hopens
  obtain ⟨p, hp, hname⟩ : ∃ p, parameters "a: 1".toList root = [p] ∧ p.name = "a".toList :=
    ⟨_, rfl, rfl⟩
  rw [hp] at hone hmore
  exact ⟨hreturns, hblank [] twoKeys.lines (by decide) (by decide) (by decide),
    (hmark hnone).trans (by decide), p, hone, hname, (hplain p (by simp [hone])).1, more, hmore⟩

/-- A values file with a comment above its key. -/
def commentedKey : Text := "# A\na: 1\n".toList

/-- Whether a tree is that of the commented key. -/
def isCommentedTree : Value → Bool
  | .map [(.text key, .int n)] => key == "a".toList && n == 1
  | _ => false

/-- There is one such tree. -/
lemma parseValues_eq_of_isCommentedTree {t : Text}
    (h : (parseValues t).toOption.any isCommentedTree = true) :
    parseValues t = .ok (.map [(.text "a".toList, .int 1)]) := by
  obtain ⟨root, hroot, hcheck⟩ := exists_root_of_any h
  rw [hroot]
  unfold isCommentedTree at hcheck
  split at hcheck
  · obtain ⟨hkey, hn⟩ := Bool.and_eq_true_iff.1 hcheck
    rw [eq_of_beq hkey, eq_of_beq hn]
  · cases hcheck

/-- The commented key has the same tree behind a byte order mark, and with carriage returns in the
place of line feeds. But there it loses its comment, and here it is lost itself. -/
theorem exists_parameters_encoded_ne :
    ∃ root, parseValues commentedKey = .ok root ∧
      (parseValues (Text.byteOrderMark :: commentedKey) = .ok root ∧
        parameters (Text.byteOrderMark :: commentedKey) root ≠ parameters commentedKey root) ∧
      parseValues commentedKey.withBareReturns = .ok root ∧
        parameters commentedKey.withBareReturns root ≠ parameters commentedKey root := by
  have hplain : (parseValues commentedKey).toOption.any isCommentedTree = true := by decide +kernel
  have hmark : (parseValues (Text.byteOrderMark :: commentedKey)).toOption.any isCommentedTree =
      true := by
    decide +kernel
  have hreturns : (parseValues commentedKey.withBareReturns).toOption.any isCommentedTree =
      true := by
    decide +kernel
  exact ⟨_, parseValues_eq_of_isCommentedTree hplain,
    ⟨parseValues_eq_of_isCommentedTree hmark, by decide⟩,
    parseValues_eq_of_isCommentedTree hreturns, by decide⟩

end ChartValues
