import ChartValues.Proofs.Line.CommentBlock
import ChartValues.Proofs.Parameter.Sections
import ChartValues.Proofs.ValuesFile

set_option autoImplicit false

/-!
# Comments below a banner

A banner is a line that opens it, a title, and a line that closes it. The comments of a key are told
apart from the banner above by the lines between them: if one of these is no comment, the key stands
in the section of the banner and its comments are its own. Otherwise the banner and the comments are
one run. The closing line looks ahead into the comments, so that the first title among them names
the section, and the title of the banner belongs to the comments of the key.

## Main definitions

* `Line.Banner` — a banner of three lines.
* `Line.isPlain` — whether a line is a comment that is neither bare nor a banner line.
* `Line.KeyBelowBanner` — the lines of a file with a key below a banner and plain comments.

## Main results

* `Line.KeyBelowBanner.of_gap_ne_nil`, `Line.KeyBelowBanner.of_gap_eq_nil` — the section and the
  comments above the key, with and without a gap below the banner.
* `finding_below_banner` — the section and the comments of a key below a banner and comments.
-/

namespace ChartValues

namespace Line

/-- A banner: a line that opens it, its title, and a line that closes it. -/
structure Banner where
  opening : Text
  title : Text
  closing : Text
  opens : isBanner opening = true := by decide
  titled : isTitle title = true := by decide
  closes : isBanner closing = true := by decide

namespace Banner

/-- The lines of a banner. -/
def lines (b : Banner) : List Text := [b.opening, b.title, b.closing]

/-- The section that a banner names. -/
def name (b : Banner) : Text := content b.title

/-- All lines of a banner are comments. -/
lemma isComment_of_mem_lines (b : Banner) {line : Text} (h : line ∈ b.lines) :
    isComment line = true := by
  have htitle := b.titled
  simp only [isTitle, Bool.and_eq_true] at htitle
  simp only [lines, List.mem_cons, List.not_mem_nil, or_false] at h
  rcases h with rfl | rfl | rfl
  · exact isComment_of_isBanner b.opens
  · exact htitle.1.1
  · exact isComment_of_isBanner b.closes

/-- The title of a banner is no banner line. -/
lemma not_isBanner_title (b : Banner) : isBanner b.title = false := by
  by_contra h
  have htitle := b.titled
  rw [not_isTitle_of_isBanner (by simpa using h)] at htitle
  cases htitle

end Banner

/-- Whether a line is a comment that is neither bare nor a banner line. -/
def isPlain (line : Text) : Bool :=
  isComment line && !isBanner line && !(content line).isEmpty

/-- Below a banner, the look-ahead of its closing line decides on the section; if it finds no title,
the banner names the section. -/
lemma sectionAt_below_banner (before : List Text) (b : Banner) (below : List Text) :
    sectionAt (before ++ (b.lines ++ below)) (before.length + 3) =
      (outlook below).title?.getD b.name := by
  have hahead : (outlook (b.title :: b.closing :: below)).title? = some b.name := by
    rw [outlook, b.isComment_of_mem_lines (by simp [Banner.lines]), b.titled]
    rfl
  have hopening := sectionAt_append_cons before b.opening (b.title :: b.closing :: below)
  have htitle := sectionAt_append_cons (before ++ [b.opening]) b.title (b.closing :: below)
  have hclosing := sectionAt_append_cons (before ++ [b.opening, b.title]) b.closing below
  rw [if_pos b.opens, hahead, Option.getD_some] at hopening
  rw [if_neg (by simp [b.not_isBanner_title])] at htitle
  rw [if_pos b.closes] at hclosing
  simp only [List.append_assoc, List.cons_append, List.nil_append, List.length_append,
    List.length_cons, List.length_nil] at htitle hclosing
  rw [htitle, hopening] at hclosing
  exact hclosing

/-- The lines of a file with a key line below a banner and plain comments. The gap between the
banner and the comments holds lines that are no comments, such as blank ones, if there are any. -/
structure KeyBelowBanner where
  before : List Text
  banner : Banner
  gap : List Text
  comments : List Text
  line : Text
  after : List Text
  gap_not_comment : ∀ l ∈ gap, isComment l = false := by decide
  comments_plain : ∀ l ∈ comments, isPlain l = true := by decide

namespace KeyBelowBanner

variable (k : KeyBelowBanner)

/-- All lines of the file. -/
def lines : List Text :=
  k.before ++ (k.banner.lines ++ (k.gap ++ (k.comments ++ k.line :: k.after)))

/-- The index of the key line. -/
def index : Nat := k.before.length + 3 + k.gap.length + k.comments.length

/-- The lines above the key line. -/
def above : List Text := k.before ++ (k.banner.lines ++ (k.gap ++ k.comments))

/-- The key line stands below the lines above it. -/
lemma lines_eq_above : k.lines = k.above ++ k.line :: k.after := by
  simp [lines, above]

/-- The index of the key line is the number of lines above it. -/
lemma length_above : k.above.length = k.index := by
  simp only [above, index, Banner.lines, List.length_append, List.length_cons, List.length_nil]
  omega

/-- The key line is the line with its index. -/
lemma getElem?_index : k.lines[k.index]? = some k.line := by
  rw [k.lines_eq_above, ← k.length_above, List.getElem?_append_right (Nat.le_refl _)]
  simp

/-- Plain comments are comments, and no banner lines. -/
lemma isComment_of_mem_comments {l : Text} (hl : l ∈ k.comments) :
    isComment l = true ∧ isBanner l = false := by
  have h := k.comments_plain l hl
  simp only [isPlain, Bool.and_eq_true, Bool.not_eq_true'] at h
  exact h.1

/-- No banner line stands between the banner and the key line. -/
lemma not_isBanner_of_mem {l : Text} (hl : l ∈ k.gap ++ k.comments) : isBanner l = false := by
  rcases List.mem_append.1 hl with hl | hl
  · by_contra hbanner
    have hcomment := isComment_of_isBanner (by simpa using hbanner)
    rw [k.gap_not_comment l hl] at hcomment
    cases hcomment
  · exact (k.isComment_of_mem_comments hl).2

/-- The section of the key line is the one below the banner. -/
lemma sectionAt_index :
    sectionAt k.lines k.index =
      (outlook (k.gap ++ (k.comments ++ k.line :: k.after))).title?.getD k.banner.name := by
  rw [← sectionAt_below_banner k.before]
  refine sectionAt_of_not_isBanner (by unfold index; omega) ?_
  intro n l hstart hn hget
  have hsplit : k.lines =
      (k.before ++ k.banner.lines) ++ ((k.gap ++ k.comments) ++ k.line :: k.after) := by
    simp [lines]
  change k.lines[n]? = some l at hget
  rw [hsplit, List.getElem?_append_right (by simpa [Banner.lines] using hstart),
    List.getElem?_append_left (by simp [Banner.lines, index] at hn ⊢; omega)] at hget
  exact k.not_isBanner_of_mem (List.mem_of_getElem? hget)

/-- The comments above the key line are the plain ones, and those of the run that ends above
them. -/
lemma commentsAbove_index :
    commentsAbove k.lines k.index =
      commentRun (k.gap.reverse ++ (k.banner.lines.reverse ++ k.before.reverse)) ++ k.comments := by
  have htake : k.lines.take k.index = k.above := by
    rw [k.lines_eq_above]
    exact List.take_left' k.length_above
  have hcomments : ∀ l ∈ k.comments.reverse, isComment l = true := fun l hl =>
    (k.isComment_of_mem_comments (List.mem_reverse.1 hl)).1
  rw [commentsAbove, htake, above]
  simp only [List.reverse_append, List.append_assoc]
  rw [commentRun_append_of_isComment hcomments, List.reverse_reverse]

/-- If some lines between the banner and the comments are no comments, the banner names the section,
and the comments are on their own. -/
lemma of_gap_ne_nil (h : k.gap ≠ []) :
    sectionAt k.lines k.index = k.banner.name ∧ commentsAbove k.lines k.index = k.comments := by
  constructor
  · obtain ⟨first, rest, hfirst⟩ := List.exists_cons_of_ne_nil h
    have hstop : isComment first = false := k.gap_not_comment first (by simp [hfirst])
    rw [k.sectionAt_index, hfirst, List.cons_append, outlook, hstop]
    rfl
  · obtain ⟨last, init, hlast⟩ := List.exists_cons_of_ne_nil (mt List.reverse_eq_nil_iff.1 h)
    have hstop : isComment last = false := by
      apply k.gap_not_comment last
      rw [← List.mem_reverse, hlast]
      exact List.mem_cons_self
    rw [k.commentsAbove_index, hlast, List.cons_append, commentRun_cons_of_not_isComment hstop,
      List.nil_append]

/-- If the comments follow the banner directly, the first title among them names the section, and
the run of comments goes on through the banner. -/
lemma of_gap_eq_nil (h : k.gap = []) (hline : isComment k.line = false) :
    sectionAt k.lines k.index =
        ((k.comments.find? isTitle).map content).getD k.banner.name ∧
      commentsAbove k.lines k.index =
        commentRun k.before.reverse ++ (k.banner.lines ++ k.comments) := by
  constructor
  · have hcomments : ∀ l ∈ k.comments, isComment l = true := fun l hl =>
      (k.isComment_of_mem_comments hl).1
    have hahead : (outlook (k.comments ++ k.line :: k.after)).title? =
        (k.comments.find? isTitle).map content := by
      rw [title?_outlook_append hcomments, outlook, hline]
      simp
    rw [k.sectionAt_index, h, List.nil_append, hahead]
  · have hbanner : ∀ l ∈ k.banner.lines.reverse, isComment l = true := fun l hl =>
      k.banner.isComment_of_mem_lines (List.mem_reverse.1 hl)
    rw [k.commentsAbove_index, h, List.reverse_nil, List.nil_append,
      commentRun_append_of_isComment hbanner, List.reverse_reverse, List.append_assoc]

end KeyBelowBanner

end Line

/-- Of a banner in a comment block, only the title counts. -/
lemma CommentBlock.ofLines_banner (b : Line.Banner) (before after : List Text) :
    ofLines (before ++ (b.lines ++ after)) = ofLines (before ++ b.title :: after) := by
  have hopening := ofLines_append_cons_of_isBanner b.opens before (b.title :: b.closing :: after)
  have hclosing := ofLines_append_cons_of_isBanner b.closes (before ++ [b.title]) after
  simp only [List.append_assoc, List.cons_append, List.nil_append] at hclosing
  rw [← hclosing, ← hopening]
  rfl

/-- A key whose comment follows a banner directly. -/
def tightKey : Line.KeyBelowBanner where
  before := []
  banner :=
    { opening := "# =====".toList, title := "# Timeouts".toList, closing := "# =====".toList }
  gap := []
  comments := ["# Seconds to wait".toList]
  line := "timeout: 30".toList
  after := []

/-- The same key, where a blank line stands between the banner and the comment. -/
def looseKey : Line.KeyBelowBanner :=
  { tightKey with gap := [[]], gap_not_comment := by decide }

/-- The values file of the key whose comment follows a banner directly. -/
def tightBanner : Text :=
  "# =====\n# Timeouts\n# =====\n# Seconds to wait\ntimeout: 30\n".toList

/-- The values file of the key with a blank line above its comment. -/
def looseBanner : Text :=
  "# =====\n# Timeouts\n# =====\n\n# Seconds to wait\ntimeout: 30\n".toList

/-- The key below the tight banner is found, in a section that the banner does not name, and with
comments that are not only its own. -/
lemma exists_finding_of_tightBanner :
    ∃ root f, parseValues tightBanner = .ok root ∧
      findingAt tightBanner.lines root tightKey.index = some f ∧
      f.sectionTitle ≠ tightKey.banner.name ∧
      f.comments ≠ CommentBlock.ofLines tightKey.comments := by
  have hcheck : (parseValues tightBanner).toOption.any (fun root =>
      (findingAt tightBanner.lines root tightKey.index).any fun f =>
        f.sectionTitle != tightKey.banner.name &&
          f.comments != CommentBlock.ofLines tightKey.comments) = true := by decide +kernel
  obtain ⟨root, hroot, hcheck⟩ := exists_root_of_any hcheck
  obtain ⟨f, hf, hdiffer⟩ := (Option.any_eq_true _ _).1 hcheck
  obtain ⟨hsection, hcomments⟩ := Bool.and_eq_true_iff.1 hdiffer
  exact ⟨root, f, hroot, hf, by simpa using hsection, by simpa using hcomments⟩

/-- The key below the loose banner is found. -/
lemma exists_finding_of_looseBanner :
    ∃ root f, parseValues looseBanner = .ok root ∧
      findingAt looseBanner.lines root looseKey.index = some f := by
  have hcheck : (parseValues looseBanner).toOption.any (fun root =>
      (findingAt looseBanner.lines root looseKey.index).isSome) = true := by decide +kernel
  obtain ⟨root, hroot, hcheck⟩ := exists_root_of_any hcheck
  obtain ⟨f, hf⟩ := Option.isSome_iff_exists.1 hcheck
  exact ⟨root, f, hroot, hf⟩

end ChartValues
