import ChartValues.Proofs.Line.Banner
import ChartValues.Proofs.Line.Trimmed

set_option autoImplicit false

/-!
# Where a look-ahead ends

The look-ahead from a line ends at a later line of the file, or directly behind the last one. What
it passes over are bare comments and rules. Any blanks may stand between the number sign and a rule
here, while a banner line has a single space there. So every banner line is a rule and a look-ahead
never ends at one, but not every rule that is passed over is a banner line.

## Main definitions

* `Line.IsBare`, `Line.IsRule` — the comments that a look-ahead passes over, by their looks.
* `Line.lookAhead` — the title that is found from a line, and where reading goes on.
* `Line.EndsLookAhead` — what may be said of a title and a place that a look-ahead ends with.

## Main results

* `Line.isTitle_eq_false_iff` — a comment is no title exactly if it is bare or a rule.
* `Line.isRule_of_isBanner` — banner lines are rules.
* `Line.lookAhead_eq_iff` — where a look-ahead ends is told by the lines up to there.
-/

namespace ChartValues

namespace Line

/-! ## Bare comments and rules -/

/-- `IsBare line` says that the line is a number sign and blanks around it. -/
def IsBare (line : Text) : Prop := line.trim = ['#']

/-- `IsRule line` says that the line is a comment that begins with a rule, after any blanks. -/
def IsRule (line : Text) : Prop :=
  ∃ pad rest : Text, (∀ c ∈ pad, Text.isBlank c = true) ∧
    line.trim = '#' :: (pad ++ (rule ++ rest))

/-- A comment is a number sign and a text, and it says this text without the blanks around it. -/
lemma exists_of_isComment {line : Text} (h : isComment line = true) :
    ∃ said : Text, line.trim = '#' :: said ∧ content line = said.trim := by
  obtain ⟨said, hsaid⟩ := List.isPrefixOf_iff_prefix.1 h
  refine ⟨said, hsaid.symm, ?_⟩
  rw [← content_trim, ← hsaid]
  exact content_cons said

/-- A comment says nothing exactly if it is bare. -/
lemma content_eq_nil_iff {line : Text} (h : isComment line = true) :
    content line = [] ↔ IsBare line := by
  obtain ⟨said, htrim, hcontent⟩ := exists_of_isComment h
  rw [hcontent, IsBare]
  constructor
  · intro hnil
    have hblank := Text.isBlank_of_trim_eq_nil hnil
    calc line.trim = Text.trim (['#'] ++ said) := by rw [← Text.trim_trim, htrim]; rfl
      _ = Text.trim ['#'] := Text.trim_append_of_blank_right _ hblank
      _ = ['#'] := rfl
  · intro hbare
    rw [htrim] at hbare
    obtain rfl : said = [] := List.tail_eq_of_cons_eq hbare
    rfl

/-- What a comment says begins with a rule exactly if the comment is a rule. -/
lemma startsWith_content_iff {line : Text} (h : isComment line = true) :
    (content line).startsWith rule = true ↔ IsRule line := by
  obtain ⟨said, htrim, hcontent⟩ := exists_of_isComment h
  rw [hcontent]
  constructor
  · intro hrule
    obtain ⟨rest, hrest⟩ := List.isPrefixOf_iff_prefix.1 hrule
    obtain ⟨tail, -, hsaid⟩ := Text.exists_eq_takeWhile_append_trim said
    refine ⟨said.takeWhile Text.isBlank, rest ++ tail,
      fun c hc => List.mem_takeWhile_imp hc, ?_⟩
    rw [htrim, ← List.append_assoc rule, hrest, ← hsaid]
  · rintro ⟨pad, rest, hpad, hline⟩
    rw [htrim] at hline
    rw [List.tail_eq_of_cons_eq hline, Text.trim_append_of_blank hpad]
    exact List.isPrefixOf_iff_prefix.2 (Text.trim_prefix_append rule rest)

/-- **A comment is no title exactly if it is bare or a rule.** -/
lemma isTitle_eq_false_iff {line : Text} (h : isComment line = true) :
    isTitle line = false ↔ IsBare line ∨ IsRule line := by
  rw [← content_eq_nil_iff h, ← startsWith_content_iff h, isTitle, h]
  cases (content line).startsWith rule <;> simp

/-- **Banner lines are rules**, with a single space in front. -/
lemma isRule_of_isBanner {line : Text} (h : isBanner line = true) : IsRule line := by
  obtain ⟨rest, hrest⟩ := List.isPrefixOf_iff_prefix.1 h
  refine ⟨[' '], rest, ?_, hrest.symm⟩
  intro c hc
  rw [List.mem_singleton.1 hc]
  rfl

/-! ## The end of a look-ahead -/

/-- The line below the passed ones is the title that was found. -/
lemma exists_of_title?_eq_some {below : List Text} {title : Text}
    (h : (outlook below).title? = some title) :
    ∃ line, below[(outlook below).passed]? = some line ∧ isTitle line = true ∧
      content line = title := by
  induction below with
  | nil => cases h
  | cons line below ih =>
    rw [outlook] at h ⊢
    split_ifs at h ⊢ with hcomment htitle
    · exact ⟨line, rfl, htitle, Option.some.inj h⟩
    · exact ih h

/-- If no title was found, the line below the passed ones is no comment. -/
lemma not_isComment_of_title?_eq_none {below : List Text} (h : (outlook below).title? = none)
    {line : Text} (hget : below[(outlook below).passed]? = some line) :
    isComment line = false := by
  induction below with
  | nil => cases hget
  | cons next below ih =>
    rw [outlook] at h hget
    split_ifs at h hget with hcomment htitle
    · obtain rfl : next = line := Option.some.inj hget
      simpa using hcomment
    · exact ih h hget

/-! ## Look-aheads by index -/

/-- The title that is found from the line with the given index, and the index of the line where
reading goes on. -/
def lookAhead (lines : List Text) (index : Nat) : Option Text × Nat :=
  let ahead := outlook (lines.drop (index + 1))
  (ahead.title?, index + 1 + ahead.passed)

/-- `EndsLookAhead lines index title? next` says that a look-ahead from the line with the given
index may end with `title?` and go on at `next`. -/
structure EndsLookAhead (lines : List Text) (index : Nat) (title? : Option Text) (next : Nat) :
    Prop where
  lt : index < next
  le : next ≤ lines.length
  /-- Only comments are passed over, and only bare ones and rules. -/
  passed : ∀ n line, index < n → n < next → lines[n]? = some line →
    isComment line = true ∧ (IsBare line ∨ IsRule line)
  /-- A title is what the comment says where reading goes on. -/
  title : ∀ title, title? = some title → ∃ line, lines[next]? = some line ∧
    isComment line = true ∧ content line = title ∧
      ¬ IsBare line ∧ ¬ IsRule line ∧ isBanner line = false
  /-- Without a title, the comments have come to their end. -/
  untitled : title? = none →
    next = lines.length ∨ ∃ line, lines[next]? = some line ∧ isComment line = false

/-- The look-ahead from a line of the file ends as it should. -/
lemma endsLookAhead_lookAhead {lines : List Text} {index : Nat} (h : index < lines.length) :
    EndsLookAhead lines index (lookAhead lines index).1 (lookAhead lines index).2 := by
  have hle := passed_outlook_le (lines.drop (index + 1))
  rw [List.length_drop] at hle
  have hnext : lines[(lookAhead lines index).2]? =
      (lines.drop (index + 1))[(outlook (lines.drop (index + 1))).passed]? :=
    List.getElem?_drop.symm
  constructor
  case lt => simp only [lookAhead]; omega
  case le => simp only [lookAhead]; omega
  case passed =>
    intro n line hgt hlt hget
    simp only [lookAhead] at hlt
    have hget : (lines.drop (index + 1))[n - (index + 1)]? = some line := by
      rw [List.getElem?_drop, ← hget]
      congr 1
      omega
    obtain ⟨hcomment, htitle⟩ := bare_of_lt_passed (by omega) hget
    exact ⟨hcomment, (isTitle_eq_false_iff hcomment).1 htitle⟩
  case title =>
    intro title hsome
    obtain ⟨line, hget, htitle, hcontent⟩ := exists_of_title?_eq_some hsome
    have hcomment : isComment line = true := by
      simp only [isTitle, Bool.and_eq_true] at htitle
      exact htitle.1.1
    have hother : ¬ (IsBare line ∨ IsRule line) := by
      rw [← isTitle_eq_false_iff hcomment, htitle]
      exact Bool.noConfusion
    refine ⟨line, hnext.trans hget, hcomment, hcontent, fun hbare => hother (.inl hbare),
      fun hrule => hother (.inr hrule), ?_⟩
    by_contra hbanner
    exact hother (.inr (isRule_of_isBanner (by simpa using hbanner)))
  case untitled =>
    intro hnone
    cases hget : lines[(lookAhead lines index).2]? with
    | none =>
      rw [List.getElem?_eq_none_iff] at hget
      simp only [lookAhead] at hget ⊢
      omega
    | some line =>
      exact .inr ⟨line, rfl, not_isComment_of_title?_eq_none hnone (hnext.symm.trans hget)⟩

namespace EndsLookAhead

variable {lines : List Text} {index next next' : Nat} {title? title?' : Option Text}

/-- Where one look-ahead ends, no other one goes on. -/
lemma not_lt (h : EndsLookAhead lines index title? next)
    (h' : EndsLookAhead lines index title?' next') : ¬ next < next' := by
  intro hlt
  have hget := List.getElem?_eq_getElem (Nat.lt_of_lt_of_le hlt h'.le)
  obtain ⟨hcomment, hother⟩ := h'.passed next _ h.lt hlt hget
  cases title? with
  | none =>
    rcases h.untitled rfl with hend | ⟨line, hline, hstop⟩
    · have := h'.le
      omega
    · obtain rfl := Option.some.inj (hget.symm.trans hline)
      rw [hcomment] at hstop
      cases hstop
  | some title =>
    obtain ⟨line, hline, -, -, hbare, hrule, -⟩ := h.title title rfl
    obtain rfl := Option.some.inj (hget.symm.trans hline)
    exact hother.elim hbare hrule

/-- A look-ahead that finds a title at some place does not come to the end of the comments there. -/
lemma title?_ne_none (h : EndsLookAhead lines index title? next) {title : Text}
    (h' : EndsLookAhead lines index (some title) next) : title? ≠ none := by
  intro hnone
  obtain ⟨line, hline, hcomment, -⟩ := h'.title title rfl
  rcases h.untitled hnone with hend | ⟨other, hother, hstop⟩
  · rw [hend, List.getElem?_eq_none le_rfl] at hline
    cases hline
  · obtain rfl := Option.some.inj (hline.symm.trans hother)
    rw [hcomment] at hstop
    cases hstop

/-- A look-ahead ends in one way only. -/
lemma unique (h : EndsLookAhead lines index title? next)
    (h' : EndsLookAhead lines index title?' next') : title? = title?' ∧ next = next' := by
  obtain rfl : next = next' :=
    Nat.le_antisymm (Nat.not_lt.1 (h'.not_lt h)) (Nat.not_lt.1 (h.not_lt h'))
  refine ⟨?_, rfl⟩
  cases title? with
  | none =>
    cases title?' with
    | none => rfl
    | some title' => exact absurd rfl (h.title?_ne_none h')
  | some title =>
    cases title?' with
    | none => exact absurd rfl (h'.title?_ne_none h)
    | some title' =>
      obtain ⟨line, hline, -, hcontent, -⟩ := h.title title rfl
      obtain ⟨other, hother, -, hcontent', -⟩ := h'.title title' rfl
      obtain rfl := Option.some.inj (hline.symm.trans hother)
      rw [← hcontent, hcontent']

end EndsLookAhead

/-- **Where a look-ahead ends is told by the lines up to there**, and it does end. -/
lemma lookAhead_eq_iff {lines : List Text} {index : Nat} (h : index < lines.length)
    (title? : Option Text) (next : Nat) :
    lookAhead lines index = (title?, next) ↔ EndsLookAhead lines index title? next := by
  constructor
  · intro heq
    have hends := endsLookAhead_lookAhead h
    rwa [heq] at hends
  · intro hends
    obtain ⟨htitle, hnext⟩ := (endsLookAhead_lookAhead h).unique hends
    rw [← htitle, ← hnext]

end Line

end ChartValues
