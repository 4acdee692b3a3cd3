import ChartValues.Proofs.Text.Trim
import ChartValues.Text.Lines

set_option autoImplicit false

/-!
# Line ends

A carriage return before every line feed makes no other lines: most of them are taken for a part of
the line end, and where one stood there already, the line gets a blank at its end. With carriage
returns in the place of line feeds, the text is a single line. A byte order mark in front belongs
to the first line.

## Main definitions

* `Text.withCarriageReturns` — the text with a carriage return before every line feed.
* `Text.withBareReturns` — the text with carriage returns in the place of line feeds.
* `Text.byteOrderMark` — the character that may stand in front of a text.
* `Text.IsFirstLine` — the first line that is not blank.

## Main results

* `Text.map_trimEnd_lines_withCarriageReturns` — the lines stay the same but for blanks at their
  ends.
* `Text.lines_of_lineFeed_notMem` — a text without line feeds is one line.
* `Text.IsFirstLine.exists_withBareReturns_eq` — the first line that is not blank stands between
  blanks and the rest of this line.
-/

namespace ChartValues

namespace Text

/-- The text with a carriage return before every line feed. -/
def withCarriageReturns (t : Text) : Text :=
  t.flatMap fun c => if c = '\n' then ['\r', '\n'] else [c]

lemma withCarriageReturns_cons (c : Char) (t : Text) :
    withCarriageReturns (c :: t) =
      (if c = '\n' then ['\r', '\n'] else [c]) ++ withCarriageReturns t := by
  simp [withCarriageReturns]

/-- With carriage returns, no text begins with a line feed. -/
lemma head?_withCarriageReturns_ne (t : Text) : (withCarriageReturns t).head? ≠ some '\n' := by
  cases t with
  | nil => simp [withCarriageReturns]
  | cons c t =>
    rw [withCarriageReturns_cons]
    split_ifs with hc
    · simp
    · simpa using hc

/-- The end of a text in front of which a character is put. -/
lemma trimEnd_cons (c : Char) (t : Text) :
    trimEnd (c :: t) = if (trimEnd t).isEmpty && isBlank c then [] else c :: trimEnd t := by
  unfold trimEnd
  rw [List.reverse_cons, List.dropWhile_append]
  cases hdrop : t.reverse.dropWhile isBlank with
  | nil => cases hc : isBlank c <;> simp [hc]
  | cons d rest => simp

/-- A character that ends no line is put in front of the first line. -/
lemma lines_cons {c : Char} {t : Text} (hfeed : c ≠ '\n')
    (hreturn : ¬ (c = '\r' ∧ t.head? = some '\n')) :
    lines (c :: t) = (c :: (lines t).head?.getD []) :: (lines t).tail := by
  rw [lines, if_neg hfeed, if_neg hreturn]
  cases lines t <;> rfl

/-- **Carriage returns before line feeds make no other lines**, but for blanks at the ends of lines.

**Proof sketch.** Induction on the text. A line feed ends a line with and without the carriage
return. A carriage return that belonged to the line end becomes the last character of its line,
where it is a blank. Any other character goes to the front of the first line. -/
lemma map_trimEnd_lines_withCarriageReturns (t : Text) :
    (withCarriageReturns t).lines.map trimEnd = t.lines.map trimEnd := by
  induction t with
  | nil => rfl
  | cons c t ih =>
    rw [withCarriageReturns_cons]
    by_cases hfeed : c = '\n'
    · subst hfeed
      simp [lines, ih]
    rw [if_neg hfeed, List.singleton_append]
    have hreturn : ¬ (c = '\r' ∧ (withCarriageReturns t).head? = some '\n') := fun h =>
      head?_withCarriageReturns_ne t h.2
    rw [lines_cons hfeed hreturn]
    by_cases hend : c = '\r' ∧ List.head? t = some '\n'
    · obtain ⟨rfl, hhead⟩ := hend
      obtain ⟨rest, rfl⟩ : ∃ rest, t = '\n' :: rest := List.head?_eq_some_iff.1 hhead
      have hline : lines ('\r' :: '\n' :: rest) = lines ('\n' :: rest) := by simp [lines]
      have hlines : lines (withCarriageReturns ('\n' :: rest)) =
          [] :: lines (withCarriageReturns rest) := by
        simp [withCarriageReturns_cons, lines]
      rw [hlines] at ih
      rw [hline, hlines, ← ih]
      rfl
    · have hheads := congrArg (fun ls => (ls.head?).getD []) ih
      have htails := congrArg List.tail ih
      simp only [List.head?_map, ← List.map_tail] at hheads htails
      have hempty : ∀ first : Option Text,
          (first.map trimEnd).getD [] = trimEnd (first.getD []) := by
        rintro (_ | first) <;> rfl
      rw [hempty, hempty] at hheads
      rw [lines_cons hfeed hend, List.map_cons, List.map_cons, trimEnd_cons, trimEnd_cons,
        hheads, htails]

/-! ## Carriage returns only -/

/-- The text with carriage returns in the place of line feeds. -/
def withBareReturns (t : Text) : Text := t.map fun c => if c = '\n' then '\r' else c

lemma withBareReturns_append (t u : Text) :
    withBareReturns (t ++ u) = withBareReturns t ++ withBareReturns u :=
  List.map_append

/-- A text without line feeds stays. -/
lemma withBareReturns_of_notMem {t : Text} (h : '\n' ∉ t) : withBareReturns t = t := by
  refine (List.map_congr_left fun c hc => ?_).trans (List.map_id t)
  exact if_neg (ne_of_mem_of_not_mem hc h)

lemma lineFeed_notMem_withBareReturns (t : Text) : '\n' ∉ withBareReturns t := by
  intro h
  obtain ⟨c, -, hc⟩ := List.mem_map.1 h
  split_ifs at hc with hfeed
  · cases hc
  · exact hfeed hc

/-- Blanks stay blanks. -/
lemma isBlank_of_mem_withBareReturns {t : Text} (h : ∀ c ∈ t, isBlank c = true) :
    ∀ c ∈ withBareReturns t, isBlank c = true := by
  intro c hc
  obtain ⟨d, hd, rfl⟩ := List.mem_map.1 hc
  split_ifs
  · rfl
  · exact h d hd

/-- A text without line feeds is one line. -/
lemma lines_of_lineFeed_notMem {t : Text} (hne : t ≠ []) (h : '\n' ∉ t) : lines t = [t] := by
  induction t with
  | nil => exact absurd rfl hne
  | cons c t ih =>
    obtain ⟨hfeed, hrest⟩ := not_or.1 (mt List.mem_cons.2 h)
    have hreturn : ¬ (c = '\r' ∧ t.head? = some '\n') := fun hend =>
      hrest (List.mem_of_head? hend.2)
    rw [lines_cons (Ne.symm hfeed) hreturn]
    by_cases ht : t = []
    · subst ht
      rfl
    · rw [ih ht hrest]
      rfl

/-- A text is its first line, a line end, and what gives the other lines. -/
lemma exists_eq_append_of_lines_eq_cons {t line : Text} {rest : List Text}
    (h : lines t = line :: rest) :
    ∃ stop more : Text, t = line ++ (stop ++ more) ∧ lines more = rest ∧
      ∀ c ∈ stop, isBlank c = true := by
  induction t generalizing line with
  | nil => cases h
  | cons c t ih =>
    by_cases hfeed : c = '\n'
    · subst hfeed
      obtain ⟨rfl, rfl⟩ := List.cons.inj ((if_pos rfl).symm.trans h)
      exact ⟨['\n'], t, rfl, rfl, List.all_eq_true.1 rfl⟩
    by_cases hend : c = '\r' ∧ t.head? = some '\n'
    · obtain ⟨rfl, hhead⟩ := hend
      obtain ⟨more, rfl⟩ : ∃ more, t = '\n' :: more := List.head?_eq_some_iff.1 hhead
      have hlines : lines ('\r' :: '\n' :: more) = [] :: lines more := by simp [lines]
      obtain ⟨rfl, rfl⟩ := List.cons.inj (hlines.symm.trans h)
      exact ⟨['\r', '\n'], more, rfl, rfl, List.all_eq_true.1 rfl⟩
    · rw [lines_cons hfeed hend] at h
      cases hlines : lines t with
      | nil =>
        rw [hlines] at h
        obtain rfl := lines_eq_nil_iff.1 hlines
        obtain ⟨rfl, rfl⟩ := List.cons.inj h
        exact ⟨[], [], rfl, rfl, List.forall_mem_nil _⟩
      | cons next others =>
        rw [hlines] at h
        obtain ⟨rfl, rfl⟩ := List.cons.inj h
        obtain ⟨stop, more, rfl, hmore, hstop⟩ := ih hlines
        exact ⟨stop, more, rfl, hmore, hstop⟩

/-- `t.IsFirstLine line` says that a line of the text is not blank, and that all lines before it
are. -/
def IsFirstLine (t line : Text) : Prop :=
  line.trim ≠ [] ∧ ∃ before after : List Text, t.lines = before ++ line :: after ∧
    ∀ l ∈ before, l.trim = []

/-- **With carriage returns only, the first line that is not blank follows some blanks**, and is
itself followed by all that stood below it.

**Proof sketch.** Induction on the blank lines before it, each of which is taken off together with
its end. -/
lemma IsFirstLine.exists_withBareReturns_eq {t line : Text} (h : t.IsFirstLine line) :
    ∃ pad more : Text, (∀ c ∈ pad, isBlank c = true) ∧
      t.withBareReturns = pad ++ (line ++ more) := by
  obtain ⟨-, before, after, hlines, hbefore⟩ := h
  induction before generalizing t with
  | nil =>
    obtain ⟨stop, more, rfl, -, -⟩ := exists_eq_append_of_lines_eq_cons hlines
    have hmem : line ∈ lines (line ++ (stop ++ more)) := by simp [hlines]
    have hfeed : '\n' ∉ line := not_mem_lineFeed_of_mem_lines hmem
    refine ⟨[], withBareReturns (stop ++ more), List.forall_mem_nil _, ?_⟩
    rw [withBareReturns_append, withBareReturns_of_notMem hfeed, List.nil_append]
  | cons first before ih =>
    obtain ⟨hfirst, hbefore⟩ := List.forall_mem_cons.1 hbefore
    obtain ⟨stop, rest, rfl, hrest, hstop⟩ := exists_eq_append_of_lines_eq_cons hlines
    obtain ⟨pad, more, hpad, heq⟩ := ih hrest hbefore
    refine ⟨withBareReturns (first ++ stop) ++ pad, more, ?_, ?_⟩
    · intro c hc
      rcases List.mem_append.1 hc with hc | hc
      · refine isBlank_of_mem_withBareReturns (fun d hd => ?_) c hc
        rcases List.mem_append.1 hd with hd | hd
        · exact isBlank_of_trim_eq_nil hfirst d hd
        · exact hstop d hd
      · exact hpad c hc
    · rw [← List.append_assoc first, withBareReturns_append, heq, List.append_assoc]

/-! ## Byte order marks -/

/-- The character that may stand in front of a text. It is no blank. -/
def byteOrderMark : Char := '\uFEFF'

/-- A byte order mark belongs to the first line. -/
lemma lines_byteOrderMark_cons (t : Text) :
    lines (byteOrderMark :: t) = (byteOrderMark :: (lines t).head?.getD []) :: (lines t).tail :=
  lines_cons (by decide) fun h => absurd h.1 (by decide)

end Text

end ChartValues
