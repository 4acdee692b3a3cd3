import ChartValues.Proofs.Line.Blocks
import ChartValues.Proofs.Line.Trimmed
import ChartValues.Proofs.Parameter.Survey
import ChartValues.Proofs.Text.LineEnds
import Mathlib.Data.List.Forall2
import Mathlib.Order.Monotone.Basic

set_option autoImplicit false

/-!
# The layout of a file

Of the blanks of a file, only the order counts in which its key lines are indented. Two files with
the same trimmed lines, whose key lines are indented in the same order, have the same parameters.
So a file can be indented as a whole or step by step, it can gain or lose blanks at the ends of its
lines, and its line ends can be written with or without carriage returns.

## Main definitions

* `Line.KeepsOrder` — a relation of indentations that keeps their order.
* `Line.SameLine` — two lines with the same trimmed text, whose indentations are related.
* `SameLayout` — two files with the same trimmed lines and the same order of indentations.

## Main results

* `Line.climb_congr` — a climb is told by keys and the order of indentations.
* `survey_congr_of_sameLine` — so is what a survey finds.
* `parameters_eq_of_sameLayout` — files with the same layout have the same parameters.
-/

namespace ChartValues

namespace Line

/-! ## Related lines -/

/-- `KeepsOrder R` says that a relation of indentations keeps their order. -/
def KeepsOrder (R : Nat → Nat → Prop) : Prop :=
  ∀ ⦃a a' b b'⦄, R a a' → R b b' → (a < b ↔ a' < b')

/-- `SameLine R line line'` says that two lines have the same trimmed text and, if they are key
lines, related indentations. -/
structure SameLine (R : Nat → Nat → Prop) (line line' : Text) : Prop where
  trimmed : line.trim = line'.trim
  indented : definesKey line = true → R (indentation line) (indentation line')

variable {R : Nat → Nat → Prop}

/-- Two lines that are the same define the same key, or none. -/
lemma SameLine.parse?_cases {line line' : Text} (h : SameLine R line line') :
    (KeyLine.parse? line = none ∧ KeyLine.parse? line' = none) ∨
      ∃ key inline, KeyLine.parse? line = some ⟨indentation line, key, inline⟩ ∧
        KeyLine.parse? line' = some ⟨indentation line', key, inline⟩ ∧
        R (indentation line) (indentation line') := by
  have hline' := KeyLine.parse?_congr_trim h.trimmed
  cases hparse : KeyLine.parse? line with
  | none =>
    rw [hparse] at hline'
    exact .inl ⟨rfl, hline'⟩
  | some found =>
    obtain ⟨indent, key, inline⟩ := found
    obtain rfl : indent = indentation line := KeyLine.indent_of_parse? hparse
    rw [hparse] at hline'
    exact .inr ⟨key, inline, rfl, hline', h.indented (by simp [definesKey, hparse])⟩

/-- Lines that are the same one by one are the same when they are trimmed. -/
lemma map_trim_eq_of_forall₂ {lines lines' : List Text}
    (h : List.Forall₂ (SameLine R) lines lines') :
    lines.map Text.trim = lines'.map Text.trim := by
  rw [← List.forall₂_eq_eq_eq, List.forall₂_map_left_iff, List.forall₂_map_right_iff]
  exact h.imp fun _ _ hline => hline.trimmed

/-- **A climb is told by keys and the order of indentations.** -/
lemma climb_congr (hR : KeepsOrder R) {above above' : List Text}
    (h : List.Forall₂ (SameLine R) above above') {start start' : Nat} (hstart : R start start') :
    climb start above = climb start' above' := by
  induction h generalizing start start' with
  | nil => rfl
  | cons hline _ ih =>
    rcases hline.parse?_cases with ⟨hnone, hnone'⟩ | ⟨key, inline, hsome, hsome', hindent⟩
    · rw [climb_cons_of_none hnone, climb_cons_of_none hnone', ih hstart]
    · rcases Nat.lt_or_ge (indentation _) start with hlt | hle
      · have hlt' := (hR hindent hstart).1 hlt
        rw [climb_cons_of_lt hsome hlt, climb_cons_of_lt hsome' hlt', ih hindent]
      · have hle' := Nat.not_lt.1 (mt (hR hindent hstart).2 (Nat.not_lt.2 hle))
        rw [climb_cons_of_le hsome hle, climb_cons_of_le hsome' hle', ih hstart]

end Line

/-! ## Related files -/

variable {R : Nat → Nat → Prop}

/-- A line finds what a line that is the same finds, below lines that are the same. -/
lemma findAt_congr_of_sameLine (hR : Line.KeepsOrder R) {above above' : List Text}
    (habove : List.Forall₂ (Line.SameLine R) above above') {line line' : Text}
    (hline : Line.SameLine R line line') (root : Value) (title : Text) :
    findAt root title above line = findAt root title above' line' := by
  rcases hline.parse?_cases with ⟨hnone, hnone'⟩ | ⟨key, inline, hsome, hsome', hindent⟩
  · rw [findAt_of_none hnone, findAt_of_none hnone']
  · have hpath : KeyLine.path ⟨Line.indentation line, key, inline⟩ above =
        KeyLine.path ⟨Line.indentation line', key, inline⟩ above' := by
      rw [KeyLine.path, KeyLine.path, Line.climb_congr hR habove hindent]
    have hblock : CommentBlock.ofLines (Line.commentRun above) =
        CommentBlock.ofLines (Line.commentRun above') := by
      rw [← CommentBlock.ofLines_map_trim, ← Line.commentRun_map_trim,
        Line.map_trim_eq_of_forall₂ habove, Line.commentRun_map_trim,
        CommentBlock.ofLines_map_trim]
    rw [findAt_eq, findAt_eq, hsome, hsome', Option.bind_some, Option.bind_some, hpath, hblock]
    rfl

/-- **Files whose lines are the same find the same**: a survey of the one finds what a survey of the
other finds.

**Proof sketch.** Induction on the lines. What is found at a line is told by its path and by what
trimmed lines say (`findAt_congr_of_sameLine`), and the section below it by the trimmed lines
below. -/
lemma survey_congr_of_sameLine (hR : Line.KeepsOrder R) {above above' below below' : List Text}
    (habove : List.Forall₂ (Line.SameLine R) above above')
    (hbelow : List.Forall₂ (Line.SameLine R) below below') (root : Value) (title : Text) :
    survey root title above below = survey root title above' below' := by
  induction hbelow generalizing title above above' with
  | nil => rfl
  | @cons line line' below below' hline hbelow ih =>
    have htitle : titleBelow title line below = titleBelow title line' below' := by
      unfold titleBelow
      rw [← Line.isBanner_trim, hline.trimmed, Line.isBanner_trim, ← Line.outlook_map_trim,
        Line.map_trim_eq_of_forall₂ hbelow, Line.outlook_map_trim]
    rw [survey, survey, findAt_congr_of_sameLine hR habove hline, htitle, ih (.cons hline habove)]

/-! ## Files with the same layout -/

/-- `SameLayout lines lines'` says that two files have as many lines and, line by line, the same
trimmed lines, and that of any two key lines, the one is indented less than the other in the first
file exactly if it is in the second. -/
structure SameLayout (lines lines' : List Text) : Prop where
  trimmed : lines.map Text.trim = lines'.map Text.trim
  order : ∀ {i j : Nat} {k l k' l' : KeyLine}, Line.keyAt? lines i = some k →
    Line.keyAt? lines j = some l → Line.keyAt? lines' i = some k' →
    Line.keyAt? lines' j = some l' → (k.indent < l.indent ↔ k'.indent < l'.indent)

namespace SameLayout

variable {lines lines' : List Text}

/-- Trimmed lines that are the same at an index. -/
lemma trim_getElem (h : lines.map Text.trim = lines'.map Text.trim) {i : Nat}
    {line line' : Text} (hline : lines[i]? = some line) (hline' : lines'[i]? = some line') :
    line.trim = line'.trim := by
  have := congrArg (fun ls => ls[i]?) h
  simpa [hline, hline'] using this

/-- **Files with the same layout have the same lines**, where the indentations are related that
belong to the same key line. -/
lemma exists_forall₂ (h : SameLayout lines lines') :
    ∃ R, Line.KeepsOrder R ∧ List.Forall₂ (Line.SameLine R) lines lines' := by
  refine ⟨fun a a' => ∃ i k k', Line.keyAt? lines i = some k ∧ Line.keyAt? lines' i = some k' ∧
    k.indent = a ∧ k'.indent = a', ?_, ?_⟩
  · rintro _ _ _ _ ⟨i, k, k', hk, hk', rfl, rfl⟩ ⟨j, l, l', hl, hl', rfl, rfl⟩
    exact h.order hk hl hk' hl'
  · rw [List.forall₂_iff_get]
    refine ⟨by simpa using congrArg List.length h.trimmed, fun i hi hi' => ?_⟩
    have hget : lines[i]? = some lines[i] := List.getElem?_eq_getElem hi
    have hget' : lines'[i]? = some lines'[i] := List.getElem?_eq_getElem hi'
    have htrim : lines[i].trim = lines'[i].trim := trim_getElem h.trimmed hget hget'
    refine ⟨htrim, fun hkey => ?_⟩
    obtain ⟨k, hk⟩ := Option.isSome_iff_exists.1 hkey
    have hk' := KeyLine.parse?_congr_trim htrim
    have hk : KeyLine.parse? lines[i] = some k := hk
    rw [hk] at hk'
    exact ⟨i, k, _, by rw [Line.keyAt?, hget]; exact hk, by rw [Line.keyAt?, hget']; exact hk',
      KeyLine.indent_of_parse? hk, rfl⟩

/-- Key lines can be indented anew by any map of widths that is strictly increasing. -/
lemma of_strictMono {width : Nat → Nat} (hwidth : StrictMono width)
    (htrim : lines.map Text.trim = lines'.map Text.trim)
    (hindent : ∀ {i k k'}, Line.keyAt? lines i = some k → Line.keyAt? lines' i = some k' →
      k'.indent = width k.indent) : SameLayout lines lines' where
  trimmed := htrim
  order hk hl hk' hl' := by
    rw [hindent hk hk', hindent hl hl']
    exact hwidth.lt_iff_lt.symm

/-- The indentation of a key line is told by its line, which is not blank. -/
lemma exists_of_keyAt? {i : Nat} {k : KeyLine} (h : Line.keyAt? lines i = some k) :
    ∃ line, lines[i]? = some line ∧ k.indent = Line.indentation line ∧ line.trim ≠ [] := by
  obtain ⟨line, hget, hparse⟩ := Option.bind_eq_some_iff.1 h
  exact ⟨line, hget, KeyLine.indent_of_parse? hparse, KeyLine.trim_ne_nil_of_parse? hparse⟩

/-- All lines can be indented by the same blanks. -/
lemma of_map_append {pad : Text} (hpad : ∀ c ∈ pad, Text.isBlank c = true)
    (h : lines' = lines.map (pad ++ ·)) : SameLayout lines lines' := by
  subst h
  have hwidth : StrictMono fun n => pad.byteLength + n := fun _ _ hlt =>
    Nat.add_lt_add_left hlt _
  refine of_strictMono hwidth ?_ ?_
  · simp [Text.trim_append_of_blank hpad]
  · intro i k k' hk hk'
    obtain ⟨line, hget, hindent, -⟩ := exists_of_keyAt? hk
    obtain ⟨line', hget', hindent', -⟩ := exists_of_keyAt? hk'
    rw [List.getElem?_map, hget] at hget'
    obtain rfl := Option.some.inj hget'
    rw [hindent, hindent', Line.indentation_append hpad]

/-- Blanks can be added and left out at the ends of lines. -/
lemma of_map_trimEnd (h : lines.map Text.trimEnd = lines'.map Text.trimEnd) :
    SameLayout lines lines' := by
  refine of_strictMono strictMono_id ?_ ?_
  · have htrim := congrArg (List.map Text.trim) h
    simpa only [List.map_map, Function.comp_def, Text.trim_trimEnd] using htrim
  · intro i k k' hk hk'
    obtain ⟨line, hget, hindent, hne⟩ := exists_of_keyAt? hk
    obtain ⟨line', hget', hindent', hne'⟩ := exists_of_keyAt? hk'
    have hend : line.trimEnd = line'.trimEnd := by
      have hindex := congrArg (fun ls => ls[i]?) h
      simpa [hget, hget'] using hindex
    rw [hindent, hindent', ← Line.indentation_trimEnd hne, ← Line.indentation_trimEnd hne', hend]
    rfl

end SameLayout

/-- Files with the same layout find the same. -/
lemma findings_eq_of_sameLayout {t t' : Text} (h : SameLayout t.lines t'.lines) (root : Value) :
    findings t root = findings t' root := by
  obtain ⟨R, hR, hlines⟩ := h.exists_forall₂
  rw [findings_eq_survey, findings_eq_survey, survey_congr_of_sameLine hR .nil hlines]

/-- **Files with the same layout have the same parameters**: of the blanks of a file, only the
order counts in which its key lines are indented. In particular, its key lines can be indented anew
by any map of widths that is strictly increasing, the file can be indented as a whole, blanks can
be added and left out at the ends of its lines, and carriage returns can be put before its line
feeds.

**Proof sketch.** Both files find the same (`findings_eq_of_sameLayout`), because all that is read
from a line is read from its trimmed text (`KeyLine.parse?_eq_map_trim`), and because a climb only
asks which of two key lines is indented less (`Line.climb_congr`). The other files have the same
layout, the last one since a carriage return is a blank
(`Text.map_trimEnd_lines_withCarriageReturns`). -/
theorem parameters_eq_of_sameLayout (root : Value) :
    (∀ {t t' : Text}, SameLayout t.lines t'.lines → parameters t root = parameters t' root) ∧
      (∀ {t t' : Text} {width : Nat → Nat}, StrictMono width →
        t.lines.map Text.trim = t'.lines.map Text.trim →
        (∀ {i k k'}, Line.keyAt? t.lines i = some k → Line.keyAt? t'.lines i = some k' →
          k'.indent = width k.indent) →
        parameters t root = parameters t' root) ∧
      (∀ {t t' pad : Text}, (∀ c ∈ pad, Text.isBlank c = true) →
        t'.lines = t.lines.map (pad ++ ·) → parameters t root = parameters t' root) ∧
      (∀ {t t' : Text}, t.lines.map Text.trimEnd = t'.lines.map Text.trimEnd →
        parameters t root = parameters t' root) ∧
      ∀ t : Text, parameters t.withCarriageReturns root = parameters t root := by
  have hsame : ∀ {t t' : Text}, SameLayout t.lines t'.lines →
      parameters t root = parameters t' root := fun h =>
    congrArg (List.map Finding.parameter) (findings_eq_of_sameLayout h root)
  refine ⟨hsame, ?_, ?_, ?_, ?_⟩
  · intro t t' width hwidth htrim hindent
    exact hsame (.of_strictMono hwidth htrim hindent)
  · intro t t' pad hpad hlines
    exact hsame (.of_map_append hpad hlines)
  · intro t t' hend
    exact hsame (.of_map_trimEnd hend)
  · intro t
    exact hsame (.of_map_trimEnd (Text.map_trimEnd_lines_withCarriageReturns t))

/-- A values file with steps of two blanks. -/
def narrowSteps : Text :=
  "# =====\n# Net\n# =====\nsvc:\n  # Kind\n  type: NodePort\nport: 80\n".toList

/-- The same file with steps of four blanks behind a first one, with blanks at the ends of lines,
and with comments that are indented anyhow. -/
def wideSteps : Text :=
  "   # =====\n# Net \n# =====\n svc: \n\t# Kind\n     type: NodePort  \n port: 80\n".toList

/-- The same file, where all lines have one blank more in front. -/
def indentedSteps : Text := Text.unlines (narrowSteps.lines.map ([' '] ++ ·))

/-- The same file, where all lines end in a tab. -/
def tabbedSteps : Text := Text.unlines (narrowSteps.lines.map (· ++ ['\t']))

/-- The file with other steps has the same layout and the same parameters. So have the file that is
indented as a whole, the one with tabs at the ends of its lines, and the one with carriage
returns. -/
theorem parameters_wideSteps :
    let root : Value := .map [(.text "svc".toList, .map [(.text "type".toList,
      .text "NodePort".toList)]), (.text "port".toList, .int 80)]
    SameLayout narrowSteps.lines wideSteps.lines ∧
      parameters narrowSteps root = parameters wideSteps root ∧
      parameters narrowSteps root = parameters indentedSteps root ∧
      parameters narrowSteps root = parameters tabbedSteps root ∧
      parameters narrowSteps.withCarriageReturns root = parameters wideSteps root := by
  intro root
  obtain ⟨hsame, hwidth, hpad, hend, hreturn⟩ := parameters_eq_of_sameLayout root
  have htrim : narrowSteps.lines.map Text.trim = wideSteps.lines.map Text.trim := by decide
  have hmono : StrictMono fun n => 2 * n + 1 := fun a b hlt => by
    simp only
    omega
  have hindent : ∀ {i k k'}, Line.keyAt? narrowSteps.lines i = some k →
      Line.keyAt? wideSteps.lines i = some k' → k'.indent = 2 * k.indent + 1 := by
    have hparse : wideSteps.lines.map KeyLine.parse? = narrowSteps.lines.map fun line =>
        (KeyLine.parse? line).map fun k => { k with indent := 2 * k.indent + 1 } := by decide
    intro i k k' hk hk'
    obtain ⟨line, hget, hk⟩ := Option.bind_eq_some_iff.1 hk
    obtain ⟨line', hget', hk'⟩ := Option.bind_eq_some_iff.1 hk'
    have hindex := congrArg (fun ls => ls[i]?) hparse
    simp only [List.getElem?_map, hget, hget', Option.map_some, hk, hk', Option.some.injEq]
      at hindex
    rw [hindex]
  have hlayout : SameLayout narrowSteps.lines wideSteps.lines :=
    .of_strictMono hmono htrim hindent
  have hblank : ∀ c ∈ [' '], Text.isBlank c = true := List.all_eq_true.1 rfl
  exact ⟨hlayout, hwidth hmono htrim hindent, hpad hblank (by decide), hend (by decide),
    (hreturn narrowSteps).trans (hsame hlayout)⟩

end ChartValues
