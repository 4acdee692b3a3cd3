import ChartValues.Line.CommentBlock
import ChartValues.Proofs.Line.Reading

set_option autoImplicit false

/-!
# Trimmed lines

All that is read from a line is read from its trimmed text, with one exception: the blanks in front
of a key are its indentation. Comments, rules, banner lines, titles and what they say do not depend
on blanks at all.

## Main definitions

* `Line.indentation` — the width of the blanks that a line begins with.

## Main results

* `KeyLine.parse?_of_trim_eq` — a key line, read from its trimmed text.
* `KeyLine.parse?_eq_map_trim` — blanks are read as indentation only.
* `Line.outlook_map_trim`, `CommentBlock.ofLines_map_trim` — blanks around comments say nothing.
-/

namespace ChartValues

namespace Line

/-- The number of bytes of the blanks that a line begins with. -/
def indentation (line : Text) : Nat := Text.byteLength (line.takeWhile Text.isBlank)

end Line

/-! ## Key lines -/

namespace KeyLine

/-- Where the first character that is not blank is a colon, the pattern finds blanks only. -/
lemma isKey_of_match?_blank_colon {pad rest : Text} (hpad : ∀ c ∈ pad, Text.isBlank c = true)
    {found : Text × Text × Text} (h : match? (pad ++ ':' :: rest) = some found) :
    isKey found.2.1.trim = false := by
  induction pad generalizing found with
  | nil => cases h
  | cons c pad ih =>
    obtain ⟨hc, htail⟩ := List.forall_mem_cons.1 hpad
    rw [List.cons_append, match?_cons, if_pos hc] at h
    cases hinner : match? (pad ++ ':' :: rest) with
    | some inner =>
      obtain ⟨blanks, name, after⟩ := inner
      rw [hinner] at h
      obtain rfl := Option.some.inj h
      have hkey := ih htail hinner
      exact hkey
    | none =>
      -- the blanks are given back to the name, which is then blank
      have hcolon : ':' ∉ c :: pad := fun hmem => by
        have hblank := hpad ':' hmem
        cases hblank
      have hname := nameColon?_append_colon (List.cons_ne_nil c pad) hcolon rest
      rw [hinner, ← List.cons_append, hname] at h
      obtain rfl := Option.some.inj h
      have htrim : Text.trim (c :: pad) = [] := by
        rw [← List.append_nil (c :: pad), Text.trim_append_of_blank hpad]
        rfl
      simp [htrim, isKey]

/-- Blanks at the end of a line are no part of the value that is seen on it. -/
lemma seesValue_append_of_blank (after : Text) {tail : Text}
    (htail : ∀ c ∈ tail, Text.isBlank c = true) : seesValue (after ++ tail) = seesValue after := by
  simp only [seesValue, Text.trim_append_of_blank_right after htail]

/-- A line without a colon does not come into question for a key. -/
lemma mayDefine_of_colon_notMem {line : Text} (h : ':' ∉ line.trim) : mayDefine line = false := by
  have hcontains : line.trim.contains [':'] = false := by
    simpa using mt Text.contains_singleton.1 h
  simp [mayDefine, hcontains]

/-- **A key line is read from its trimmed text**, up to the first colon and from there on; only the
indentation is told by the blanks in front. -/
lemma parse?_of_trim_eq {line before after : Text} (h : line.trim = before ++ ':' :: after)
    (hcolon : ':' ∉ before) :
    parse? line =
      if mayDefine line && isKey before.trim then
        some ⟨Line.indentation line, before.trim, seesValue after⟩
      else none := by
  obtain ⟨tail, htail, hline⟩ := Text.exists_eq_takeWhile_append_trim line
  have hpad : ∀ c ∈ line.takeWhile Text.isBlank, Text.isBlank c = true := fun c hc =>
    List.mem_takeWhile_imp hc
  rw [h, List.append_assoc, List.cons_append] at hline
  rw [parse?_eq]
  cases hmay : mayDefine line with
  | false => rfl
  | true =>
    cases before with
    | nil =>
      cases hmatch : match? line with
      | none => rfl
      | some found =>
        rw [hline] at hmatch
        have hkey := isKey_of_match?_blank_colon hpad hmatch
        rw [Option.bind_some, hkey]
        rfl
    | cons c inner =>
      have hc : Text.isBlank c = false := Text.not_isBlank_of_trim_eq_cons h
      have hmatch : match? line =
          some (line.takeWhile Text.isBlank, c :: inner, after ++ tail) := by
        conv_lhs => rw [hline]
        simpa using match?_append_of_blank hpad (match?_append_colon rfl hc hcolon (after ++ tail))
      simp [hmatch, seesValue_append_of_blank after htail, Line.indentation]

/-- Without a colon, there is no key line. -/
lemma parse?_of_colon_notMem {line : Text} (h : ':' ∉ line.trim) : parse? line = none := by
  rw [parse?_eq, mayDefine_of_colon_notMem h]
  rfl

/-- Apart from its indentation, a key line is read from its trimmed text. -/
lemma parse?_eq_map_trim (line : Text) :
    parse? line =
      (parse? line.trim).map fun found => { found with indent := Line.indentation line } := by
  by_cases hcolon : ':' ∈ line.trim
  · obtain ⟨before, after, htrim, hbefore⟩ := List.eq_append_cons_of_mem hcolon
    have hmay : mayDefine line.trim = mayDefine line := by
      simp only [mayDefine, Text.trim_trim]
    rw [parse?_of_trim_eq htrim hbefore,
      parse?_of_trim_eq ((Text.trim_trim line).trans htrim) hbefore, hmay]
    split_ifs <;> rfl
  · rw [parse?_of_colon_notMem hcolon, parse?_of_colon_notMem (by rwa [Text.trim_trim])]
    rfl

/-- The indentation of a key line is the width of the blanks that it begins with. -/
lemma indent_of_parse? {line : Text} {found : KeyLine} (h : parse? line = some found) :
    found.indent = Line.indentation line := by
  rw [parse?_eq_map_trim] at h
  obtain ⟨inner, -, rfl⟩ := Option.map_eq_some_iff.1 h
  rfl

/-- Two lines with the same trimmed text define the same key, or none. -/
lemma parse?_congr_trim {line line' : Text} (h : line.trim = line'.trim) :
    parse? line' =
      (parse? line).map fun found => { found with indent := Line.indentation line' } := by
  rw [parse?_eq_map_trim line', parse?_eq_map_trim line, h, Option.map_map]
  rfl

/-- A key line is not blank. -/
lemma trim_ne_nil_of_parse? {line : Text} {found : KeyLine} (h : parse? line = some found) :
    line.trim ≠ [] := by
  intro hnil
  rw [parse?_of_colon_notMem (by simp [hnil])] at h
  cases h

end KeyLine

namespace Line

/-- Blanks at the end of a line that is not blank are no part of its indentation. -/
lemma indentation_trimEnd {line : Text} (h : line.trim ≠ []) :
    indentation line.trimEnd = indentation line := by
  obtain ⟨tail, -, heq⟩ := Text.exists_eq_trimEnd_append line
  have hshort : (line.trimEnd.takeWhile Text.isBlank).length ≠ line.trimEnd.length := by
    intro hall
    refine h ?_
    have hblank : line.trimEnd.takeWhile Text.isBlank = line.trimEnd :=
      (List.takeWhile_prefix _).eq_of_length hall
    rw [← Text.trim_trimEnd, ← List.append_nil line.trimEnd,
      Text.trim_append_of_blank (List.takeWhile_eq_self_iff.1 hblank)]
    rfl
  have htake : line.takeWhile Text.isBlank = line.trimEnd.takeWhile Text.isBlank := by
    conv_lhs => rw [heq]
    rw [List.takeWhile_append, if_neg hshort]
  rw [indentation, indentation, htake]

/-- Blanks in front of a line are a part of its indentation. -/
lemma indentation_append {pad : Text} (hpad : ∀ c ∈ pad, Text.isBlank c = true) (line : Text) :
    indentation (pad ++ line) = pad.byteLength + indentation line := by
  rw [indentation, List.takeWhile_append_of_pos hpad, Text.byteLength_append, indentation]

end Line

/-! ## Comments -/

namespace Line

lemma isComment_trim (line : Text) : isComment line.trim = isComment line := by
  simp only [isComment, Text.trim_trim]

lemma content_trim (line : Text) : content line.trim = content line := by
  simp only [content, Text.trim_trim]

/-- What a comment says has no blanks around it. -/
lemma trim_content (line : Text) : Text.trim (content line) = content line := Text.trim_trim _

/-- What a line says that begins with a number sign. -/
lemma content_cons (t : Text) : content ('#' :: t) = t.trim := by
  have htrim : Text.trim ('#' :: t) = '#' :: t.trimEnd := by
    rw [Text.trim, Text.trimStart_cons (by decide)]
    exact Text.trimEnd_append_cons [] (by decide) t
  have hafter : Text.after? ('#' :: t.trimEnd) ['#'] = some t.trimEnd := rfl
  rw [content, htrim, hafter, Option.getD_some, Text.trim_trimEnd]

lemma isBanner_trim (line : Text) : isBanner line.trim = isBanner line := by
  simp only [isBanner, Text.trim_trim]

lemma isTitle_trim (line : Text) : isTitle line.trim = isTitle line := by
  simp only [isTitle, isComment_trim, content_trim]

/-- A look-ahead sees trimmed lines. -/
lemma outlook_map_trim (below : List Text) : outlook (below.map Text.trim) = outlook below := by
  induction below with
  | nil => rfl
  | cons line below ih =>
    rw [List.map_cons, outlook, outlook, isComment_trim, isTitle_trim, content_trim, ih]

/-- The comments above a place are the same among trimmed lines. -/
lemma commentRun_map_trim (above : List Text) :
    commentRun (above.map Text.trim) = (commentRun above).map Text.trim := by
  have hcomment : isComment ∘ Text.trim = isComment := funext isComment_trim
  rw [commentRun, commentRun, List.takeWhile_map, hcomment, List.map_reverse]

end Line

namespace CommentBlock

lemma ofLine_trim (line : Text) : ofLine line.trim = ofLine line := by
  simp only [ofLine, Line.content_trim]

/-- What the lines of a block say, they say when they are trimmed. -/
lemma ofLines_map_trim (lines : List Text) : ofLines (lines.map Text.trim) = ofLines lines := by
  simp only [ofLines, List.filterMap_map, Function.comp_def, ofLine_trim]

end CommentBlock

end ChartValues
