import ChartValues.Proofs.Line.Trimmed
import ChartValues.Proofs.Text.LineEnds

set_option autoImplicit false

/-!
# Lines with other text

Where other text comes to stand on a line. Behind the line, it changes nothing about the key: the
pattern stops at the first colon, and a value that was seen is still seen. In front of it, a byte
order mark is no blank, so that a line with a colon becomes a key line without indentation.

## Main results

* `KeyLine.parse?_joined` — a line with other text behind it defines the same key.
* `KeyLine.parse?_joined_of_marked` — a comment, or a separator of documents, still is one.
* `KeyLine.exists_parse?_byteOrderMark` — a line with a colon, behind a byte order mark.
-/

namespace ChartValues

namespace KeyLine

/-! ## Text behind a line -/

/-- A value that follows an anchor still follows it. -/
lemma afterAnchor_append {value : Text} (h : afterAnchor value ≠ []) (more : Text) :
    afterAnchor (value ++ more) = afterAnchor value ++ more := by
  cases value with
  | nil => exact absurd rfl h
  | cons c rest =>
    have hstart : Text.startsWith (c :: rest ++ more) ['&'] =
        Text.startsWith (c :: rest) ['&'] := by
      simp [Text.startsWith, List.isPrefixOf]
    unfold afterAnchor at h ⊢
    rw [hstart]
    split_ifs at h ⊢ with hanchor
    · have hname : List.dropWhile (fun c => !Text.isBlank c) (c :: rest) ≠ [] := fun hnil => by
        rw [hnil] at h
        exact h rfl
      rw [List.dropWhile_append, if_neg (by simpa using hname), Text.trimStart_append h]
    · rfl

/-- A value that is seen is still seen if more follows. -/
lemma seesValue_append {rest : Text} (h : seesValue rest = true) (more : Text) :
    seesValue (rest ++ more) = true := by
  obtain ⟨behind, hbehind⟩ := Text.trim_prefix_append rest more
  unfold seesValue at h ⊢
  rw [← hbehind]
  cases hvalue : afterAnchor rest.trim with
  | nil => simp [hvalue] at h
  | cons c value =>
    rw [hvalue] at h
    rw [afterAnchor_append (by simp [hvalue]), hvalue]
    simpa [Text.startsWith, List.isPrefixOf] using h

/-- **A line with other text behind it defines the same key**, also if blanks are put in front of
it, and a value that was seen is still seen.

**Proof sketch.** Both lines begin with the same text up to their first colon, when they are
trimmed. That is where the key is read (`parse?_of_trim_eq`). -/
lemma parse?_joined {pad line : Text} (hpad : ∀ c ∈ pad, Text.isBlank c = true)
    (hcolon : ':' ∈ line.trim) (more : Text) :
    (parse? line = none → parse? (pad ++ (line ++ more)) = none) ∧
      ∀ found, parse? line = some found → ∃ found', parse? (pad ++ (line ++ more)) = some found' ∧
        found'.key = found.key ∧ (found.hasInlineValue = true → found'.hasInlineValue = true) := by
  obtain ⟨before, after, htrim, hbefore⟩ := List.eq_append_cons_of_mem hcolon
  obtain ⟨behind, hbehind⟩ := Text.trim_prefix_append line more
  have hjoined : Text.trim (pad ++ (line ++ more)) = before ++ ':' :: (after ++ behind) := by
    rw [Text.trim_append_of_blank hpad, ← hbehind, htrim]
    simp
  have hmay : mayDefine (pad ++ (line ++ more)) = mayDefine line := by
    rw [mayDefine_of_trim_eq hjoined, mayDefine_of_trim_eq htrim]
  rw [parse?_of_trim_eq htrim hbefore, parse?_of_trim_eq hjoined hbefore, hmay]
  split_ifs with hkey
  · refine ⟨nofun, fun found hfound => ⟨_, rfl, ?_⟩⟩
    obtain rfl := Option.some.inj hfound
    exact ⟨rfl, fun hsees => seesValue_append hsees behind⟩
  · exact ⟨fun _ => rfl, nofun⟩

/-- **A comment, or a separator of documents, still is one** with other text behind it. -/
lemma parse?_joined_of_marked {pad line : Text} (hpad : ∀ c ∈ pad, Text.isBlank c = true)
    (h : line.trim.startsWith ['#'] = true ∨ line.trim.startsWith ['-', '-', '-'] = true)
    (more : Text) : parse? (pad ++ (line ++ more)) = none := by
  have hbegins := Text.trim_prefix_append line more
  rw [← Text.trim_append_of_blank hpad (line ++ more)] at hbegins
  exact parse?_of_marked (h.imp (Text.startsWith_mono hbegins)
    (Text.startsWith_mono hbegins))

/-! ## Behind a byte order mark -/

/-- Nothing is lost in front of a line behind a byte order mark. -/
lemma trim_byteOrderMark_cons (line : Text) :
    Text.trim (Text.byteOrderMark :: line) = Text.byteOrderMark :: line.trimEnd := by
  have hmark : Text.isBlank Text.byteOrderMark = false := by decide
  rw [Text.trim, Text.trimStart_cons hmark]
  exact Text.trimEnd_append_cons [] hmark line

/-- Behind a byte order mark, no line is a comment. -/
lemma isComment_byteOrderMark_cons (line : Text) :
    Line.isComment (Text.byteOrderMark :: line) = false := by
  rw [Line.isComment, trim_byteOrderMark_cons]
  rfl

/-- Behind a byte order mark, a line without a colon defines no key. -/
lemma parse?_byteOrderMark_of_colon_notMem {line : Text} (h : ':' ∉ line) :
    parse? (Text.byteOrderMark :: line) = none := by
  apply parse?_of_colon_notMem
  obtain ⟨tail, -, heq⟩ := Text.exists_eq_trimEnd_append line
  rw [trim_byteOrderMark_cons, List.mem_cons, not_or]
  refine ⟨by decide, fun hmem => h ?_⟩
  rw [heq]
  exact List.mem_append_left tail hmem

/-- **Behind a byte order mark, a line with a colon is a key line** without indentation, whatever it
was before: its key begins with the byte order mark. -/
lemma exists_parse?_byteOrderMark {line : Text} (h : ':' ∈ line) :
    ∃ name inline, parse? (Text.byteOrderMark :: line) =
      some ⟨0, Text.byteOrderMark :: name, inline⟩ := by
  obtain ⟨before, after, rfl, hbefore⟩ := List.eq_append_cons_of_mem h
  have htrim : Text.trim (Text.byteOrderMark :: (before ++ ':' :: after)) =
      (Text.byteOrderMark :: before) ++ ':' :: Text.trimEnd after := by
    rw [trim_byteOrderMark_cons, Text.trimEnd_append_cons _ (by decide)]
    rfl
  have hcolon : ':' ∉ Text.byteOrderMark :: before := by
    rw [List.mem_cons, not_or]
    exact ⟨by decide, hbefore⟩
  have hmay : mayDefine (Text.byteOrderMark :: (before ++ ':' :: after)) = true := by
    rw [mayDefine_of_trim_eq htrim]
    rfl
  rw [parse?_of_trim_eq htrim hcolon, hmay, trim_byteOrderMark_cons]
  exact ⟨Text.trimEnd before, _, rfl⟩

end KeyLine

end ChartValues
