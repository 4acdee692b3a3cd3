import ChartValues.Line.Key
import ChartValues.Line.Banner
import ChartValues.Proofs.Text.Trim

set_option autoImplicit false

/-!
# Reading key lines

Which lines are read as key lines, and what is read on a line that was written as one: blanks, a
key without quotes, a colon, and whatever follows.

## Main definitions

* `Line.definesKey` — whether a line is a key line.
* `Line.Padded` — some lines with other lines between them that define no key.
* `BareKey` — a key that can be written without quotes.
* `InlineText` — what can be written after the colon of a key.

## Main results

* `KeyLine.parse?_of_isComment` — comments define no keys.
* `KeyLine.parse?_written` — a key that is written is the key that is read.
* `KeyLine.parse?_opening`, `KeyLine.parse?_inline` — whether a value is seen on the line.
-/

namespace ChartValues

namespace Line

/-- Whether the line is a key line. -/
def definesKey (line : Text) : Bool := (KeyLine.parse? line).isSome

/-- `Padded lines all` says that `all` are the lines and, anywhere between them, others that define
no key. -/
inductive Padded : List Text → List Text → Prop where
  | nil : Padded [] []
  | keep {line : Text} {lines all : List Text} (follow : Padded lines all) :
      Padded (line :: lines) (line :: all)
  | insert {line : Text} {lines all : List Text} (noKey : KeyLine.parse? line = none)
      (follow : Padded lines all) : Padded lines (line :: all)

/-- The key lines of padded lines are the key lines among the lines themselves. -/
lemma Padded.filter_eq {lines all : List Text} (h : Padded lines all) :
    all.filter definesKey = lines.filter definesKey := by
  induction h with
  | nil => rfl
  | keep _ ih => rw [List.filter_cons, List.filter_cons, ih]
  | insert noKey _ ih => rw [List.filter_cons_of_neg (by simp [definesKey, noKey]), ih]

/-- All lines are their key lines, padded. -/
lemma padded_filter (all : List Text) : Padded (all.filter definesKey) all := by
  induction all with
  | nil => exact .nil
  | cons line all ih =>
    cases h : KeyLine.parse? line with
    | none =>
      rw [List.filter_cons_of_neg (by simp [definesKey, h])]
      exact .insert h ih
    | some found =>
      rw [List.filter_cons_of_pos (by simp [definesKey, h])]
      exact .keep ih

end Line

/-! ## Lines that define no key -/

namespace KeyLine

/-- Whether a name that the pattern has found is a key. -/
def isKey (key : Text) : Bool :=
  !key.isEmpty && !key.startsWith ['"'] && !key.startsWith ['\x27']

/-- Whether a value is seen in what follows the colon of a key. -/
def seesValue (rest : Text) : Bool :=
  !(afterAnchor rest.trim).isEmpty && !(afterAnchor rest.trim).startsWith ['#']

/-- A line is read by its look, the pattern, and the look of the name that the pattern finds. -/
lemma parse?_eq (line : Text) :
    parse? line =
      if mayDefine line then
        (match? line).bind fun found =>
          if isKey found.2.1.trim then
            some ⟨found.1.byteLength, found.2.1.trim, seesValue found.2.2⟩
          else none
      else none := by
  unfold parse?
  cases hmay : mayDefine line with
  | false => rfl
  | true =>
    cases hmatch : match? line with
    | none => rfl
    | some found =>
      obtain ⟨blanks, name, rest⟩ := found
      let key : KeyLine := ⟨blanks.byteLength, name.trim, seesValue rest⟩
      change Option.bind (guard (isKey name.trim = true)) (fun _ => some key) =
        if isKey name.trim then some key else none
      cases isKey name.trim <;> rfl

/-- A line that begins like a comment, or like a separator of documents, defines no key. -/
lemma parse?_of_marked {line : Text}
    (h : line.trim.startsWith ['#'] = true ∨ line.trim.startsWith ['-', '-', '-'] = true) :
    parse? line = none := by
  have hmay : mayDefine line = false := by
    rcases h with h | h <;> simp [mayDefine, h]
  rw [parse?_eq, hmay]
  rfl

/-- Comments define no keys. -/
lemma parse?_of_isComment {line : Text} (h : Line.isComment line = true) : parse? line = none :=
  parse?_of_marked (.inl h)

/-- A key line is no comment. -/
lemma isComment_of_parse? {line : Text} {found : KeyLine} (h : parse? line = some found) :
    Line.isComment line = false := by
  by_contra hcomment
  rw [parse?_of_isComment (by simpa using hcomment)] at h
  cases h

end KeyLine

/-! ## Written keys -/

/-- A key that can be written without quotes. -/
structure BareKey where
  text : Text
  ne_nil : text ≠ [] := by decide
  trimmed : text.trim = text := by decide
  colon_notMem : ':' ∉ text := by decide
  not_comment : text.startsWith ['#'] = false := by decide
  not_quote : text.startsWith ['"'] = false := by decide
  not_apostrophe : text.startsWith ['\x27'] = false := by decide
  not_separator : text.startsWith ['-', '-', '-'] = false := by decide

/-- What can be written after the colon of a key so that it is seen as a value. -/
structure InlineText where
  text : Text
  ne_nil : text ≠ [] := by decide
  trimmed : text.trim = text := by decide
  not_comment : text.startsWith ['#'] = false := by decide
  not_anchor : text.startsWith ['&'] = false := by decide

namespace KeyLine

/-- The name before the first colon is found. -/
lemma nameColon?_append_colon {name : Text} (hne : name ≠ []) (hcolon : ':' ∉ name) (rest : Text) :
    nameColon? (name ++ ':' :: rest) = some (name, rest) := by
  have hname : ∀ c ∈ name, (c != ':') = true := by
    intro c hc
    simp only [bne_iff_ne, ne_eq]
    rintro rfl
    exact hcolon hc
  obtain ⟨c, inner, rfl⟩ := List.exists_cons_of_ne_nil hne
  unfold nameColon?
  rw [List.takeWhile_append_of_pos hname, List.dropWhile_append_of_pos hname]
  simp

/-- The pattern takes the first blank if it finds a name after it. -/
lemma match?_cons (c : Char) (t : Text) :
    match? (c :: t) =
      match if Text.isBlank c then match? t else none with
      | some (blanks, name, rest) => some (c :: blanks, name, rest)
      | none => (nameColon? (c :: t)).map fun found => ([], found.1, found.2) := by
  rfl

/-- Blanks in front are the blanks of the match, if what follows them matches. -/
lemma match?_append_of_blank {pad t blanks name rest : Text}
    (hpad : ∀ c ∈ pad, Text.isBlank c = true) (h : match? t = some (blanks, name, rest)) :
    match? (pad ++ t) = some (pad ++ blanks, name, rest) := by
  induction pad with
  | nil => exact h
  | cons c pad ih =>
    obtain ⟨hc, hpad⟩ := List.forall_mem_cons.1 hpad
    rw [List.cons_append, match?_cons, if_pos hc, ih hpad]
    rfl

/-- A name that does not begin with a blank is matched as a whole. -/
lemma match?_append_colon {name : Text} {c : Char} {inner : Text} (hname : name = c :: inner)
    (hc : Text.isBlank c = false) (hcolon : ':' ∉ name) (rest : Text) :
    match? (name ++ ':' :: rest) = some ([], name, rest) := by
  have hfound := nameColon?_append_colon (by simp [hname]) hcolon rest
  subst hname
  rw [List.cons_append] at hfound ⊢
  rw [match?_cons, hfound]
  simp [hc]

/-- Whether a line with a colon may define a key is told by what is before the colon. -/
lemma mayDefine_of_trim_eq {line before after : Text} (h : line.trim = before ++ ':' :: after) :
    mayDefine line = (!before.startsWith ['#'] && !before.startsWith ['-', '-', '-']) := by
  have hcontains : Text.contains (before ++ ':' :: after) [':'] = true :=
    Text.contains_singleton.2 (by simp)
  rw [mayDefine, h, hcontains, Text.startsWith_append_cons (by decide),
    Text.startsWith_append_cons (by decide), Bool.and_true]

/-- A written key may define a key. -/
lemma mayDefine_written {pad : Text} (hpad : ∀ c ∈ pad, Text.isBlank c = true) (key : BareKey)
    (rest : Text) : mayDefine (pad ++ (key.text ++ ':' :: rest)) = true := by
  obtain ⟨c, inner, hkey, hc⟩ := Text.exists_cons_of_trim_eq key.ne_nil key.trimmed
  have htrim : Text.trim (pad ++ (key.text ++ ':' :: rest)) =
      key.text ++ ':' :: Text.trimEnd rest := by
    rw [Text.trim_append_of_blank hpad, hkey]
    exact Text.trim_append_cons hc (by decide) inner rest
  rw [mayDefine_of_trim_eq htrim, key.not_comment, key.not_separator]
  rfl

/-- **A key that is written is the key that is read**: blanks, a bare key, a colon and any rest
are read as the key, with the blanks as its indentation.

**Proof sketch.** The line is neither a comment nor a separator because of its first characters
(`mayDefine_written`). The pattern takes all of the blanks, since the key does not begin with one
(`match?_append_of_blank`), and then the key up to its colon (`match?_append_colon`). -/
lemma parse?_written {pad : Text} (hpad : ∀ c ∈ pad, Text.isBlank c = true) (key : BareKey)
    (rest : Text) :
    parse? (pad ++ (key.text ++ ':' :: rest)) =
      some ⟨pad.byteLength, key.text, seesValue rest⟩ := by
  obtain ⟨c, inner, hkey, hc⟩ := Text.exists_cons_of_trim_eq key.ne_nil key.trimmed
  have hmatch := match?_append_of_blank hpad (match?_append_colon hkey hc key.colon_notMem rest)
  have hname : isKey key.text = true := by
    simp [isKey, key.not_quote, key.not_apostrophe, key.ne_nil]
  rw [List.append_nil] at hmatch
  rw [parse?_eq, if_pos (mayDefine_written hpad key rest), hmatch]
  simp [key.trimmed, hname]

/-- No value is seen behind a colon that ends its line. -/
lemma parse?_opening {pad : Text} (hpad : ∀ c ∈ pad, Text.isBlank c = true) (key : BareKey) :
    parse? (pad ++ (key.text ++ [':'])) = some ⟨pad.byteLength, key.text, false⟩ := by
  rw [parse?_written hpad key []]
  rfl

/-- An inline text is seen as a value. -/
lemma parse?_inline {pad : Text} (hpad : ∀ c ∈ pad, Text.isBlank c = true) (key : BareKey)
    (value : InlineText) :
    parse? (pad ++ (key.text ++ ':' :: ' ' :: value.text)) =
      some ⟨pad.byteLength, key.text, true⟩ := by
  have hblank : ∀ c ∈ [' '], Text.isBlank c = true := List.all_eq_true.1 rfl
  have htrim : Text.trim (' ' :: value.text) = value.text := by
    rw [← List.singleton_append, Text.trim_append_of_blank hblank, value.trimmed]
  have hsees : seesValue (' ' :: value.text) = true := by
    simp [seesValue, htrim, afterAnchor, value.not_anchor, value.not_comment, value.ne_nil]
  rw [parse?_written hpad key, hsees]

end KeyLine

end ChartValues
