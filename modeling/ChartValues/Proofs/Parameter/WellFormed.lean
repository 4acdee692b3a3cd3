import ChartValues.Proofs.Line.Description
import ChartValues.Proofs.Parameter.Provenance
import ChartValues.Proofs.Value.Literal

set_option autoImplicit false

/-!
# Well-formed parameters

What can be relied on in every parameter, whatever the text and the tree are: the name is a row of
keys, the description can be read as a description again, sections, descriptions and examples stay
on their lines without blanks around them, and the default is a code span or the referral.

## Main definitions

* `Parameter.IsWellFormed` — what can be relied on in a parameter.

## Main results

* `KeyLine.key_of_parse?` — keys are not empty and have no blanks around them.
* `CommentBlock.mem_of_mem_ofLine` — what a line says is made of characters of the line.
* `Finding.isDescription_description` — also the sentence about the key is a description.
* `isWellFormed_of_mem_parameters` — the parameters of a values file are well-formed.
-/

namespace ChartValues

/-- What can be relied on in a parameter. -/
structure Parameter.IsWellFormed (p : Parameter) : Prop where
  name_ne_nil : p.name ≠ []
  colon_notMem_name : ':' ∉ p.name
  lineFeed_notMem_name : '\n' ∉ p.name
  description_ne_nil : p.description ≠ []
  /-- The description is trimmed, begins with no example and no rule, and has no inline example. -/
  isDescription : CommentBlock.IsDescription p.description
  lineFeed_notMem_description : '\n' ∉ p.description
  examples : ∀ sample ∈ p.examples, sample.trim = sample ∧ '\n' ∉ sample
  /-- The section is the one above all banners, or a title. -/
  sectionTitle :
    p.sectionTitle = [] ∨
      p.sectionTitle.trim = p.sectionTitle ∧ '\n' ∉ p.sectionTitle ∧
        p.sectionTitle.startsWith Line.rule = false
  shown_ne_null : p.shown ≠ '\x60' :: "null".toList ++ ['\x60']
  /-- The default is the referral, for an object, or stands between backticks. -/
  shown :
    p.shown = "See values.yaml".toList ∧ p.kind = .object ∨ ∃ t, p.shown = '\x60' :: t ++ ['\x60']

/-! ## Keys -/

/-- A key is not empty and has no blanks around it. -/
lemma KeyLine.key_of_parse? {line : Text} {found : KeyLine} (h : KeyLine.parse? line = some found) :
    found.key ≠ [] ∧ found.key.trim = found.key := by
  by_cases hcolon : ':' ∈ line.trim
  · obtain ⟨before, after, htrim, hbefore⟩ := List.eq_append_cons_of_mem hcolon
    rw [KeyLine.parse?_of_trim_eq htrim hbefore] at h
    split_ifs at h with hkey
    obtain rfl := Option.some.inj h
    refine ⟨?_, Text.trim_trim before⟩
    intro hnil
    have hnil : Text.trim before = [] := hnil
    simp [isKey, hnil] at hkey
  · rw [KeyLine.parse?_of_colon_notMem hcolon] at h
    cases h

/-! ## Comments -/

/-- The comments above a line are lines of the file. -/
lemma Line.mem_of_mem_commentsAbove {lines : List Text} {index : Nat} {line : Text}
    (h : line ∈ commentsAbove lines index) : line ∈ lines := by
  have hrun : line ∈ (lines.take index).reverse :=
    (List.takeWhile_prefix _).subset (List.mem_reverse.1 h)
  exact List.mem_of_mem_take (List.mem_reverse.1 hrun)

namespace CommentBlock

/-- **What a line says is made of characters of the line**, both its description and its
example. -/
lemma mem_of_mem_ofLine {line part : Text}
    (h : (ofLine line).1 = some part ∨ (ofLine line).2 = some part) {c : Char} (hc : c ∈ part) :
    c ∈ line := by
  refine Line.mem_of_mem_content ?_
  unfold ofLine at h
  dsimp only at h
  generalize Line.content line = content at h ⊢
  split at h
  · rename_i sample hsample
    rw [← List.append_eq_of_isPrefixOf?_eq_some hsample]
    rcases h with h | h
    · cases h
    · obtain rfl := Option.some.inj h
      exact List.mem_append_right _ (Text.mem_of_mem_trim hc)
  · split_ifs at h with hsilent
    · rcases h with h | h <;> cases h
    · split at h
      · rename_i before sample hcut
        rw [Text.cut?_eq_some hcut]
        rcases h with h | h
        · split_ifs at h
          obtain rfl := Option.some.inj h
          exact List.mem_append_left _ (List.mem_append_left _ (Text.mem_of_mem_trim hc))
        · obtain rfl := Option.some.inj h
          exact List.mem_append_right _ (Text.mem_of_mem_trim hc)
      · rcases h with h | h
        · obtain rfl := Option.some.inj h
          exact hc
        · cases h

variable {lines : List Text} {c : Char}

/-- A description is made of characters of its lines, and of spaces. -/
lemma mem_of_mem_description (h : c ∈ (ofLines lines).description) :
    c = ' ' ∨ ∃ line ∈ lines, c ∈ line := by
  rcases Text.mem_joinWith h with hspace | ⟨part, hpart, hc⟩
  · exact .inl (List.mem_singleton.1 hspace)
  · obtain ⟨line, hline, hsays⟩ := List.mem_filterMap.1 hpart
    exact .inr ⟨line, hline, mem_of_mem_ofLine (.inl hsays) hc⟩

/-- An example is trimmed, and made of characters of some line. -/
lemma of_mem_examples {sample : Text} (h : sample ∈ (ofLines lines).examples) :
    sample.trim = sample ∧ ∃ line ∈ lines, ∀ c ∈ sample, c ∈ line := by
  obtain ⟨line, hline, hsays⟩ := List.mem_filterMap.1 h
  exact ⟨trim_of_ofLine hsays, line, hline, fun c hc => mem_of_mem_ofLine (.inr hsays) hc⟩

end CommentBlock

/-! ## Findings -/

variable {t : Text} {root : Value} {f : Finding}

/-- What is found in a file is found at a key line, with its key, and with the comments above it. -/
lemma exists_of_mem_findings (h : f ∈ findings t root) :
    ∃ index, ∃ line ∈ t.lines, ∃ found, KeyLine.parse? line = some found ∧ f.key = found.key ∧
      Line.pathAt? t.lines index = some f.path ∧ f.path = f.path.dropLast ++ [f.key] ∧
      documents found f.value = true ∧ f.sectionTitle = Line.sectionAt t.lines index ∧
      f.comments = CommentBlock.ofLines (Line.commentsAbove t.lines index) := by
  rw [findings_eq_filterMap_findingAt] at h
  obtain ⟨index, -, hindex⟩ := List.mem_filterMap.1 h
  obtain ⟨found, hkey, hpath, -, hdocuments, htitle, hcomments⟩ := exists_of_findingAt hindex
  obtain ⟨line, hget, hparse⟩ := Option.bind_eq_some_iff.1 hkey
  obtain ⟨line', hget', hfind⟩ := Option.bind_eq_some_iff.1 hindex
  obtain rfl := Option.some.inj (hget.symm.trans hget')
  rw [findAt_eq, hparse, Option.bind_some] at hfind
  obtain ⟨value, -, hfind⟩ := Option.bind_eq_some_iff.1 hfind
  split_ifs at hfind
  obtain rfl := Option.some.inj hfind
  refine ⟨index, line, List.mem_of_getElem? hget, found, hparse, rfl, hpath, ?_, hdocuments, htitle,
    hcomments⟩
  simp [KeyLine.path]

/-- The sentence about a key is a description as a whole: no marker stands in a text without a
colon, and none reaches over the space in front of the key. -/
lemma isDescription_sentence {key : Text} (hne : key ≠ []) (htrim : key.trim = key)
    (hcolon : ':' ∉ key) : CommentBlock.IsDescription ("Configuration for ".toList ++ key) := by
  have hmarker : ' ' ∉ CommentBlock.exampleMarker := by decide
  have hrule : ' ' ∉ Line.rule := by decide
  have hstarts : key.startsWith CommentBlock.exampleMarker = false := by
    rw [← Bool.not_eq_true]
    intro hstart
    exact hcolon ((List.isPrefixOf_iff_prefix.1 hstart).subset (by decide))
  have hcontains : key.contains (' ' :: CommentBlock.exampleMarker) = false := by
    rw [← Bool.not_eq_true, Text.contains_iff_isInfix]
    intro hpart
    exact hcolon (hpart.subset (by decide))
  have hspace : "Configuration for ".toList = "Configuration for".toList ++ [' '] := by decide
  rw [hspace, List.append_assoc, List.singleton_append]
  constructor
  · exact Text.trim_append_cons_append (by decide) (by decide) htrim hne ' '
  · rw [Text.startsWith_append_cons hmarker]
    decide
  · rw [Text.startsWith_append_cons hrule]
    decide
  · rw [Text.contains_append_cons hmarker, hstarts, hcontains]
    decide

/-- **The description of a finding is one as a whole**, also where it is the sentence about the
key. -/
lemma Finding.isDescription_description (h : f ∈ findings t root) :
    f.description ≠ [] ∧ '\n' ∉ f.description ∧ CommentBlock.IsDescription f.description := by
  obtain ⟨index, line, hline, found, hparse, hkey, -, -, -, -, hcomments⟩ :=
    exists_of_mem_findings h
  have hfeed : ∀ line ∈ t.lines, '\n' ∉ line := fun line => Text.not_mem_lineFeed_of_mem_lines
  unfold description
  split_ifs with hempty
  · obtain ⟨hne, htrim⟩ := KeyLine.key_of_parse? hparse
    have hcolon : ':' ∉ found.key := fun hmem => (KeyLine.mem_of_mem_key hparse hmem).2 rfl
    have hnofeed : '\n' ∉ found.key := fun hmem =>
      hfeed line hline (KeyLine.mem_of_mem_key hparse hmem).1
    rw [hkey]
    refine ⟨by simp, ?_, isDescription_sentence hne htrim hcolon⟩
    rw [List.mem_append, not_or]
    exact ⟨by decide, hnofeed⟩
  · refine ⟨by simpa using hempty, ?_, ?_⟩
    · rw [hcomments]
      intro hmem
      rcases CommentBlock.mem_of_mem_description hmem with hspace | ⟨comment, hcomment, hmem⟩
      · cases hspace
      · exact hfeed comment (Line.mem_of_mem_commentsAbove hcomment) hmem
    · rw [hcomments]
      exact CommentBlock.isDescription_ofLines _

/-- **The name of a parameter is a row of keys**: it is not empty, and has no colon. -/
lemma Finding.name_parameter (h : f ∈ findings t root) :
    f.parameter.name ≠ [] ∧ ':' ∉ f.parameter.name := by
  obtain ⟨index, line, -, found, hparse, hkey, hpath, hlast, -⟩ := exists_of_mem_findings h
  constructor
  · have hlength := Text.length_joinWith_append ['.'] f.path.dropLast [f.key]
    rw [← hlast, Text.joinWith_singleton, hkey] at hlength
    have hpos := List.length_pos_iff.2 (KeyLine.key_of_parse? hparse).1
    exact List.length_pos_iff.1 (Nat.lt_of_lt_of_le hpos hlength)
  · intro hcolon
    rcases Text.mem_joinWith hcolon with hdot | ⟨key, hmem, hcolon⟩
    · exact absurd (List.mem_singleton.1 hdot) (by decide)
    · obtain ⟨other, -, keyLine, hother, rfl⟩ := Line.exists_of_mem_path hpath hmem
      exact (KeyLine.mem_of_mem_key hother hcolon).2 rfl

/-- A section is the one above all banners, or what a title says. -/
lemma Line.trim_sectionAt (lines : List Text) (index : Nat) :
    sectionAt lines index = [] ∨
      (sectionAt lines index).trim = sectionAt lines index ∧
        (sectionAt lines index).startsWith rule = false := by
  rcases sectionAt_eq_or lines index with hnil | ⟨title, -, htitle, hcontent⟩
  · exact .inl hnil
  · simp only [isTitle, Bool.and_eq_true, Bool.not_eq_true'] at htitle
    rw [hcontent]
    exact .inr ⟨trim_content title, htitle.1.2⟩

/-! ## Parameters -/

/-- **The parameters of a values file are well-formed**, whatever its text and its tree are.

**Proof sketch.** Names are made of keys and sections are titles (`Finding.name_parameter`,
`Line.trim_sectionAt`), and both are trimmed where they are read. The description is one as a whole,
also if it is the sentence about the key (`Finding.isDescription_description`). The value is not
null, and nothing else is shown as null (`Value.shown_ne_null`). -/
theorem isWellFormed_of_mem_parameters {t : Text} {root : Value} {p : Parameter}
    (h : p ∈ parameters t root) : p.IsWellFormed := by
  obtain ⟨htitleFeed, hnameFeed⟩ := lineFeed_notMem_of_mem_parameters h
  obtain ⟨f, hf, rfl⟩ := List.mem_map.1 h
  obtain ⟨hname, hcolon⟩ := Finding.name_parameter hf
  obtain ⟨hdescription, hdescriptionFeed, hisDescription⟩ := Finding.isDescription_description hf
  obtain ⟨index, _, -, found, -, -, -, -, hdocuments, htitle, hcomments⟩ :=
    exists_of_mem_findings hf
  have htitle : f.parameter.sectionTitle = Line.sectionAt t.lines index := htitle
  refine ⟨hname, hcolon, hnameFeed, hdescription, hisDescription, hdescriptionFeed, ?_, ?_, ?_, ?_⟩
  · intro sample hsample
    rw [Finding.parameter, hcomments] at hsample
    obtain ⟨htrim, comment, hcomment, hmem⟩ := CommentBlock.of_mem_examples hsample
    have hfeed := Text.not_mem_lineFeed_of_mem_lines (Line.mem_of_mem_commentsAbove hcomment)
    exact ⟨htrim, fun hmemFeed => hfeed (hmem _ hmemFeed)⟩
  · rw [htitle] at htitleFeed ⊢
    rcases Line.trim_sectionAt t.lines index with hnil | ⟨htrim, hrule⟩
    · exact .inl hnil
    · exact .inr ⟨htrim, htitleFeed, hrule⟩
  · have hnull : f.value ≠ .null := by
      intro hnull
      simp [documents, hnull, Value.isNull] at hdocuments
    exact Value.shown_ne_null hnull
  · rcases Value.shown_eq_referral_or f.value with ⟨e, entries, hmap, hreferral⟩ | hspan
    · exact .inl ⟨hreferral, by rw [Finding.parameter, hmap]; rfl⟩
    · exact .inr ⟨_, hspan⟩

/-- A values file with a section, a key without comments, and one with an example on the line of
its description. -/
def webFile : Text :=
  ("# =====\n# Web\n# =====\n\nweb:\n  port: 80\n" ++
    "  # Names to serve. Example: [a.org]\n  hosts: [null]\n").toList

/-- The parameters of the file are well-formed: the one whose description is the sentence about its
key, and the one whose default is a list with null inside. -/
theorem isWellFormed_webFile :
    let root : Value := .map [(.text "web".toList, .map [(.text "port".toList, .int 80),
      (.text "hosts".toList, .list [.null])])]
    let port : Parameter := ⟨"Web".toList, "web.port".toList, "Configuration for port".toList, .int,
      "\x6080\x60".toList, []⟩
    let hosts : Parameter := ⟨"Web".toList, "web.hosts".toList, "Names to serve.".toList, .list,
      "\x60[null]\x60".toList, ["[a.org]".toList]⟩
    port ∈ parameters webFile root ∧ port.IsWellFormed ∧ hosts ∈ parameters webFile root ∧
      hosts.IsWellFormed := by
  intro root port hosts
  have hport : port ∈ parameters webFile root := by decide +kernel
  have hhosts : hosts ∈ parameters webFile root := by decide +kernel
  exact ⟨hport, isWellFormed_of_mem_parameters hport, hhosts, isWellFormed_of_mem_parameters hhosts⟩

end ChartValues
