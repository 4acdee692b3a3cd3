import ChartValues.Proofs.Line.Trimmed

set_option autoImplicit false

/-!
# The grammar of key lines

The pattern that finds a key can match a line in several ways, since blanks in front of the name
may be taken as a part of the name as well. The first way counts, in the order in which they are
tried. Whether a line is a key line, and what is read on it, can be said without any pattern: by the
first colon of the trimmed line, and what stands before and after it. Where the pattern has to give
blanks back, there is no key.

## Main definitions

* `KeyLine.takings` — the ways to take characters of a kind, the longest first.
* `KeyLine.ways` — the ways in which the pattern matches, in the order in which they are tried.
* `KeyLine.matchForward?` — the pattern, if it never gives a blank back.
* `KeyLine.readBy` — reads a line by a pattern.
* `KeyLine.IsKeyText`, `KeyLine.Shows` — how a key line is written, and the value that it shows.

## Main results

* `KeyLine.match?_eq_head?_ways` — the pattern matches in the first of its ways.
* `KeyLine.readBy_matchForward?` — giving blanks back makes no difference.
* `KeyLine.parse?_eq_some_iff_isKeyText` — what is read on a line.
-/

namespace ChartValues

namespace KeyLine

/-! ## Ways to match -/

/-- The ways to take characters that pass a test from the front of a text: what is taken, and what
is left. To take more comes first. -/
def takings (test : Char → Bool) : Text → List (Text × Text)
  | [] => [([], [])]
  | c :: t =>
    (if test c then (takings test t).map fun way => (c :: way.1, way.2) else []) ++ [([], c :: t)]

/-- What follows the colon that a text begins with. -/
def afterColon? (t : Text) : Option Text := t.after? [':']

/-- The ways to take a name and its colon from the front of a text: the name, which has at least one
character and no colon, and what follows the colon. -/
def nameWays (t : Text) : List (Text × Text) :=
  ((takings (· != ':') t).filter fun way => !way.1.isEmpty).filterMap fun way =>
    (afterColon? way.2).map fun rest => (way.1, rest)

/-- The ways in which the pattern matches a text, in the order in which they are tried: any blanks,
and then a name and its colon. Each way gives the blanks, the name, and what follows the colon. -/
def ways (t : Text) : List (Text × Text × Text) :=
  (takings Text.isBlank t).flatMap fun start =>
    (nameWays start.2).map fun named => (start.1, named.1, named.2)

lemma afterColon?_cons (c : Char) (t : Text) :
    afterColon? (c :: t) = if c = ':' then some t else none := by
  have hafter : afterColon? (c :: t) = if ':' == c then some t else none := rfl
  rw [hafter]
  by_cases hc : c = ':'
  · simp [hc]
  · simp [hc, Ne.symm hc]

lemma afterColon?_eq_some_iff {t rest : Text} : afterColon? t = some rest ↔ t = ':' :: rest := by
  cases t with
  | nil =>
    have hnone : afterColon? [] = none := rfl
    simp [hnone]
  | cons c t =>
    rw [afterColon?_cons]
    by_cases hc : c = ':' <;> simp [hc]

/-- Nothing is taken, or else the first character and then more. -/
lemma mem_takings_cons {test : Char → Bool} {c : Char} {t taken left : Text} :
    (taken, left) ∈ takings test (c :: t) ↔
      (taken = [] ∧ left = c :: t) ∨
        (test c = true ∧ ∃ more, taken = c :: more ∧ (more, left) ∈ takings test t) := by
  rw [takings, List.mem_append, List.mem_singleton, Prod.mk.injEq, or_comm]
  by_cases hc : test c = true
  · simp only [hc, if_true, List.mem_map, Prod.mk.injEq, Prod.exists, true_and]
    refine or_congr_right ⟨?_, ?_⟩
    · rintro ⟨more, rest, hmem, rfl, rfl⟩
      exact ⟨more, rfl, hmem⟩
    · rintro ⟨more, rfl, hmem⟩
      exact ⟨more, left, hmem, rfl, rfl⟩
  · simp [hc]

/-- What is taken passes the test and begins the text. -/
lemma mem_takings_iff {test : Char → Bool} {t taken left : Text} :
    (taken, left) ∈ takings test t ↔ (∀ c ∈ taken, test c = true) ∧ t = taken ++ left := by
  induction t generalizing taken with
  | nil =>
    rw [takings, List.mem_singleton, Prod.mk.injEq, eq_comm (a := []), List.append_eq_nil_iff]
    constructor
    · rintro ⟨rfl, rfl⟩
      simp
    · rintro ⟨-, hempty⟩
      exact hempty
  | cons c t ih =>
    rw [mem_takings_cons]
    constructor
    · rintro (⟨rfl, rfl⟩ | ⟨hc, more, rfl, hmore⟩)
      · simp
      · obtain ⟨htest, rfl⟩ := ih.1 hmore
        exact ⟨List.forall_mem_cons.2 ⟨hc, htest⟩, rfl⟩
    · rintro ⟨htest, heq⟩
      cases taken with
      | nil => exact .inl ⟨rfl, heq.symm⟩
      | cons d more =>
        obtain ⟨rfl, rfl⟩ := List.cons.inj heq
        obtain ⟨hc, htest⟩ := List.forall_mem_cons.1 htest
        exact .inr ⟨hc, more, rfl, ih.2 ⟨htest, rfl⟩⟩

/-- A way to take a name and its colon. -/
lemma mem_nameWays_iff {t name rest : Text} :
    (name, rest) ∈ nameWays t ↔ name ≠ [] ∧ ':' ∉ name ∧ t = name ++ ':' :: rest := by
  simp only [nameWays, List.mem_filterMap, List.mem_filter, Prod.exists, mem_takings_iff,
    Option.map_eq_some_iff, afterColon?_eq_some_iff, Prod.mk.injEq]
  constructor
  · rintro ⟨name, left, ⟨⟨htest, rfl⟩, hne⟩, rest, rfl, rfl, rfl⟩
    refine ⟨by simpa using hne, fun hcolon => ?_, rfl⟩
    simpa using htest ':' hcolon
  · rintro ⟨hne, hcolon, rfl⟩
    refine ⟨name, ':' :: rest, ⟨⟨fun c hc => ?_, rfl⟩, by simpa using hne⟩, rest, rfl, rfl, rfl⟩
    simp only [bne_iff_ne, ne_eq]
    rintro rfl
    exact hcolon hc

/-- **The ways to match**: a text is cut into blanks, a name without a colon, a colon and a rest in
every possible way. -/
lemma mem_ways_iff {t blanks name rest : Text} :
    (blanks, name, rest) ∈ ways t ↔
      (∀ c ∈ blanks, Text.isBlank c = true) ∧ name ≠ [] ∧ ':' ∉ name ∧
        t = blanks ++ (name ++ ':' :: rest) := by
  simp only [ways, List.mem_flatMap, List.mem_map, Prod.exists, mem_takings_iff, mem_nameWays_iff,
    Prod.mk.injEq]
  constructor
  · rintro ⟨blanks, left, ⟨hblank, rfl⟩, name, rest, ⟨hne, hcolon, rfl⟩, rfl, rfl, rfl⟩
    exact ⟨hblank, hne, hcolon, rfl⟩
  · rintro ⟨hblank, hne, hcolon, rfl⟩
    exact ⟨blanks, _, ⟨hblank, rfl⟩, name, rest, ⟨hne, hcolon, rfl⟩, rfl, rfl, rfl⟩

/-! ## The first way -/

/-- A name is found exactly if there is a way to take it with its colon. -/
lemma nameColon?_eq_some_iff {t name rest : Text} :
    nameColon? t = some (name, rest) ↔ (name, rest) ∈ nameWays t := by
  rw [mem_nameWays_iff]
  constructor
  · intro h
    unfold nameColon? at h
    split at h
    · rename_i c inner d after htake hdrop
      obtain ⟨rfl, rfl⟩ := Prod.mk.inj (Option.some.inj h)
      have hd : d = ':' := by
        have hhead := List.head?_dropWhile_not (· != ':') t
        rw [hdrop] at hhead
        simpa using hhead
      subst hd
      refine ⟨List.cons_ne_nil _ _, ?_, ?_⟩
      · rw [← htake]
        intro hcolon
        simpa using List.mem_takeWhile_imp hcolon
      · rw [← htake, ← hdrop, List.takeWhile_append_dropWhile]
    · cases h
  · rintro ⟨hne, hcolon, rfl⟩
    exact nameColon?_append_colon hne hcolon rest

/-- There is at most one way to take a name with its colon, and this is the one that is found. -/
lemma head?_nameWays (t : Text) : (nameWays t).head? = nameColon? t := by
  cases hways : nameWays t with
  | nil =>
    cases hname : nameColon? t with
    | none => rfl
    | some found =>
      have hmem := nameColon?_eq_some_iff.1 hname
      rw [hways] at hmem
      cases hmem
  | cons found more =>
    have hmem : found ∈ nameWays t := by simp [hways]
    exact (nameColon?_eq_some_iff.2 hmem).symm

/-- **The pattern matches in the first of its ways**: it takes as many blanks as leave a name.

**Proof sketch.** Induction on the text. The ways that take a blank in front are those of the rest
of the text, with one more blank; they come before the ways that take none. -/
lemma match?_eq_head?_ways (t : Text) : match? t = (ways t).head? := by
  induction t with
  | nil => rfl
  | cons c t ih =>
    have hnone : ((nameWays (c :: t)).map fun named => (([] : Text), named.1, named.2)).head? =
        (nameColon? (c :: t)).map fun found => ([], found.1, found.2) := by
      rw [List.head?_map, head?_nameWays]
    have hways : ways (c :: t) =
        (if Text.isBlank c then (ways t).map fun way => (c :: way.1, way.2) else []) ++
          (nameWays (c :: t)).map fun named => ([], named.1, named.2) := by
      rw [ways, takings, List.flatMap_append]
      congr 1
      · split_ifs
        · simp only [ways, List.flatMap_map, List.map_flatMap, List.map_map]
          rfl
        · rfl
      · simp
    rw [match?_cons, hways, List.head?_append, hnone]
    split_ifs
    · rw [List.head?_map, ← ih]
      cases match? t <;> rfl
    · rfl

/-! ## Blanks are not given back -/

/-- The pattern without a way back: all the blanks that a text begins with, and then a name and its
colon. -/
def matchForward? (t : Text) : Option (Text × Text × Text) :=
  (nameColon? (t.dropWhile Text.isBlank)).map fun found =>
    (t.takeWhile Text.isBlank, found.1, found.2)

/-- Reads a line as a key line, by a pattern that finds blanks, a name, and what follows the colon
of the name. -/
def readBy (pattern : Text → Option (Text × Text × Text)) (line : Text) : Option KeyLine :=
  if mayDefine line then
    (pattern line).bind fun found =>
      if isKey found.2.1.trim then
        some ⟨found.1.byteLength, found.2.1.trim, seesValue found.2.2⟩
      else none
  else none

/-- Lines are read by the first way in which the pattern matches. -/
lemma readBy_head?_ways (line : Text) : readBy (fun t => (ways t).head?) line = parse? line := by
  rw [readBy, parse?_eq, match?_eq_head?_ways]

/-- **Giving blanks back makes no difference**: it lets the pattern match only where the first
character that is not blank is a colon, and then the name is blank and is no key. -/
lemma readBy_matchForward? (line : Text) : readBy matchForward? line = parse? line := by
  by_cases hcolon : ':' ∈ line.trim
  · obtain ⟨before, after, htrim, hbefore⟩ := List.eq_append_cons_of_mem hcolon
    obtain ⟨tail, htail, hstart⟩ := Text.exists_eq_trimEnd_append line.trimStart
    have hdrop : line.dropWhile Text.isBlank = before ++ ':' :: (after ++ tail) := by
      have hrest : line.trimStart = line.trim ++ tail := hstart
      rw [htrim, List.append_assoc] at hrest
      exact hrest
    have hsees := seesValue_append_of_blank after htail
    rw [readBy, matchForward?, hdrop, parse?_of_trim_eq htrim hbefore]
    by_cases hempty : before = []
    · subst hempty
      have hnokey : isKey (Text.trim []) = false := rfl
      simp [nameColon?, hnokey]
    · rw [nameColon?_append_colon hempty hbefore]
      cases mayDefine line <;> simp [hsees, Line.indentation]
  · rw [parse?_of_colon_notMem hcolon, readBy, mayDefine_of_colon_notMem hcolon]
    rfl

/-! ## Key lines without the pattern -/

/-- `IsKeyText s name rest` says that a line without the blanks around it is written like a key
line: a name, which has no colon and does not begin with a quote, then a colon, and a rest. It is
no comment and separates no documents. -/
structure IsKeyText (s name rest : Text) : Prop where
  eq_append : s = name ++ ':' :: rest
  colon_notMem : ':' ∉ name
  ne_nil : name ≠ []
  not_comment : s.startsWith ['#'] = false
  not_separator : s.startsWith ['-', '-', '-'] = false
  not_quote : name.startsWith ['"'] = false
  not_apostrophe : name.startsWith ['\x27'] = false

/-- `Shows t value` says what is left as the value of a text: an anchor in front does not count, up
to the first blank and with the blanks that follow it. -/
inductive Shows : Text → Text → Prop where
  | plain {t : Text} (noAnchor : t.startsWith ['&'] = false) : Shows t t
  | anchored {anchor rest : Text} {blank : Char} (solid : ∀ c ∈ anchor, Text.isBlank c = false)
      (isBlank : Text.isBlank blank = true) :
      Shows ('&' :: anchor ++ blank :: rest) rest.trimStart
  | anchor {anchor : Text} (solid : ∀ c ∈ anchor, Text.isBlank c = false) : Shows ('&' :: anchor) []

/-- An anchor goes up to the first blank. -/
lemma afterAnchor_cons (t : Text) :
    afterAnchor ('&' :: t) = Text.trimStart (t.dropWhile fun c => !Text.isBlank c) := rfl

/-- What a text shows is what follows its anchor. -/
lemma Shows.eq_afterAnchor {t value : Text} (h : Shows t value) : value = afterAnchor t := by
  cases h with
  | plain noAnchor => rw [afterAnchor, if_neg (by simp [noAnchor])]
  | anchored solid isBlank =>
    rw [List.cons_append, afterAnchor_cons,
      List.dropWhile_append_of_pos fun c hc => by simp [solid c hc],
      List.dropWhile_cons_of_neg (by simp [isBlank]), Text.trimStart, Text.trimStart,
      List.dropWhile_cons_of_pos isBlank]
  | anchor solid =>
    rw [afterAnchor_cons, List.dropWhile_eq_nil_iff.2 fun c hc => by simp [solid c hc]]
    rfl

/-- Every text shows what follows its anchor, whether it has one or not. -/
lemma shows_afterAnchor (t : Text) : Shows t (afterAnchor t) := by
  by_cases hanchor : t.startsWith ['&'] = true
  · obtain ⟨u, rfl⟩ := List.isPrefixOf_iff_prefix.1 hanchor
    have hsolid : ∀ c ∈ u.takeWhile fun c => !Text.isBlank c, Text.isBlank c = false :=
      fun c hc => by simpa using List.mem_takeWhile_imp hc
    have hcut := List.takeWhile_append_dropWhile (p := fun c => !Text.isBlank c) (l := u)
    rw [List.singleton_append, afterAnchor_cons]
    cases hdrop : u.dropWhile fun c => !Text.isBlank c with
    | nil =>
      rw [hdrop, List.append_nil] at hcut
      rw [hcut] at hsolid
      exact .anchor hsolid
    | cons b rest =>
      have hb : Text.isBlank b = true := by
        have hhead := List.head?_dropWhile_not (fun c => !Text.isBlank c) u
        rw [hdrop] at hhead
        simpa using hhead
      rw [hdrop] at hcut
      have hshows : Shows ('&' :: (u.takeWhile fun c => !Text.isBlank c) ++ b :: rest)
          (Text.trimStart rest) := .anchored hsolid hb
      rw [List.cons_append, hcut] at hshows
      rwa [Text.trimStart, List.dropWhile_cons_of_pos hb]
  · rw [Bool.not_eq_true] at hanchor
    rw [afterAnchor, if_neg (by simp [hanchor])]
    exact .plain hanchor

lemma shows_iff {t value : Text} : Shows t value ↔ value = afterAnchor t :=
  ⟨Shows.eq_afterAnchor, fun h => h ▸ shows_afterAnchor t⟩

/-- Blanks at the end of a name do not count for what it begins with. -/
lemma isKey_trim_iff {line name rest : Text} (h : line.trim = name ++ rest) :
    isKey name.trim = true ↔
      name ≠ [] ∧ name.startsWith ['"'] = false ∧ name.startsWith ['\x27'] = false := by
  rw [Text.trim_eq_trimEnd h]
  cases name with
  | nil =>
    have hnone : isKey (Text.trimEnd []) = false := rfl
    simp [hnone]
  | cons c inner =>
    have htrim : Text.trimEnd (c :: inner) = c :: Text.trimEnd inner :=
      Text.trimEnd_append_cons [] (Text.not_isBlank_of_trim_eq_cons h) inner
    rw [htrim]
    simp [isKey, Text.startsWith, List.isPrefixOf]

/-- Whether a line is a key line is told by what it begins with, and by its name. -/
lemma isKeyText_iff {line name rest : Text} (h : line.trim = name ++ ':' :: rest)
    (hcolon : ':' ∉ name) :
    IsKeyText line.trim name rest ↔ mayDefine line = true ∧ isKey name.trim = true := by
  have hcontains : line.trim.contains [':'] = true := Text.contains_singleton.2 (by simp [h])
  have hmay : mayDefine line = true ↔ line.trim.startsWith ['#'] = false ∧
      line.trim.startsWith ['-', '-', '-'] = false := by
    simp [mayDefine, hcontains]
  rw [hmay, isKey_trim_iff h]
  constructor
  · intro hwritten
    exact ⟨⟨hwritten.not_comment, hwritten.not_separator⟩, hwritten.ne_nil, hwritten.not_quote,
      hwritten.not_apostrophe⟩
  · rintro ⟨⟨hcomment, hseparator⟩, hne, hquote, hapostrophe⟩
    exact ⟨h, hcolon, hne, hcomment, hseparator, hquote, hapostrophe⟩

/-- A line that is written like a key line is read as one. -/
lemma parse?_of_isKeyText {line name rest : Text} (h : IsKeyText line.trim name rest) :
    parse? line = some ⟨Line.indentation line, name.trimEnd, seesValue rest⟩ := by
  obtain ⟨hmay, hkey⟩ := (isKeyText_iff h.eq_append h.colon_notMem).1 h
  rw [parse?_of_trim_eq h.eq_append h.colon_notMem, hmay, hkey, Text.trim_eq_trimEnd h.eq_append]
  rfl

/-- A key line is written like one. -/
lemma exists_isKeyText_of_parse? {line : Text} {found : KeyLine} (h : parse? line = some found) :
    ∃ name rest, IsKeyText line.trim name rest := by
  by_cases hcolon : ':' ∈ line.trim
  · obtain ⟨name, rest, htrim, hname⟩ := List.eq_append_cons_of_mem hcolon
    refine ⟨name, rest, (isKeyText_iff htrim hname).2 ?_⟩
    rw [parse?_of_trim_eq htrim hname] at h
    split_ifs at h with hkey
    exact Bool.and_eq_true_iff.1 hkey
  · rw [parse?_of_colon_notMem hcolon] at h
    cases h

/-- The key of a key line is not empty, and has no colon. -/
lemma IsKeyText.trimEnd_ne_nil_and_colon_notMem {line name rest : Text}
    (h : IsKeyText line.trim name rest) : name.trimEnd ≠ [] ∧ ':' ∉ name.trimEnd := by
  obtain ⟨-, hkey⟩ := (isKeyText_iff h.eq_append h.colon_notMem).1 h
  rw [Text.trim_eq_trimEnd h.eq_append] at hkey
  constructor
  · intro hnil
    rw [hnil] at hkey
    cases hkey
  · exact fun hmem => h.colon_notMem ((Text.trimEnd_begins name).subset hmem)

/-- **What is read on a line**, for every line:

* Without the blanks around it, the line is a key line exactly if it is no comment, separates no
  documents, and has a name before its first colon that does not begin with a quote.
* Its indentation is the number of bytes of all blanks in front. The key is the name without
  blanks at its end; it is not empty and has no colon. A value is seen exactly if something that is
  no comment is left of the rest, without the blanks around it and an anchor in front.
* The pattern matches in exactly those ways that cut the line into blanks, a name without a colon, a
  colon and a rest. The line is read by the first of them, and it is read the same if the pattern
  never gives a blank back. -/
theorem parse?_eq_some_iff_isKeyText (line : Text) :
    ((parse? line).isSome = true ↔ ∃ name rest, IsKeyText line.trim name rest) ∧
      (∀ found, parse? line = some found ↔ ∃ name rest value,
        IsKeyText line.trim name rest ∧ Shows rest.trim value ∧
          found.indent = Text.byteLength (line.takeWhile Text.isBlank) ∧
          found.key = name.trimEnd ∧ found.key ≠ [] ∧ ':' ∉ found.key ∧
          (found.hasInlineValue = true ↔ value ≠ [] ∧ value.startsWith ['#'] = false)) ∧
      (∀ blanks name rest, (blanks, name, rest) ∈ ways line ↔
        (∀ c ∈ blanks, Text.isBlank c = true) ∧ name ≠ [] ∧ ':' ∉ name ∧
          line = blanks ++ (name ++ ':' :: rest)) ∧
      parse? line = readBy (fun t => (ways t).head?) line ∧
      parse? line = readBy matchForward? line := by
  refine ⟨?_, fun found => ⟨?_, ?_⟩, fun blanks name rest => mem_ways_iff,
    (readBy_head?_ways line).symm, (readBy_matchForward? line).symm⟩
  · constructor
    · intro hsome
      obtain ⟨found, hfound⟩ := Option.isSome_iff_exists.1 hsome
      exact exists_isKeyText_of_parse? hfound
    · rintro ⟨name, rest, hwritten⟩
      rw [parse?_of_isKeyText hwritten]
      rfl
  · intro h
    obtain ⟨name, rest, hwritten⟩ := exists_isKeyText_of_parse? h
    rw [parse?_of_isKeyText hwritten] at h
    obtain rfl := Option.some.inj h
    obtain ⟨hne, hcolon⟩ := hwritten.trimEnd_ne_nil_and_colon_notMem
    exact ⟨name, rest, afterAnchor rest.trim, hwritten, shows_iff.2 rfl, rfl, rfl, hne, hcolon,
      by simp [seesValue]⟩
  · rintro ⟨name, rest, value, hwritten, hshows, hindent, hkey, -, -, hvalue⟩
    obtain rfl := shows_iff.1 hshows
    obtain ⟨indent, key, hasInlineValue⟩ := found
    have hsees : hasInlineValue = seesValue rest := by
      rw [Bool.eq_iff_iff]
      simpa [seesValue] using hvalue
    rw [parse?_of_isKeyText hwritten, hsees]
    simp only at hindent hkey
    rw [hindent, hkey, Line.indentation]

/-- In front of a colon, the pattern gives a blank back, and reads nothing. -/
example : (ways "  : x".toList).head? = some ([' '], [' '], " x".toList) ∧
    matchForward? "  : x".toList = none ∧ parse? "  : x".toList = none := by decide

end KeyLine

end ChartValues
