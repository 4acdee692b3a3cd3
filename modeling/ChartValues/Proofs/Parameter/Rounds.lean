import ChartValues.Proofs.Line.Blocks
import ChartValues.Proofs.Line.LookAhead
import ChartValues.Proofs.Parameter.Survey
import Mathlib.Computability.StateTransition

set_option autoImplicit false

/-!
# Extraction in rounds

Extraction can be told as a loop that stands at some line of the file. A round at a banner line goes
on where its look-ahead ends. A round at any other line goes on at the next one; if the line has a
key, it looks at the lines above. Nothing in this says that the loop comes to an end, or that it
never leaves the file. Both follow from where look-aheads end: every round brings the loop nearer to
the end of the file, and none goes beyond.

## Main definitions

* `Line.above?` — the lines above a place, if the file reaches up to there.
* `Extraction` — where extraction stands, and what it has documented so far.
* `Extraction.next?` — one round.
* `Extraction.outcome` — what extraction comes to from where it stands.

## Main results

* `Extraction.next?_cases` — what a round does.
* `Extraction.remaining_lt_of_next?`, `Extraction.outcome_of_next?` — a round leaves fewer lines,
  and keeps the outcome.
* `Extraction.exists_mem_eval` — the rounds come to an end, wherever they begin.
* `parameters_of_rounds` — they end behind the last line, with the parameters of the file.
-/

namespace ChartValues

/-- The lines above a place, from the nearest to the farthest, if the file reaches up to there. -/
def Line.above? (lines : List Text) (index : Nat) : Option (List Text) :=
  if index ≤ lines.length then some (lines.take index).reverse else none

/-- The lines above a place are there unless it lies beyond the end of the file. -/
lemma Line.above?_of_le {lines : List Text} {index : Nat} (h : index ≤ lines.length) :
    Line.above? lines index = some (lines.take index).reverse := if_pos h

/-- Where extraction stands in a file, in which section, and what it has documented so far. -/
structure Extraction where
  index : Nat
  sectionTitle : Text
  documented : List Parameter
deriving DecidableEq, Repr

namespace Extraction

/-- Extraction begins at the first line, in no section. -/
def start : Extraction := ⟨0, [], []⟩

/-- The number of lines from where extraction stands. -/
def remaining (lines : List Text) (e : Extraction) : Nat := lines.length - e.index

/-- One round at a line. It breaks off if a key asks for lines above that the file does not have. -/
def read? (lines : List Text) (root : Value) (e : Extraction) (line : Text) : Option Extraction :=
  if Line.isBanner line then
    let ahead := Line.lookAhead lines e.index
    some { e with index := ahead.2, sectionTitle := ahead.1.getD e.sectionTitle }
  else
    match KeyLine.parse? line with
    | none => some { e with index := e.index + 1 }
    | some _ => (Line.above? lines e.index).map fun above =>
        let found := (findAt root e.sectionTitle above line).map Finding.parameter
        { e with index := e.index + 1, documented := e.documented ++ found.toList }

/-- The next round, as long as extraction stands at a line of the file. -/
def next? (lines : List Text) (root : Value) (e : Extraction) : Option Extraction :=
  lines[e.index]?.bind (e.read? lines root)

/-- What extraction comes to from where it stands: what is documented already, and what is found in
the lines that remain. -/
def outcome (lines : List Text) (root : Value) (e : Extraction) : List Parameter :=
  e.documented ++ (findingsFrom root e.sectionTitle (lines.take e.index).reverse 0
    (lines.drop e.index)).map Finding.parameter

variable {lines : List Text} {root : Value} {e e' : Extraction}

/-! ## One round -/

/-- The round at a line of the file, which does not break off. -/
lemma next?_of_getElem? {line : Text} (h : lines[e.index]? = some line) :
    next? lines root e = some (
      if Line.isBanner line then
        ⟨(Line.lookAhead lines e.index).2, (Line.lookAhead lines e.index).1.getD e.sectionTitle,
          e.documented⟩
      else
        ⟨e.index + 1, e.sectionTitle, e.documented ++
          ((findAt root e.sectionTitle (lines.take e.index).reverse line).map
            Finding.parameter).toList⟩) := by
  obtain ⟨hlt, -⟩ := List.getElem?_eq_some_iff.1 h
  rw [next?, h, Option.bind_some, read?]
  split_ifs with hbanner
  · rfl
  · rw [Line.above?_of_le hlt.le]
    cases hparse : KeyLine.parse? line with
    | none => simp [findAt_of_none hparse]
    | some found => rfl

/-- **What a round does.** At a banner line it goes on where the look-ahead ends, in the section
that was found. At any other line it goes on at the next one, with what was found at the line. -/
lemma next?_cases (h : next? lines root e = some e') :
    ∃ line, lines[e.index]? = some line ∧
      (Line.isBanner line = true ∧
          e' = ⟨(Line.lookAhead lines e.index).2,
            (Line.lookAhead lines e.index).1.getD e.sectionTitle, e.documented⟩ ∨
        Line.isBanner line = false ∧
          e' = ⟨e.index + 1, e.sectionTitle, e.documented ++
            ((findAt root e.sectionTitle (lines.take e.index).reverse line).map
              Finding.parameter).toList⟩) := by
  obtain ⟨line, hget, -⟩ := Option.bind_eq_some_iff.1 h
  refine ⟨line, hget, ?_⟩
  rw [next?_of_getElem? hget] at h
  split_ifs at h with hbanner
  · exact .inl ⟨hbanner, (Option.some.inj h).symm⟩
  · exact .inr ⟨by simpa using hbanner, (Option.some.inj h).symm⟩

/-- No round breaks off: there is a next one unless extraction stands behind the last line. -/
lemma length_le_of_next?_eq_none (h : next? lines root e = none) : lines.length ≤ e.index := by
  by_contra hlt
  rw [next?_of_getElem? (List.getElem?_eq_getElem (Nat.not_le.1 hlt))] at h
  cases h

/-- A round goes on at a later line, and does not leave the file. -/
lemma index_of_next? (h : next? lines root e = some e') :
    e.index < e'.index ∧ e'.index ≤ lines.length := by
  obtain ⟨line, hget, ⟨-, rfl⟩ | ⟨-, rfl⟩⟩ := next?_cases h
  · obtain ⟨hlt, -⟩ := List.getElem?_eq_some_iff.1 hget
    have hends := Line.endsLookAhead_lookAhead hlt
    exact ⟨hends.lt, hends.le⟩
  · obtain ⟨hlt, -⟩ := List.getElem?_eq_some_iff.1 hget
    exact ⟨Nat.lt_succ_self _, hlt⟩

/-- After a round, fewer lines remain. -/
lemma remaining_lt_of_next? (h : next? lines root e = some e') :
    e'.remaining lines < e.remaining lines := by
  obtain ⟨hlt, hle⟩ := index_of_next? h
  simp only [remaining]
  omega

/-- Passing over lines of a file moves on to a later line. -/
lemma findingsFrom_drop (lines : List Text) (root : Value) (title : Text) (index passed : Nat) :
    findingsFrom root title (lines.take index).reverse passed (lines.drop index) =
      findingsFrom root title (lines.take (index + passed)).reverse 0
        (lines.drop (index + passed)) := by
  rw [findingsFrom_skip, ← List.reverse_append, ← List.take_add, List.drop_drop]

/-- **A round keeps the outcome**: what it adds to the documented parameters, it takes from what is
found in the remaining lines.

**Proof sketch.** Where no banner line stands, this is one step of `findingsFrom`. At a banner line
`findingsFrom` passes over as many lines as the look-ahead has passed, and passing over lines only
moves them above (`findingsFrom_skip`). -/
lemma outcome_of_next? (h : next? lines root e = some e') :
    e'.outcome lines root = e.outcome lines root := by
  obtain ⟨line, hget, hround⟩ := next?_cases h
  obtain ⟨hlt, hline⟩ := List.getElem?_eq_some_iff.1 hget
  have hbelow : lines.drop e.index = line :: lines.drop (e.index + 1) := by
    rw [List.drop_eq_getElem_cons hlt, hline]
  have habove : (lines.take (e.index + 1)).reverse = line :: (lines.take e.index).reverse := by
    rw [Line.reverse_take_succ, hget]
    rfl
  rw [outcome, outcome, hbelow, findingsFrom]
  rcases hround with ⟨hbanner, rfl⟩ | ⟨hbanner, rfl⟩
  · have hpassed := findingsFrom_drop lines root
      ((Line.lookAhead lines e.index).1.getD e.sectionTitle) (e.index + 1)
      (Line.outlook (lines.drop (e.index + 1))).passed
    rw [if_pos hbanner, ← habove]
    exact congrArg (fun found => e.documented ++ found.map Finding.parameter) hpassed.symm
  · rw [if_neg (by simp [hbanner]), habove, List.map_append, ← List.append_assoc]
    cases findAt root e.sectionTitle (lines.take e.index).reverse line <;> rfl

/-! ## All rounds -/

/-- Behind the last line, all has been documented. -/
lemma outcome_of_length_le (h : lines.length ≤ e.index) : e.outcome lines root = e.documented := by
  rw [outcome, List.drop_eq_nil_of_le h, findingsFrom, List.map_nil, List.append_nil]

/-- Rounds do not leave the file, and they keep the outcome. -/
lemma of_reaches (h : StateTransition.Reaches (next? lines root) e e')
    (hle : e.index ≤ lines.length) :
    e'.index ≤ lines.length ∧ e'.outcome lines root = e.outcome lines root := by
  induction h with
  | refl => exact ⟨hle, rfl⟩
  | tail _ hround ih =>
    exact ⟨(index_of_next? hround).2, (outcome_of_next? hround).trans ih.2⟩

/-- **The rounds come to an end, wherever they begin.**

**Proof sketch.** Induction on the number of remaining lines, which every round makes smaller. -/
lemma exists_mem_eval (lines : List Text) (root : Value) (e : Extraction) :
    ∃ last, last ∈ StateTransition.eval (next? lines root) e := by
  induction hcount : e.remaining lines using Nat.strong_induction_on generalizing e with
  | _ count ih =>
    cases hnext : next? lines root e with
    | none => exact ⟨e, StateTransition.mem_eval.2 ⟨Relation.ReflTransGen.refl, hnext⟩⟩
    | some e' =>
      have hlt := remaining_lt_of_next? hnext
      rw [hcount] at hlt
      obtain ⟨last, hlast⟩ := ih _ hlt e' rfl
      refine ⟨last, ?_⟩
      rwa [StateTransition.reaches_eval (Relation.ReflTransGen.single hnext)]

/-- From the first line, the outcome is what is documented of the file. -/
lemma outcome_start (t : Text) (root : Value) :
    start.outcome t.lines root = parameters t root := rfl

end Extraction

/-- **Extraction in rounds ends with the parameters of the file.** From every line of a file, the
look-ahead ends as it should, and only so: it makes progress, it stays in the file, and it passes
over bare comments and rules alone. Therefore every round of extraction leaves fewer lines than
before, and the rounds end behind the last line, where the parameters of the file have been
documented. The lines above are there in all rounds.

**Proof sketch.** No round breaks off before the end of the file, since none has left it
(`Extraction.length_le_of_next?_eq_none`, `Extraction.of_reaches`). The outcome is the same all the
way (`Extraction.outcome_of_next?`); at the first line it is the parameters of the file, and behind
the last one it is what has been documented. -/
theorem parameters_of_rounds (root : Value) :
    (∀ (lines : List Text) (index : Nat), index < lines.length → ∀ title? next,
        Line.lookAhead lines index = (title?, next) ↔
          Line.EndsLookAhead lines index title? next) ∧
      ∀ t : Text,
        (∀ e e', Extraction.next? t.lines root e = some e' →
          e'.remaining t.lines < e.remaining t.lines) ∧
        (∃ last ∈ StateTransition.eval (Extraction.next? t.lines root) Extraction.start,
          last.index = t.lines.length ∧ last.documented = parameters t root) ∧
        ∀ e, StateTransition.Reaches (Extraction.next? t.lines root) Extraction.start e →
          e.index ≤ t.lines.length ∧ (Line.above? t.lines e.index).isSome = true := by
  refine ⟨fun lines index hlt => Line.lookAhead_eq_iff hlt, fun t => ?_⟩
  have hstart : Extraction.start.index ≤ t.lines.length := Nat.zero_le _
  refine ⟨fun e e' => Extraction.remaining_lt_of_next?, ?_, ?_⟩
  · obtain ⟨last, hlast⟩ := Extraction.exists_mem_eval t.lines root Extraction.start
    obtain ⟨hreaches, hend⟩ := StateTransition.mem_eval.1 hlast
    obtain ⟨hle, houtcome⟩ := Extraction.of_reaches hreaches hstart
    have hlength := Extraction.length_le_of_next?_eq_none hend
    refine ⟨last, hlast, Nat.le_antisymm hle hlength, ?_⟩
    rw [← Extraction.outcome_of_length_le hlength, houtcome, Extraction.outcome_start]
  · intro e hreaches
    have hle := (Extraction.of_reaches hreaches hstart).1
    exact ⟨hle, by rw [Line.above?_of_le hle, Option.isSome_some]⟩

/-- A values file with a banner of bare comments and rules of all kinds, and a banner line at its
end. -/
def raggedBanner : Text :=
  "# =====\n#\n#=====\n#   =====\n# Net\n#\t=====\nport: 80\n# =====".toList

/-- The look-aheads of the ragged banner end at its title, at the key, and behind the last line. The
rounds go from the banner line to the title, and on to the end. -/
theorem rounds_of_raggedBanner :
    let root : Value := .map [(.text "port".toList, .int 80)]
    let titled : Extraction := ⟨4, "Net".toList, []⟩
    Line.EndsLookAhead raggedBanner.lines 0 (some "Net".toList) 4 ∧
      Line.EndsLookAhead raggedBanner.lines 5 none 6 ∧
      Line.EndsLookAhead raggedBanner.lines 7 none 8 ∧
      titled.remaining raggedBanner.lines < Extraction.start.remaining raggedBanner.lines ∧
      (Line.above? raggedBanner.lines titled.index).isSome = true ∧
      ∃ last ∈ StateTransition.eval (Extraction.next? raggedBanner.lines root) Extraction.start,
        last.index = 8 ∧
          last.documented.map (fun p => (p.sectionTitle, p.name)) =
            [("Net".toList, "port".toList)] := by
  intro root titled
  obtain ⟨hahead, hrounds⟩ := parameters_of_rounds root
  obtain ⟨hremaining, ⟨last, hlast, hindex, hparameters⟩, habove⟩ := hrounds raggedBanner
  have htitled : Extraction.next? raggedBanner.lines root Extraction.start = some titled := by
    decide
  refine ⟨(hahead _ 0 (by decide) _ _).1 (by decide), (hahead _ 5 (by decide) _ _).1 (by decide),
    (hahead _ 7 (by decide) _ _).1 (by decide), hremaining _ _ htitled,
    (habove _ (Relation.ReflTransGen.single htitled)).2, last, hlast, hindex.trans (by decide), ?_⟩
  rw [hparameters]
  decide

end ChartValues
