import ChartValues.Proofs.Page.Marks
import ChartValues.Proofs.ValuesFile

set_option autoImplicit false

/-!
# The cells of a row

A row has four cells if it has five pipes that are not escaped: one at each end, and one between any
two cells. Descriptions and default values are written so that they bring in none, and no row breaks
at a line feed. But the name of a parameter is written as it is, and carriage returns stay wherever
they are, so that a key with a pipe has a row with more cells, and a text with a carriage return has
a row that some readers break.

## Main definitions

* `Page.barePipes` — the number of pipes that are not escaped.

## Main results

* `Page.barePipes_cell`, `Page.barePipes_codeSpan` — the pipes of a cell.
* `Page.row_of_mem_parameters` — the pipes and line ends of the row of a parameter.
* `Page.exists_row_broken` — rows with more than four cells, or with a carriage return.
-/

namespace ChartValues

namespace Page

/-! ## Pipes -/

/-- The number of pipes of a text that do not stand directly behind a backslash. The text stands
behind the given character. -/
def barePipes (before : Char) : Text → Nat
  | [] => 0
  | c :: t => (if c = '|' ∧ before ≠ '\\' then 1 else 0) + barePipes c t

/-- The pipes of two texts in a row: the second one stands behind the last character of the first
one. -/
lemma barePipes_append (before : Char) (t u : Text) :
    barePipes before (t ++ u) = barePipes before t + barePipes (t.getLastD before) u := by
  induction t generalizing before with
  | nil => simp [barePipes]
  | cons c t ih =>
    rw [List.cons_append, barePipes, barePipes, ih, List.getLastD_cons, Nat.add_assoc]

/-- **All pipes of a cell are escaped**, whatever its text is. -/
lemma barePipes_cell (before : Char) (t : Text) : barePipes before (cell t) = 0 := by
  induction t generalizing before with
  | nil => rfl
  | cons c t ih =>
    have hchar : barePipes before (cellChar c) = 0 := by
      unfold cellChar
      split_ifs with hpipe
      · rfl
      · rfl
      · simp [barePipes, hpipe]
    rw [cell, List.flatMap_cons, barePipes_append, hchar, ← cell, ih]

/-- The pipes of a code span are those of its text. -/
lemma barePipes_codeSpan (before : Char) (t : Text) :
    barePipes before (codeSpan t) = barePipes '\x60' t := by
  simp [codeSpan, barePipes, barePipes_append]

/-- No kind has a pipe in its name. -/
lemma barePipes_kind (kind : Kind) : barePipes '\x60' kind.name = 0 := by
  cases kind <;> rfl

/-- The four cells of a row and the pipes around them, character by character. -/
lemma row_eq (p : Parameter) :
    row p = ['|', ' '] ++ codeSpan p.name ++ [' ', '|', ' '] ++ cell p.description
      ++ [' ', '|', ' '] ++ codeSpan p.kind.name ++ [' ', '|', ' '] ++ cell p.shown
      ++ [' ', '|'] := rfl

/-- **The pipes of a row** are the five around its cells, and those of the name. -/
lemma barePipes_row (p : Parameter) :
    barePipes '\n' (row p) = 5 + barePipes '\x60' p.name := by
  have hopen : barePipes '\n' ['|', ' '] = 1 := rfl
  have hbetween : ∀ before, barePipes before [' ', '|', ' '] = 1 := fun before => by
    simp [barePipes]
  have hclose : ∀ before, barePipes before [' ', '|'] = 1 := fun before => by simp [barePipes]
  simp only [row_eq, barePipes_append, barePipes_cell, barePipes_codeSpan, barePipes_kind, hopen,
    hbetween, hclose]
  omega

/-! ## Carriage returns -/

/-- Carriage returns of a text stay in its cell. -/
lemma return_mem_cell_iff {t : Text} : '\r' ∈ cell t ↔ '\r' ∈ t := by
  have hchar : ∀ c, '\r' ∈ cellChar c ↔ '\r' = c := by
    intro c
    unfold cellChar
    split_ifs with hpipe hfeed
    · simp [hpipe]
    · simp [hfeed]
    · simp
  simp [cell, List.mem_flatMap, hchar]

/-- The carriage returns of a row are those of its texts. -/
lemma return_mem_row_iff {p : Parameter} :
    '\r' ∈ row p ↔ '\r' ∈ p.name ∨ '\r' ∈ p.description ∨ '\r' ∈ p.shown := by
  have hkind : '\r' ∉ p.kind.name := by
    cases p.kind <;> decide
  have hspan : ∀ t : Text, '\r' ∈ codeSpan t ↔ '\r' ∈ t := by
    intro t
    simp [codeSpan]
  simp [row_eq, hspan, hkind, return_mem_cell_iff]

/-! ## Rows of parameters -/

/-- **The row of a parameter** of a values file is one line of every table that shows it, with five
pipes around its cells. It has four cells exactly if no pipe of the name of the parameter is bare;
descriptions and default values never count. It has a carriage return exactly if the name, the
description or the default value has one.

**Proof sketch.** Names stay on their lines (`lineFeed_notMem_of_mem_parameters`), and cells spell
line feeds out and escape pipes (`lineFeed_notMem_row`, `barePipes_row`). -/
theorem row_of_mem_parameters {t : Text} {root : Value} {p : Parameter}
    (h : p ∈ parameters t root) :
    (∀ ps ⊆ parameters t root, ps ≠ [] → (table ps).splitOn '\n' = tableHead ++ ps.map row) ∧
      '\n' ∉ row p ∧
      barePipes '\n' (row p) = 5 + barePipes '\x60' p.name ∧
      ('\r' ∈ row p ↔ '\r' ∈ p.name ∨ '\r' ∈ p.description ∨ '\r' ∈ p.shown) := by
  refine ⟨fun ps hps hne => ?_, ?_, barePipes_row p, return_mem_row_iff⟩
  · exact splitOn_table hne fun q hq => (lineFeed_notMem_of_mem_parameters (hps hq)).2
  · exact lineFeed_notMem_row (lineFeed_notMem_of_mem_parameters h).2

/-- A values file with a pipe in a key. -/
def pipedKey : Text := "a|b: 1\n".toList

/-- A values file with a carriage return in a text. -/
def returnedText : Text := "a: \"x\\ry\"\n".toList

/-- In the file with a pipe in a key, the name of the parameter has the pipe. -/
lemma exists_parameter_of_pipedKey :
    ∃ root p, parseValues pipedKey = .ok root ∧ p ∈ parameters pipedKey root ∧
      p.name = "a|b".toList := by
  have hcheck : (parseValues pipedKey).toOption.any (fun root =>
      (parameters pipedKey root).any fun p => p.name == "a|b".toList) = true := by decide +kernel
  obtain ⟨root, hroot, hcheck⟩ := exists_root_of_any hcheck
  obtain ⟨p, hp, hname⟩ := List.any_eq_true.1 hcheck
  exact ⟨root, p, hroot, hp, by simpa using hname⟩

/-- In the file with a pipe in a key, the row stays on its line and has one more pipe than the five
around its cells. -/
theorem row_pipedKey :
    ∃ root p, p ∈ parameters pipedKey root ∧ '\n' ∉ row p ∧ barePipes '\n' (row p) = 6 := by
  obtain ⟨root, p, -, hp, hname⟩ := exists_parameter_of_pipedKey
  obtain ⟨-, hfeed, hpipes, -⟩ := row_of_mem_parameters hp
  refine ⟨root, p, hp, hfeed, ?_⟩
  rw [hpipes, hname]
  decide

/-- Rows can be broken: the row of a key with a pipe has five cells, and the row of a text with a
carriage return has a carriage return. -/
theorem exists_row_broken :
    (∃ root p, parseValues pipedKey = .ok root ∧ p ∈ parameters pipedKey root ∧
      barePipes '\n' (row p) = 6) ∧
      ∃ root p, parseValues returnedText = .ok root ∧ p ∈ parameters returnedText root ∧
        '\r' ∈ row p := by
  constructor
  · obtain ⟨root, p, hroot, hp, hname⟩ := exists_parameter_of_pipedKey
    refine ⟨root, p, hroot, hp, ?_⟩
    rw [barePipes_row, hname]
    decide
  · have hcheck : (parseValues returnedText).toOption.any (fun root =>
        (parameters returnedText root).any fun p => '\r' ∈ row p) = true := by decide +kernel
    obtain ⟨root, hroot, hcheck⟩ := exists_root_of_any hcheck
    obtain ⟨p, hp, hreturn⟩ := List.any_eq_true.1 hcheck
    exact ⟨root, p, hroot, hp, by simpa using hreturn⟩

end Page

end ChartValues
