import ChartValues.Value.Basic

set_option autoImplicit false

/-!
# Merge keys

A mapping may take over the entries of others under the text key `<<`. The key is removed, the last
entry moves into its place, and the entries of the merged mappings whose keys are absent follow at
the end. What is taken over may itself hold merge keys deeper inside, which are treated in turn; a
merge key that is taken over is an entry like any other.

## Main definitions

* `Yaml.MergeError` — what a merge key may not hold.
* `Yaml.takeMergeKey` — the entries of a mapping after its own merge.
* `Yaml.merge` — a value after all merges.
-/

namespace ChartValues

namespace Yaml

/-- What a merge key may not hold. -/
inductive MergeError where
  | scalar
  | scalarItem
  | listItem
  | tagged
deriving DecidableEq, Repr

/-- The key that merges. -/
def mergeKey : Value := .text ['<', '<']

/-! ## One mapping -/

/-- The entries without the one at the given position, whose place the last one takes. -/
def swapRemove (entries : List (Value × Value)) (position : Nat) : List (Value × Value) :=
  match entries.getLast? with
  | none => []
  | some last => (entries.set position last).dropLast

/-- The entries, followed by those of the others whose keys are absent. -/
def addAbsent (entries others : List (Value × Value)) : List (Value × Value) :=
  others.foldl (fun es e => if (Value.find? es e.1).isSome then es else es ++ [e]) entries

/-- The entries, followed by those of the mappings in a list. -/
def addItems (entries : List (Value × Value)) :
    List Value → Except MergeError (List (Value × Value))
  | [] => .ok entries
  | .map others :: items => addItems (addAbsent entries others) items
  | .list _ :: _ => .error .listItem
  | .tagged _ _ :: _ => .error .tagged
  | _ :: _ => .error .scalarItem

/-- The entries of a mapping after its own merge. -/
def takeMergeKey (entries : List (Value × Value)) : Except MergeError (List (Value × Value)) :=
  match entries.findIdx? fun e => e.1.same mergeKey with
  | none => .ok entries
  | some position =>
    let others := swapRemove entries position
    match entries[position]?.map Prod.snd with
    | none => .ok entries
    | some (.map merged) => .ok (addAbsent others merged)
    | some (.list items) => addItems others items
    | some (.tagged _ _) => .error .tagged
    | some _ => .error .scalar

/-! ## All mappings -/

mutual

/-- How deep a value is nested. -/
def depth : Value → Nat
  | .list items => itemsDepth items + 1
  | .map entries => entriesDepth entries + 1
  | .tagged _ v => depth v + 1
  | _ => 0

/-- How deep the items of a list are nested. -/
def itemsDepth : List Value → Nat
  | [] => 0
  | v :: items => max (depth v) (itemsDepth items)

/-- How deep the values of entries are nested. Keys do not count. -/
def entriesDepth : List (Value × Value) → Nat
  | [] => 0
  | (_, v) :: entries => max (depth v) (entriesDepth entries)

end

/-- The values after all merges, from the last to the first. -/
def mergeItems (merge : Value → Except MergeError Value) :
    List Value → Except MergeError (List Value)
  | [] => .ok []
  | v :: items => do
    let items ← mergeItems merge items
    let v ← merge v
    return v :: items

/-- The value after all merges at most the given number of levels deep. The values of a mapping
come after its own merge, and of several values the last comes first. -/
def mergeDepth : Nat → Value → Except MergeError Value
  | 0, v => .ok v
  | n + 1, v =>
    match v with
    | .list items => (mergeItems (mergeDepth n) items).map .list
    | .map entries => do
      let entries ← takeMergeKey entries
      let values ← mergeItems (mergeDepth n) (entries.map Prod.snd)
      return .map ((entries.map Prod.fst).zip values)
    | .tagged name v => (mergeDepth n v).map (.tagged name)
    | v => .ok v

/-- The value after all merges. Merging takes values from inside a mapping one level up, so the
depth of the value bounds the levels. -/
def merge (v : Value) : Except MergeError Value := mergeDepth (depth v) v

end Yaml

end ChartValues
