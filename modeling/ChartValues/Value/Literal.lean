import ChartValues.Value.Basic

set_option autoImplicit false

/-!
# Writing values

Every value has a kind, which names its type in the documentation, and a flow literal, which
writes it on one line. The default of a parameter is shown as a code span around the literal; only
a mapping that has entries is replaced by a referral to the values file.

## Main definitions

* `Kind` — the types that the documentation tells apart.
* `Value.kind` — the kind of a value.
* `Value.literal` — a value on one line.
* `Value.shown` — the text of the default column.

## Main results

* `Value.literal_list`, `Value.literal_map` — a collection is written item by item.
-/

namespace ChartValues

/-- The types that the documentation tells apart. -/
inductive Kind where
  | bool
  | int
  | string
  | list
  | object
  | mixed
deriving DecidableEq, Repr

/-- The name of a kind. -/
def Kind.name : Kind → Text
  | .bool => "bool".toList
  | .int => "int".toList
  | .string => "string".toList
  | .list => "list".toList
  | .object => "object".toList
  | .mixed => "mixed".toList

namespace Value

/-! ## Kinds -/

/-- The kind of a value. Floating-point numbers, null and tagged values are `mixed`. -/
def kind : Value → Kind
  | .bool _ => .bool
  | .int _ => .int
  | .text _ => .string
  | .list _ => .list
  | .map _ => .object
  | .null | .float _ | .tagged _ _ => .mixed

/-! ## Literals -/

mutual

/-- A value on one line. Texts stand between quotes, also where they hold quotes themselves. -/
def literal : Value → Text
  | .null => "null".toList
  | .bool b => if b then "true".toList else "false".toList
  | .int n => Text.ofInt n
  | .float x => x.write
  | .text t => '"' :: t ++ ['"']
  | .list items => '[' :: Text.joinWith ", ".toList (itemLiterals items) ++ [']']
  | .map entries => '\x7b' :: Text.joinWith ", ".toList (entryLiterals entries) ++ ['\x7d']
  | .tagged name content => '!' :: name ++ ' ' :: literal content

/-- The items of a list, one by one. -/
def itemLiterals : List Value → List Text
  | [] => []
  | v :: items => literal v :: itemLiterals items

/-- The entries of a mapping, one by one. A key that is a text stands without quotes. -/
def entryLiterals : List (Value × Value) → List Text
  | [] => []
  | (k, v) :: entries =>
    ((match k with
      | .text t => t
      | k => literal k) ++ ':' :: ' ' :: literal v) :: entryLiterals entries

end

/-- The text before the colon of an entry. -/
def keyLiteral : Value → Text
  | .text t => t
  | k => k.literal

theorem itemLiterals_eq_map (items : List Value) : itemLiterals items = items.map literal := by
  induction items with
  | nil => rfl
  | cons v items ih => simp [itemLiterals, ih]

theorem entryLiterals_eq_map (entries : List (Value × Value)) :
    entryLiterals entries = entries.map fun e => keyLiteral e.1 ++ ':' :: ' ' :: literal e.2 := by
  induction entries with
  | nil => rfl
  | cons e entries ih =>
    obtain ⟨k, v⟩ := e
    cases k <;> simp [entryLiterals, keyLiteral, ih]

/-- A list is written item by item. -/
theorem literal_list (items : List Value) :
    literal (.list items) =
      '[' :: Text.joinWith ", ".toList (items.map literal) ++ [']'] := by
  rw [literal, itemLiterals_eq_map]

/-- A mapping is written entry by entry. -/
theorem literal_map (entries : List (Value × Value)) :
    literal (.map entries) =
      '\x7b' :: Text.joinWith ", ".toList
        (entries.map fun e => keyLiteral e.1 ++ ':' :: ' ' :: literal e.2) ++ ['\x7d'] := by
  rw [literal, entryLiterals_eq_map]

/-! ## The default column -/

/-- What the default column shows for a mapping that has entries. -/
def referral : Text := "See values.yaml".toList

/-- The text of the default column. -/
def shown : Value → Text
  | .map (_ :: _) => referral
  | v => '\x60' :: v.literal ++ ['\x60']

end Value

end ChartValues
