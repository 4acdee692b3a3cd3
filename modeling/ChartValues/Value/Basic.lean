import ChartValues.Decimal.Notation

set_option autoImplicit false

/-!
# Values

The tree that a values file stands for: scalars, lists, and mappings that keep the order in which
their entries were written. Any value may carry a tag.

## Main definitions

* `Value` — the tree of a values file.
* `Value.same` — equality of keys: the order of a mapping's entries does not matter.
* `Value.find?` — the value that a list of entries holds for a key.
* `Value.entries?` — the entries of a mapping, looking through tags.
* `Value.resolve?` — the value at a path of text keys.

## Main results

* `Value.resolve?_append` — a path is followed part by part.
-/

namespace ChartValues

/-- The tree of a values file. -/
inductive Value where
  | null
  | bool (b : Bool)
  | int (n : Int)
  | float (x : Binary64)
  | text (t : Text)
  | list (items : List Value)
  | map (entries : List (Value × Value))
  | tagged (name : Text) (content : Value)
deriving Repr

namespace Value

/-! ## Equality of keys -/

mutual

/-- Whether two values are the same key. The order of the entries of a mapping does not matter,
the two floating-point zeros are the same, and so is not-a-number with itself. -/
def same : Value → Value → Bool
  | .null, .null => true
  | .bool a, .bool b => a == b
  | .int m, .int n => m == n
  | .float x, .float y => x.same y
  | .text t, .text u => t == u
  | .list xs, .list ys => sameItems xs ys
  | .map es, .map fs => es.length == fs.length && heldBy es fs
  | .tagged s v, .tagged t w => s == t && same v w
  | _, _ => false

/-- Whether two lists hold the same values in the same order. -/
def sameItems : List Value → List Value → Bool
  | [], [] => true
  | x :: xs, y :: ys => same x y && sameItems xs ys
  | _, _ => false

/-- Whether the second list of entries holds every entry of the first. -/
def heldBy : List (Value × Value) → List (Value × Value) → Bool
  | [], _ => true
  | (k, v) :: es, fs => fs.any (fun f => same k f.1 && same v f.2) && heldBy es fs

end

/-! ## Entries and paths -/

/-- The value of the first entry whose key is the same. -/
def find? (entries : List (Value × Value)) (key : Value) : Option Value :=
  (entries.find? fun e => same e.1 key).map Prod.snd

/-- The entries of a mapping, looking through tags. -/
def entries? : Value → Option (List (Value × Value))
  | .map es => some es
  | .tagged _ v => v.entries?
  | _ => none

/-- Whether the value is null, looking through tags. -/
def isNull : Value → Bool
  | .null => true
  | .tagged _ v => v.isNull
  | _ => false

/-- The value that a mapping holds for a text key. -/
def child? (v : Value) (key : Text) : Option Value :=
  v.entries?.bind fun es => find? es (.text key)

/-- The value at a path of text keys. -/
def resolve? (v : Value) : List Text → Option Value
  | [] => some v
  | key :: path => (v.child? key).bind fun w => w.resolve? path

/-! ## Lemmas -/

/-- A path is followed part by part. -/
theorem resolve?_append (v : Value) (p q : List Text) :
    v.resolve? (p ++ q) = (v.resolve? p).bind fun w => w.resolve? q := by
  induction p generalizing v with
  | nil => rfl
  | cons key p ih =>
    simp only [List.cons_append, resolve?, Option.bind_assoc]
    congr
    funext w
    exact ih w

end Value

end ChartValues
