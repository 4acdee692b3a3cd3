import ChartValues.Value.Basic
import ChartValues.Yaml.Event

set_option autoImplicit false

/-!
# Scalars

What the text of a scalar stands for. A plain scalar is tried as null, as a truth value, as an
integer and as a floating-point number, in this order, and is a text otherwise. A tag of the
standard may ask for one of these; then the text has to fit.

## Main definitions

* `Yaml.integer?` — the integer that a text writes.
* `Yaml.float?` — the floating-point number that a text writes.
* `Yaml.plainValue?` — what a plain scalar stands for.
* `Yaml.scalarValue?` — what a scalar with a tag stands for.
-/

namespace ChartValues

namespace Yaml

/-! ## Null and truth values -/

/-- Whether a text writes null. -/
def isNullText (t : Text) : Bool :=
  ["~".toList, "null".toList, "Null".toList, "NULL".toList].elem t

/-- The truth value that a text writes. -/
def bool? (t : Text) : Option Bool :=
  if ["true".toList, "True".toList, "TRUE".toList].elem t then some true
  else if ["false".toList, "False".toList, "FALSE".toList].elem t then some false
  else none

/-! ## Integers -/

/-- The natural number that digits of a base up to sixteen write. -/
def natOfDigits? (base : Nat) (t : Text) : Option Nat :=
  if t = [] then none
  else
    t.foldl (fun n? c => do
      let n ← n?
      let d ← hexValue? c
      if d < base then some (base * n + d) else none) (some 0)

/-- The natural number after a sign: digits of the base that the beginning announces. -/
def magnitude? (t : Text) : Option Nat :=
  match Text.after? t "0x".toList, Text.after? t "0o".toList, Text.after? t "0b".toList with
  | some digits, _, _ => natOfDigits? 16 digits
  | _, some digits, _ => natOfDigits? 8 digits
  | _, _, some digits => natOfDigits? 2 digits
  | none, none, none => natOfDigits? 10 t

/-- The text without a sign. -/
def withoutSign : Text → Text
  | '+' :: t => t
  | '-' :: t => t
  | t => t

/-- Whether a text is a leading zero and more digits, after an optional sign. -/
def isPaddedDigits (t : Text) : Bool :=
  match withoutSign t with
  | '0' :: d :: digits => (d :: digits).all Char.isDigit
  | _ => false

/-- Whether a text begins with a minus sign. -/
def isNegative (t : Text) : Bool := t.head? == some '-'

/-- The integer that a text writes: an optional sign and decimal, hexadecimal, octal or binary
digits. Decimal digits have no leading zero. -/
def integer? (t : Text) : Option Int :=
  if isPaddedDigits t then none
  else (magnitude? (withoutSign t)).map fun n => if isNegative t then -(n : Int) else n

/-- Whether an integer has 64 bits, signed or unsigned. -/
def isWord (n : Int) : Bool := -Int.pow 2 63 ≤ n && n < Int.pow 2 64

/-- Whether an integer has 128 bits, signed or unsigned. -/
def isDoubleWord (n : Int) : Bool := -Int.pow 2 127 ≤ n && n < Int.pow 2 128

/-! ## Floating-point numbers -/

/-- An exponent: an optional sign and digits. -/
def exponent? (t : Text) : Option Int :=
  (natOfDigits? 10 (withoutSign t)).map fun n => if isNegative t then -(n : Int) else n

/-- The number that decimal digits with an optional point and an optional exponent write. There is
at least one digit before or after the point. -/
def decimal? (negative : Bool) (t : Text) : Option Binary64 :=
  let whole := t.takeWhile Char.isDigit
  let rest := t.dropWhile Char.isDigit
  let (fraction, rest) :=
    match rest with
    | '.' :: rest => (rest.takeWhile Char.isDigit, rest.dropWhile Char.isDigit)
    | rest => ([], rest)
  let exponent :=
    match rest with
    | [] => some 0
    | 'e' :: rest => exponent? rest
    | 'E' :: rest => exponent? rest
    | _ => none
  match natOfDigits? 10 (whole ++ fraction), exponent with
  | some digits, some e => some (.ofDecimal negative digits (e - fraction.length))
  | _, _ => none

/-- The floating-point number that a text writes, after an optional sign. A decimal beyond the
largest number is none. -/
def float? (t : Text) : Option Binary64 :=
  if [".nan".toList, ".NaN".toList, ".NAN".toList].elem t then some .nan
  else if [".inf".toList, ".Inf".toList, ".INF".toList].elem (withoutSign t) then
    some (.infinite (isNegative t))
  else (decimal? (isNegative t) (withoutSign t)).filter Binary64.isFinite

/-! ## Values -/

/-- The value of an integer, if it is one of the integers that values can hold. -/
def integerValue? (n : Int) : Option Value := if isWord n then some (.int n) else none

/-- What a plain scalar stands for. Integers that values cannot hold are refused, unless they have
more than 128 bits; those are tried as floating-point numbers. -/
def plainValue? (t : Text) : Option Value :=
  if t = [] ∨ isNullText t then some .null
  else
    match bool? t with
    | some b => some (.bool b)
    | none =>
      match (integer? t).filter isDoubleWord with
      | some n => integerValue? n
      | none =>
        match if isPaddedDigits t then none else float? t with
        | some x => some (.float x)
        | none => some (.text t)

/-- The tag of the standard with the given name. -/
def standardTag (name : Text) : Tag := asciiBytes ("tag:yaml.org,2002:".toList ++ name)

/-- Whether a tag begins with the tag indicator. -/
def isLocalTag (tag : Tag) : Bool := tag.head? == some 0x21

/-- What a scalar with a tag stands for. The four tags of simple values convert a scalar of any
style, or refuse it. Other tags of that kind make it a text. Tags that begin with the indicator
leave it as it is. -/
def scalarValue? (tag : Option Tag) (content : Text) (plain : Bool) : Option Value :=
  match tag with
  | none => if plain then plainValue? content else some (.text content)
  | some tag =>
    if tag = standardTag "bool".toList then (bool? content).map .bool
    else if tag = standardTag "int".toList then (integer? content).bind integerValue?
    else if tag = standardTag "float".toList then (float? content).map .float
    else if tag = standardTag "null".toList then if isNullText content then some .null else none
    else if isLocalTag tag && plain then plainValue? content
    else some (.text content)

end Yaml

end ChartValues
