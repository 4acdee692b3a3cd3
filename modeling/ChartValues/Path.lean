import ChartValues.Text.Basic

set_option autoImplicit false

/-!
# Paths

A path is a text in which slashes separate segments. Empty segments and segments that are a single
dot lead nowhere, except for a dot at the very beginning. A path keeps its spelling: joining and
going up never change what stands before.

## Main definitions

* `Path.segments` — the segments between slashes.
* `Path.join` — a path below another.
* `Path.parent?` — the path one level up.
* `Path.ancestors` — a path and all that are above it.

## Main results

* `Path.segments_ne_nil` — every path has a segment.
-/

namespace ChartValues

namespace Path

/-- The segments between slashes. -/
def segments : Text → List Text
  | [] => [[]]
  | c :: t =>
    if c = '/' then [] :: segments t
    else
      match segments t with
      | [] => [[c]]
      | s :: rest => (c :: s) :: rest

/-- Every path has a segment. -/
theorem segments_ne_nil (path : Text) : segments path ≠ [] := by
  cases path with
  | nil => simp [segments]
  | cons c t =>
    simp only [segments]
    split
    · simp
    · split <;> simp

/-- The path of an entry below another path. -/
def join (path entry : Text) : Text :=
  if path.isEmpty || path.getLast? == some '/' then path ++ entry else path ++ '/' :: entry

/-! ## Going up -/

/-- Whether a segment leads nowhere. -/
def isIdle (segment : Text) : Bool := segment.isEmpty || segment == ['.']

/-- The segments of a path without idle segments at the end, of which the first is kept. Segments
are given from the last to the first. -/
def settle : List Text → List Text
  | [] => []
  | [s] => [s]
  | s :: t :: rest => if isIdle s then settle (t :: rest) else s :: t :: rest

/-- The path with the given segments, from the last to the first. What is left of a path from the
top is the top. -/
def ofReversed (segments : List Text) : Text :=
  match settle segments with
  | [[]] => ['/']
  | settled => Text.joinWith ['/'] settled.reverse

/-- The paths above the one with the given segments, which come from the last to the first. Above
a single segment is the empty path, which stands for the working directory. -/
def above : List Text → List Text
  | [] => []
  | [s] => if s.isEmpty then [] else [[]]
  | s :: t :: rest =>
    if isIdle s then above (t :: rest) else ofReversed (t :: rest) :: above (t :: rest)

/-- A path and all that are above it, from the nearest to the farthest. -/
def ancestors (path : Text) : List Text := path :: above (segments path).reverse

/-- The path one level up. There is none above the top and above the working directory. -/
def parent? (path : Text) : Option Text := (above (segments path).reverse).head?

end Path

end ChartValues
