import ChartValues.Line.Comment

set_option autoImplicit false

/-!
# Comment blocks

The comments above a key describe it and give examples of its value. A comment that begins with
`Example:` is an example; a comment that has ` Example:` farther on describes up to there and gives
an example from there on. Bare comments and rules say nothing.

## Main definitions

* `CommentBlock` — a description and examples.
* `CommentBlock.ofLine` — what a single line adds.
* `CommentBlock.ofLines` — what the lines of a block say together.
-/

namespace ChartValues

/-- What the comments above a key say. -/
structure CommentBlock where
  description : Text
  examples : List Text
deriving DecidableEq, Repr

namespace CommentBlock

/-- What introduces an example. -/
def exampleMarker : Text := "Example:".toList

/-- The description and the example that a line holds, each of which may be missing. -/
def ofLine (line : Text) : Option Text × Option Text :=
  let content := Line.content line
  match content.after? exampleMarker with
  | some sample => (none, some (Text.trim sample))
  | none =>
    if content.isEmpty || content.startsWith Line.rule then (none, none)
    else
      match Text.cut? (' ' :: exampleMarker) content with
      | some (before, sample) =>
        (if (Text.trim before).isEmpty then none else some (Text.trim before),
          some (Text.trim sample))
      | none => (some content, none)

/-- What the lines of a block say together. Descriptions are joined by single spaces. -/
def ofLines (lines : List Text) : CommentBlock where
  description := Text.joinWith [' '] (lines.filterMap fun line => (ofLine line).1)
  examples := lines.filterMap fun line => (ofLine line).2

end CommentBlock

end ChartValues
