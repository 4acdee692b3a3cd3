import ChartValues.Yaml.Stream

set_option autoImplicit false

/-!
# Line folding

Plain and quoted scalars may go on over several lines. What stands between two of their words is a
gap: blanks of one line are kept, a single line break becomes a space, and of several line breaks
the first is dropped. The two Unicode separators are never replaced.

## Main definitions

* `Yaml.Gap` — what has been read since the last word.
* `Yaml.Gap.text` — what a gap contributes to the scalar.
-/

namespace ChartValues

namespace Yaml

/-- What has been read since the last word of a scalar. -/
inductive Gap where
  /-- Spaces and tabs of one line. -/
  | blanks (content : Text)
  /-- Line breaks: the first, if it may be replaced by a space, and those after it. -/
  | breaks (first : Option Char) (more : Text)

namespace Gap

/-- No gap. -/
def none : Gap := .blanks []

/-- Whether the gap is empty. -/
def isNone : Gap → Bool
  | .blanks [] => true
  | _ => false

/-- Whether the gap holds a line break. -/
def hasBreak : Gap → Bool
  | .blanks _ => false
  | .breaks _ _ => true

/-- The gap and one more space or tab. Blanks around line breaks do not count. -/
def addBlank (c : Char) : Gap → Gap
  | .blanks content => .blanks (content ++ [c])
  | g => g

/-- The gap and one more line break. -/
def addBreak (c : Char) : Gap → Gap
  | .blanks _ => .breaks (some c) []
  | .breaks first more => .breaks first (more ++ [c])

/-- What a gap contributes to the scalar. -/
def text : Gap → Text
  | .blanks content => content
  | .breaks Option.none more => more
  | .breaks (some c) more =>
    if c = '\n' then (if more = [] then [' '] else more) else c :: more

end Gap

end Yaml

end ChartValues
