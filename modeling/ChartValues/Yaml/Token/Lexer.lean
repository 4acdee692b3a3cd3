import ChartValues.Yaml.Token.Block
import ChartValues.Yaml.Token.Name
import ChartValues.Yaml.Token.Plain
import ChartValues.Yaml.Token.Quoted

set_option autoImplicit false

/-!
# From characters to tokens

A stream is read token by token. Two things are only known afterwards: that a token was a key, once
the colon after it is found, and that a collection ended, once a line is indented less. So the
lexer remembers for every open flow collection the last token that may still turn out to be a key,
and keeps a stack of the columns of the open block collections.

## Main definitions

* `Yaml.Lexer` — the state of reading.
* `Yaml.Lexer.step?` — reads one more token.
* `Yaml.tokens` — the tokens of a stream.
-/

namespace ChartValues

namespace Yaml

/-! ## State -/

/-- A token that may turn out to be a key: its number, its place, and whether the stream is
malformed if it does not. -/
structure KeyCandidate where
  token : Nat
  mark : Mark
  required : Bool

/-- A candidate is stale if it cannot be a key any more: a key fits on one line and has at most
1024 bytes. -/
def KeyCandidate.isStale (now : Mark) (k : KeyCandidate) : Bool :=
  k.mark.line < now.line || k.mark.offset + 1024 < now.offset

/-- The state of reading tokens. -/
structure Lexer where
  cursor : Cursor
  /-- The tokens so far, newest first. -/
  tokens : List Token
  /-- The columns of the open block collections, innermost first. -/
  indents : List Nat
  /-- The candidate of the innermost collection. -/
  candidate : Option KeyCandidate
  /-- The candidates around the open flow collections, innermost first. -/
  outer : List (Option KeyCandidate)
  /-- Whether a key may begin here. -/
  keyAllowed : Bool

namespace Lexer

/-- The state before the first token. -/
def start (t : Text) : Lexer := ⟨.start t, [], [], none, [], true⟩

/-- Whether a flow collection is open. -/
def inFlow (x : Lexer) : Bool := !x.outer.isEmpty

/-- The column that has been reached. -/
def column (x : Lexer) : Nat := x.cursor.mark.column

/-- The state with one more token. -/
def push (x : Lexer) (t : Token) : Lexer := { x with tokens := t :: x.tokens }

/-- The state with a token in front of the token of the given number. -/
def insert (x : Lexer) (number : Nat) (t : Token) : Lexer :=
  let later := x.tokens.length - number
  { x with tokens := x.tokens.take later ++ t :: x.tokens.drop later }

/-- The state after the next characters. -/
def skip (x : Lexer) (n : Nat) : Lexer := { x with cursor := x.cursor.advanceBy n }

/-! ## Key candidates -/

/-- A candidate that can no longer be a key is given up, unless a key is required there. -/
def dropStale? (now : Mark) : Option KeyCandidate → Option (Option KeyCandidate)
  | none => some none
  | some k => if k.isStale now then (if k.required then none else some none) else some (some k)

/-- Gives up all candidates that can no longer be keys. -/
def dropAllStale? (x : Lexer) : Option Lexer := do
  let candidate ← dropStale? x.cursor.mark x.candidate
  let outer ← x.outer.mapM (dropStale? x.cursor.mark)
  return { x with candidate, outer }

/-- Gives up the innermost candidate, unless a key is required there. -/
def dropCandidate? (x : Lexer) : Option Lexer :=
  match x.candidate with
  | none => some x
  | some k => if k.required then none else some { x with candidate := none }

/-- Makes the next token a candidate if a key may begin here. A key is required where a line is
indented like the entries of the block collection that it belongs to. -/
def saveCandidate? (x : Lexer) : Option Lexer :=
  if x.keyAllowed then do
    let x ← x.dropCandidate?
    let required := !x.inFlow && x.indents.head? == some x.column
    return { x with candidate := some ⟨x.tokens.length, x.cursor.mark, required⟩ }
  else some x

/-! ## Indentation -/

/-- Opens a block collection at a column if it is deeper than the open ones. Its first token goes
in front of the token of the given number. -/
def openBlock (x : Lexer) (column number : Nat) (t : Token) : Lexer :=
  if !x.inFlow && x.indents.head?.all (· < column) then
    { x.insert number t with indents := column :: x.indents }
  else x

/-- Closes the block collections whose column has a property, from the innermost on. -/
def closeBlocks (x : Lexer) (p : Nat → Bool) : Lexer :=
  if x.inFlow then x
  else
    let closed := (x.indents.takeWhile p).map fun _ => Token.blockEnd
    { x with tokens := closed ++ x.tokens, indents := x.indents.dropWhile p }

/-- Closes the block collections that are deeper than the column that has been reached. -/
def closeDeeper (x : Lexer) : Lexer := x.closeBlocks (x.column < ·)

/-- Closes all block collections. -/
def closeAll (x : Lexer) : Lexer := x.closeBlocks fun _ => true

/-! ## Gaps -/

/-- Passes over blanks, comments and line breaks. Outside of flow collections a key may begin on
a new line, and where one may begin a tab is no blank. A byte order mark may begin a line; it is
passed over, but counts as a column. -/
def skipGap (inFlow keyAllowed comment : Bool) (m : Mark) : Text → Bool × Cursor
  | [] => (keyAllowed, ⟨m, []⟩)
  | c :: rest =>
    if isBreak c then skipGap inFlow (keyAllowed || !inFlow) false (m.next c) rest
    else if comment || c == ' ' || (c == '\t' && (inFlow || !keyAllowed))
        || (c == '\ufeff' && m.column == 0) then
      skipGap inFlow keyAllowed comment (m.next c) rest
    else if c = '#' then skipGap inFlow keyAllowed true (m.next c) rest
    else (keyAllowed, ⟨m, c :: rest⟩)

/-- Passes over what separates tokens. -/
def toNextToken (x : Lexer) : Lexer :=
  let (keyAllowed, cursor) := skipGap x.inFlow x.keyAllowed false x.cursor.mark x.cursor.rest
  { x with keyAllowed, cursor }

/-! ## Tokens -/

/-- The end of the stream. -/
def streamEnd? (x : Lexer) : Option Lexer := do
  let m := x.cursor.mark
  let x := { x with cursor.mark := if m.column = 0 then m else .ofLine (m.line + 1) }
  let x ← x.closeAll.dropCandidate?
  return { x.push .streamEnd with keyAllowed := false }

/-- A directive or a document marker, which closes all blocks. -/
def outside? (x : Lexer) (t : Token) (cursor : Cursor) : Option Lexer := do
  let x ← x.closeAll.dropCandidate?
  return { x.push t with keyAllowed := false, cursor }

/-- The beginning of a flow collection. -/
def openFlow? (x : Lexer) (t : Token) : Option Lexer := do
  let x ← x.saveCandidate?
  return { (x.skip 1).push t with
    candidate := none, outer := x.candidate :: x.outer, keyAllowed := true }

/-- The end of a flow collection. -/
def closeFlow? (x : Lexer) (t : Token) : Option Lexer := do
  let x ← x.dropCandidate?
  let x := { (x.skip 1).push t with keyAllowed := false }
  match x.outer with
  | [] => return x
  | k :: outer => return { x with candidate := k, outer }

/-- A comma between the entries of a flow collection. -/
def flowEntry? (x : Lexer) : Option Lexer := do
  let x ← x.dropCandidate?
  return { (x.skip 1).push .flowEntry with keyAllowed := true }

/-- The beginning of a list entry or of an explicit key. -/
def entry? (x : Lexer) (start t : Token) (keyAllowed : Bool) : Option Lexer := do
  if !x.inFlow && !x.keyAllowed then none
  let x := x.openBlock x.column x.tokens.length start
  let x ← x.dropCandidate?
  return { (x.skip 1).push t with keyAllowed }

/-- A colon: the candidate becomes a key, or a key is missing. -/
def value? (x : Lexer) : Option Lexer :=
  match x.candidate with
  | some k =>
    let x := (x.insert k.token .key).openBlock k.mark.column k.token .blockMappingStart
    some { (x.skip 1).push .value with candidate := none, keyAllowed := false }
  | none =>
    if !x.inFlow && !x.keyAllowed then none
    else
      let x := x.openBlock x.column x.tokens.length .blockMappingStart
      some { (x.skip 1).push .value with keyAllowed := !x.inFlow }

/-- A token that may be a key: an anchor, an alias, a tag or a scalar on one line. -/
def node? (x : Lexer) (t : Token) (cursor : Cursor) (keyAllowed : Bool) : Option Lexer := do
  let x ← x.saveCandidate?
  return { x.push t with keyAllowed, cursor }

/-- A block scalar, which is never a key. -/
def block? (x : Lexer) (literal : Bool) : Option Lexer := do
  let x ← x.dropCandidate?
  let (content, cursor) ← blockScalar? literal x.indents.head? (x.cursor.advanceBy 1)
  return { x.push (.scalar content false) with keyAllowed := true, cursor }

/-- Whether a plain scalar may begin with the character, given what follows it. -/
def mayBeginPlain (inFlow : Bool) (c : Char) (rest : Text) : Bool :=
  !(isSpace c || isBreak c || "-?:,[]\x7b\x7d#&*!|>'\"%@\x60".toList.elem c)
    || (c == '-' && !rest.head?.any isSpace)
    || (!inFlow && (c == '?' || c == ':') && !endsWord rest)

/-- A token that begins with the given character, after whatever separates tokens. -/
def token? (x : Lexer) (c : Char) (rest : Text) : Option Lexer :=
  let after := x.cursor.advanceBy 1
  if x.column = 0 ∧ c = '%' then do
    let (t, rest) ← directive? rest
    x.outside? t (after.advanceTo (← lineTail? rest)).advance
  else if x.column = 0 ∧ beginsMarker (c :: rest) then
    x.outside? (if c = '-' then .documentStart else .documentEnd) (x.cursor.advanceBy 3)
  else if c = '[' then x.openFlow? .flowSequenceStart
  else if c = '\x7b' then x.openFlow? .flowMappingStart
  else if c = ']' then x.closeFlow? .flowSequenceEnd
  else if c = '\x7d' then x.closeFlow? .flowMappingEnd
  else if c = ',' then x.flowEntry?
  else if c = '-' ∧ endsWord rest then x.entry? .blockSequenceStart .blockEntry true
  else if c = '?' ∧ (x.inFlow ∨ endsWord rest) then
    x.entry? .blockMappingStart .key (!x.inFlow)
  else if c = ':' ∧ (x.inFlow ∨ endsWord rest) then x.value?
  else if c = '*' then do
    let (name, rest) ← anchorName? rest
    x.node? (.alias name) (after.advanceTo rest) false
  else if c = '&' then do
    let (name, rest) ← anchorName? rest
    x.node? (.anchor name) (after.advanceTo rest) false
  else if c = '!' then do
    let (t, rest) ← tag? x.inFlow rest
    x.node? t (after.advanceTo rest) false
  else if c = '|' ∧ !x.inFlow then x.block? true
  else if c = '>' ∧ !x.inFlow then x.block? false
  else if c = '\'' then do
    let (content, cursor) ← singleQuoted? after
    x.node? (.scalar content false) cursor false
  else if c = '"' then do
    let (content, cursor) ← doubleQuoted? after
    x.node? (.scalar content false) cursor false
  else if mayBeginPlain x.inFlow c rest then do
    let s ← plain? x.inFlow (x.indents.head?.elim 0 (· + 1)) x.cursor
    x.node? (.scalar s.content true) s.cursor s.gap.hasBreak
  else none

/-- Reads one more token. There is none if the stream is malformed. -/
def step? (x : Lexer) : Option Lexer := do
  let x ← x.toNextToken.dropAllStale?
  let x := x.closeDeeper
  let x ←
    match x.cursor.rest with
    | [] => x.streamEnd?
    | c :: rest => x.token? c rest
  x.dropAllStale?

/-! ## The whole stream -/

/-- The tokens that do not wait for a key indicator in front of them. -/
def settled (x : Lexer) : List Token :=
  let waiting := (x.candidate :: x.outer).filterMap fun k => k.map KeyCandidate.token
  x.tokens.reverse.take (waiting.foldl min x.tokens.length)

/-- Reads at most the given number of tokens, each of which has to be followed by `ahead` more
characters. Where the stream is malformed, the tokens end. -/
def run (ahead : Nat) : Nat → Lexer → List Token
  | 0, x => x.settled
  | n + 1, x =>
    if x.tokens.head? = some .streamEnd then x.tokens.reverse
    else
      match x.step? with
      | none => x.settled
      | some y => if (y.cursor.rest.take ahead).length < ahead then x.settled else run ahead n y

end Lexer

/-- How far a token may have to be looked beyond. -/
def lookahead : Nat := 4

/-- The tokens of a stream. They end with the end of the stream exactly if all of it could be read:
every step but the last passes over a character. Where a part of the text cannot be read, the
tokens end before it. -/
def tokens (t : Text) : List Token :=
  let (part, whole) := readable t
  Lexer.run (if whole then 0 else lookahead) (part.length + 2) (.start part)

end Yaml

end ChartValues
