import ChartValues.Path

set_option autoImplicit false

/-!
# The host

What the program needs of the machine that it runs on: to look at files and directories, to write
them, and to print. A program over `Host` runs on the machine itself and on a model of it, so that
what is proved of the model is about the same program.

## Main definitions

* `HostError` — why an operation on a file fails.
* `Host` — the operations of the machine.
* `Host.readText` — the text of a file.
* `Host.createDirectories` — creates a directory and those above it.
-/

namespace ChartValues

/-- Why an operation on a file fails. -/
inductive HostError where
  | notFound
  | alreadyExists
  | notDirectory
  | isDirectory
  | notText
  | other (message : Text)
deriving DecidableEq, Repr

/-- The words for an error. -/
def HostError.message : HostError → Text
  | .notFound => "No such file or directory (os error 2)".toList
  | .alreadyExists => "File exists (os error 17)".toList
  | .notDirectory => "Not a directory (os error 20)".toList
  | .isDirectory => "Is a directory (os error 21)".toList
  | .notText => "stream did not contain valid UTF-8".toList
  | .other message => message

/-- What a path leads to. -/
inductive EntryKind where
  | file
  | directory
deriving DecidableEq, Repr

/-- The operations of the machine that the program runs on. -/
class Host (m : Type → Type) where
  /-- What the path leads to, if it leads anywhere. -/
  entryKind? : Text → m (Option EntryKind)
  readBytes : Text → m (Except HostError ByteArray)
  /-- Writes a file, in place of the one that may be there. -/
  writeBytes : Text → ByteArray → m (Except HostError Unit)
  /-- Creates a single directory. -/
  createDirectory : Text → m (Except HostError Unit)
  print : Text → m Unit

namespace Host

variable {m : Type → Type} [Monad m] [Host m]

/-! ## Looking -/

/-- Whether the path leads anywhere. -/
def pathExists (path : Text) : m Bool := return (← entryKind? path).isSome

/-- Whether the path leads to a directory. -/
def isDirectory (path : Text) : m Bool := return (← entryKind? path) = some .directory

/-- Whether the path leads to a file. -/
def isFile (path : Text) : m Bool := return (← entryKind? path) = some .file

/-! ## Texts -/

/-- The text of a file. -/
def readText (path : Text) : m (Except HostError Text) := do
  match ← readBytes path with
  | .error e => return .error e
  | .ok bytes =>
    match bytes.utf8Decode? with
    | some chars => return .ok chars.toList
    | none => return .error .notText

/-- Writes a text to a file. -/
def writeText (path text : Text) : m (Except HostError Unit) :=
  writeBytes path (String.ofList text).toUTF8

/-- Prints a line. -/
def printLine (line : Text) : m Unit := print (line ++ ['\n'])

/-! ## Directories -/

/-- Creates a directory, which may be there already. -/
def ensureDirectory (path : Text) : m (Except HostError Unit) := do
  match ← createDirectory path with
  | .ok () => return .ok ()
  | .error e => return if ← isDirectory path then .ok () else .error e

/-- Creates the first of some directories. Where it has no place to stand, those that follow, each
one above the one before, are created first. -/
def createFrom : List Text → m (Except HostError Unit)
  | [] => return .error .notFound
  | path :: above =>
    if path.isEmpty then return .ok ()
    else do
      match ← ensureDirectory path with
      | .error .notFound =>
        match ← createFrom above with
        | .ok () => ensureDirectory path
        | .error e => return .error e
      | result => return result

/-- Creates a directory and those above it, as far as they are missing. -/
def createDirectories (path : Text) : m (Except HostError Unit) := createFrom (Path.ancestors path)

end Host

end ChartValues
