import ChartValues.Console
import ChartValues.Docs.Error
import ChartValues.Docs.Paths
import ChartValues.Page.Guide
import ChartValues.Page.Reference
import ChartValues.Parameter.Extraction
import ChartValues.ValuesFile

set_option autoImplicit false

/-!
# Generating the documentation

The values file is read, its parameters are extracted once, and both pages are written from them,
the reference page first. Progress is printed on the way. Nothing is written before the values file
has been read and understood; a failure at the second page leaves the first one in place.

## Main definitions

* `Report` — what a run has done.
* `generate` — writes both pages.
* `run` — writes both pages and says how it went.
-/

namespace ChartValues

/-- What a run has done. -/
structure Report where
  /-- The number of documented parameters. -/
  parameters : Nat
  reference : Text
  guide : Text
deriving DecidableEq, Repr

variable {m : Type → Type} [Monad m] [Host m]

/-! ## Steps -/

/-- An operation of the host whose failure ends the run. -/
def attempt {α : Type} (onError : Text → DocsError) (act : m (Except HostError α)) :
    ExceptT DocsError m α :=
  ExceptT.adapt (fun e => onError e.message) (ExceptT.mk act)

/-- Prints a line on the way. -/
def tell (line : Text) : ExceptT DocsError m Unit := ExceptT.lift (Host.printLine line)

/-- Reads the values file, and extracts its parameters. -/
def readParameters (path : Text) : ExceptT DocsError m (List Parameter) := do
  let source ← attempt (.read path) (Host.readText path)
  match parseValues source with
  | .error e => throw (.parse path e.message)
  | .ok root => return parameters source root

/-- Writes a page, after the directory that it goes to has been created. -/
def writePage (path : Text) (page : List Text) : ExceptT DocsError m Unit := do
  if let some directory := Path.parent? path then
    attempt (.createDirectory directory) (Host.createDirectories directory)
  attempt (.write path) (Host.writeText path (Text.unlines page))

/-! ## Runs -/

/-- Writes both pages. -/
def generate (paths : DocPaths) : ExceptT DocsError m Report := do
  unless ← ExceptT.lift (Host.pathExists paths.values) do
    throw (.missingValues paths.values)
  tell (Style.detail.apply ("Parsing ".toList ++ paths.values ++ "...".toList))
  let ps ← readParameters paths.values
  tell ("Found ".toList ++ Text.ofNat ps.length ++ " parameters".toList)
  tell (Style.detail.apply "Generating values-reference.md...".toList)
  tell (Style.detail.apply "Generating values.md...".toList)
  writePage paths.reference (Page.reference ps)
  tell (Style.success.apply ("✅ Reference documentation: ".toList ++ paths.reference))
  writePage paths.guide (Page.guide ps)
  tell (Style.success.apply ("✅ User guide documentation: ".toList ++ paths.guide))
  return { parameters := ps.length, reference := paths.reference, guide := paths.guide }

/-- Writes both pages, says how it went, and returns whether they were written. That there is no
values file is said and is no error; any other error is left to the caller. -/
def run (paths : DocPaths) : m (Except DocsError Bool) := do
  match ← (generate paths).run with
  | .ok _ =>
    Host.printLine (Style.header.apply "🎉 Documentation generation complete!".toList)
    return .ok true
  | .error (.missingValues path) =>
    let message := (DocsError.missingValues path).message
    Host.printLine (Style.error.apply ("❌ Error: ".toList ++ message))
    return .ok false
  | .error e => return .error e

end ChartValues
