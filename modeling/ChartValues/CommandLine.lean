import ChartValues.Docs.Generate

set_option autoImplicit false

/-!
# The command line

The program takes no arguments but the two that ask about it. Arguments are looked at from the
first on, and the first one decides.

## Main definitions

* `Command` — what the arguments ask for.
* `Command.ofArguments` — reads the arguments.
* `Ending` — how the program ends, and its exit code.
* `execute` — what the program does.
-/

namespace ChartValues

/-! ## Arguments -/

/-- What the arguments ask for. -/
inductive Command where
  | generate
  | help
  | version
  /-- An argument that means nothing. -/
  | invalid (argument : Text)
deriving DecidableEq, Repr

/-- Reads the arguments. Letters after a single dash are arguments in a row. Two dashes alone say
that no more options follow. -/
def Command.ofArguments : List Text → Command
  | [] => .generate
  | first :: rest =>
    if first = "--".toList then
      match rest with
      | [] => .generate
      | second :: _ => .invalid second
    else if first = "--help".toList || first.startsWith "-h".toList then .help
    else if first = "--version".toList || first.startsWith "-V".toList then .version
    else .invalid first

/-- What the program says when it is asked for help. -/
def helpText : Text :=
  ("Generate the BunkerWeb Helm chart values documentation\n\nUsage: generate-docs\n\n"
    ++ "Options:\n  -h, --help     Print help\n  -V, --version  Print version\n").toList

/-- What the program says when it is asked for its version. -/
def versionText : Text := "generate-docs 0.1.0\n".toList

/-! ## Endings -/

/-- How the program ends. -/
inductive Ending where
  | success
  /-- There was no values file. -/
  | failure
  | invalidArgument (argument : Text)
  | error (cause : DocsError)
deriving DecidableEq, Repr

/-- The exit code. -/
def Ending.code : Ending → Nat
  | .success => 0
  | .failure => 1
  | .invalidArgument _ => 2
  | .error _ => 1

/-- What is left to say about an ending. -/
def Ending.complaint? : Ending → Option Text
  | .success | .failure => none
  | .invalidArgument argument =>
    some ("error: unexpected argument '".toList ++ argument ++ "' found".toList)
  | .error cause => some ("Error: ".toList ++ cause.message)

/-! ## The program -/

variable {m : Type → Type} [Monad m] [Host m]

/-- What the program at a path does with its arguments. The pages are written for the nearest
repository above the program; if there is none, for the one with the given root. -/
def execute (program fallback : Text) (arguments : List Text) : m Ending := do
  match Command.ofArguments arguments with
  | .help => Host.print helpText; return .success
  | .version => Host.print versionText; return .success
  | .invalid argument => return .invalidArgument argument
  | .generate =>
    let root := (← DocPaths.findRoot program).getD fallback
    match ← run (DocPaths.ofRoot root) with
    | .ok true => return .success
    | .ok false => return .failure
    | .error cause => return .error cause

end ChartValues
