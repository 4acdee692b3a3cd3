import ChartValues.CommandLine

set_option autoImplicit false

/-!
# The program

The program runs on the machine itself: `IO` is a host. All that it decides is decided by
`execute`, which runs on any host.
-/

namespace ChartValues

/-- The error that an operation of the machine reports. -/
def HostError.ofMachine : IO.Error → HostError
  | .noFileOrDirectory .. => .notFound
  | .alreadyExists _ 17 _ => .alreadyExists
  | .inappropriateType _ 20 _ => .notDirectory
  | .inappropriateType _ 21 _ => .isDirectory
  | e => .other e.toString.toList

/-- An operation of the machine, with its errors as values. -/
def onMachine {α : Type} (act : IO α) : IO (Except HostError α) := do
  match ← act.toBaseIO with
  | .ok a => return .ok a
  | .error e => return .error (.ofMachine e)

/-- Whether the machine can follow a path to its end. -/
def leadsSomewhere (path : Text) : IO Bool := do
  match ← (IO.FS.realPath (String.ofList path)).toBaseIO with
  | .ok _ => return true
  | .error _ => return false

instance : Host IO where
  entryKind? path := do
    if path.isEmpty then return none
    else if ← leadsSomewhere (Path.join path ['.']) then return some .directory
    else if ← leadsSomewhere path then return some .file
    else return none
  readBytes path := onMachine (IO.FS.readBinFile (String.ofList path))
  writeBytes path content := onMachine (IO.FS.writeBinFile (String.ofList path) content)
  createDirectory path := onMachine (IO.FS.createDir (String.ofList path))
  print text := IO.print (String.ofList text)

end ChartValues

/-- Runs the program with the arguments of the command line. -/
def main (arguments : List String) : IO UInt32 := do
  let program := (← IO.appPath).toString.toList
  let ending ← ChartValues.execute program ['.'] (arguments.map String.toList)
  if let some complaint := ending.complaint? then
    IO.eprintln (String.ofList complaint)
  return ending.code.toUInt32
