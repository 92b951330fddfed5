import LiteralRows.Command
import LiteralRows.Files.Tree

/-!
# The program

The command line around `Command.run`: it gathers what surrounds the program, and writes what the
run leaves behind.  Everything that is decided is decided there; what is here only looks and writes.

The program knows no server and no database file, so that of all sources only a private SQLite
database can be reached.
-/

open LiteralRows

/-- The fault that the system reports. -/
def faultOf : IO.Error → FileFault
  | .alreadyExists _ code _ | .inappropriateType _ code _ | .invalidArgument _ code _ =>
    (FileFault.ofCode? code.toNat).getD .missing
  | _ => .missing

/-- What a path leads to. -/
def observe (path : String) : BaseIO Entry := do
  match ← (IO.FS.readBinFile path).toBaseIO with
  | .ok bytes => return .file bytes.toList
  | .error e =>
    let fault := faultOf e
    return if fault = .isDirectory then .directory else .absent fault

/-- What some paths lead to, everything else being missing. -/
def observeAll (paths : List String) : BaseIO Files := do
  let seen ← paths.mapM fun path => return (path, ← observe path)
  return fun path => (seen.lookup path).getD (.absent .missing)

/-- The environment, as far as a command asks for it. -/
def gatherEnvironment : BaseIO EnvironmentFile.Environment := do
  let found ← Command.variableNames.mapM fun name =>
    return (← IO.getEnv name).map fun value => (name, value)
  return found.filterMap id

/-- Writes a file. -/
def writeBytes (path : String) (bytes : List UInt8) : IO Unit :=
  IO.FS.writeBinFile path (ByteArray.mk bytes.toArray)

/-- Begins a log in a directory that is made for it. -/
def beginLog (path : String) (bytes : List UInt8) : BaseIO (Except LogFault Unit) := do
  let above := Path.ofReversed (Path.isRooted path) ((Tree.partsOf path).reverse.drop 1)
  let made ← if above = "" then pure (.ok ()) else (IO.FS.createDirAll above).toBaseIO
  match made with
  | .error e => return .error (.directory (faultOf e))
  | .ok () =>
    return (← (writeBytes path bytes).toBaseIO).mapError fun e => .file (faultOf e)

/-- What surrounds a run with these arguments, after its log has been begun. -/
def gather (arguments : List String) : BaseIO Command.World := do
  let bare : Command.World :=
    { environment := ← gatherEnvironment
      directory? := (← IO.currentDir.toBaseIO).toOption.map (·.toString)
      around := .empty
      beginLog := fun _ _ => .error (.file .missing) }
  let first : Command.World :=
    { bare with around := { bare.around with files := ← observeAll bare.environmentPaths } }
  let begun ← match Command.requestedLog? first arguments with
    | some (path, bytes) => beginLog path bytes
    | none => pure (.ok ())
  let files ← observeAll (bare.environmentPaths ++ Command.paths first arguments)
  return { first with
    around := { first.around with files }
    beginLog := fun _ _ => begun.map fun () => files }

/-- Runs the program. -/
def main (arguments : List String) : IO UInt32 := do
  let written := Command.run (← gather arguments) arguments
  written.notices.forM IO.eprintln
  match written.logFile with
  | some path => writeBytes path (Command.logBytes written.records)
  | none => written.records.forM fun r => IO.eprintln r.text
  IO.print written.output
  return written.exitCode.toUInt32
