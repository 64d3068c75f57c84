import SessionReplay.Command.Run
import SessionReplay.File.Source

/-!
# The program

Reads the command line, the environment and the files that a command looks at, runs the command, and
writes what it leaves behind.
-/

namespace SessionReplay

def usage : String :=
  "usage: session-replay [-v] generate FILE [-o FILE] [-b BROWSER] [--device NAME]\n" ++
  "                                         [--save-storage FILE] [-t LANGUAGE]\n" ++
  "       session-replay [-v] validate FILE\n" ++
  "       session-replay [-v] devices"

/-- What stands at a path, if anything does. A path that exists and cannot be read as a file is that
of a directory, unless reading is not permitted. -/
def entryOnDisk (path : Text) : IO (Option FileEntry) := do
  let name := String.ofList path
  match ← (IO.FS.readBinFile name).toBaseIO with
  | .ok data => return some (.bytes data.toList)
  | .error fault =>
    match ← (IO.FS.realPath name).toBaseIO, fault with
    | .error _, _ => return none
    | .ok _, .permissionDenied .. => return some (.closed .denied)
    | .ok _, _ => return some .directory

/-- The paths to the directories that a path goes through, and the path itself. -/
def Path.fronts (path : Path) : List Path :=
  (List.range path.names.length).map fun count =>
    { path with names := path.names.take (count + 1) }

def entryAt (path : Path) : IO (Option (Place × FileEntry)) := do
  let entry ← entryOnDisk path.text
  return entry.map fun entry => (path.names.foldl Place.enter path.start.place, entry)

def isDeniedOnDisk (path : Path) : IO Bool := do
  match ← (IO.FS.realPath (String.ofList path.text)).toBaseIO with
  | .error (.permissionDenied ..) => return true
  | _ => return false

def directoryOnDisk (paths : List Path) : IO Directory := do
  let paths := paths.flatMap Path.fronts
  let entries ← paths.filterMapM entryAt
  let denied ← paths.filterM isDeniedOnDisk
  return {
    entries
    refuses := fun access path =>
      if access = .look ∧ path ∈ denied then some .denied else none }

def environment : IO Environment := do
  let values ← Settings.variableNames.mapM fun name => do
    return (name, ← IO.getEnv (String.ofList name))
  return values.filterMap fun (name, value) => value.map fun value => (name, value.toList)

def pathTo (place : Place) : Path :=
  match place with
  | first :: names => if first = rootName then ⟨.root, names⟩ else ⟨.workingDirectory, place⟩
  | [] => ⟨.workingDirectory, []⟩

def makeOnDisk (place : Place) : IO Unit :=
  IO.FS.createDirAll (String.ofList (pathTo place).text)

def writeOnDisk (place : Place) (data : List UInt8) : IO Unit := do
  IO.FS.createDirAll (String.ofList (pathTo place).parent.text)
  IO.FS.writeBinFile (String.ofList (pathTo place).text) ⟨data.toArray⟩

def hostHere : IO (Host YamlBreakdown) := do
  let outIsTerminal ← (← IO.getStdout).isTty
  let errIsTerminal ← (← IO.getStderr).isTty
  return { reader := .yaml, outIsTerminal, errIsTerminal, refuses := fun _ => none }

def runInvocation (invocation : Invocation) : IO UInt32 := do
  let directory ← directoryOnDisk invocation.command.paths
  let host ← hostHere
  let outcome := invocation.command.run host (← environment) directory
  for place in outcome.directory.directoriesBeyond directory do
    makeOnDisk place
  for (place, data) in outcome.directory.filesBeyond directory do
    writeOnDisk place data
  (← IO.getStdout).putStr (String.ofList outcome.out)
  for message in outcome.err do
    IO.eprintln (String.ofList message)
  if let some fault := outcome.escaped then
    IO.eprintln (String.ofList (fault.message host.reader.tell))
  return outcome.exitCode.toUInt32

end SessionReplay

open SessionReplay in
def main (arguments : List String) : IO UInt32 :=
  match Invocation.ofArguments? (arguments.map String.toList) with
  | some invocation => runInvocation invocation
  | none => do
    IO.eprintln usage
    return 2
