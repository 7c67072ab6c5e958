import PostalRegions.CommandLine.WorkingFiles
import PostalRegions.Confidence.Float
import PostalRegions.Snapshot.File
import PostalRegions.Snapshot.Pages
import Std.Time.DateTime.Timestamp

/-!
# The program

Reads the files that a run works with, runs the command in the working folder, and writes back
what has changed.  The program has no connection to the network.
-/

open PostalRegions CommandLine

def usage : String :=
  "Usage: postal-regions [--config FILE] [serve]\n" ++
  "       postal-regions [--config FILE] import-estimates --csv FILE [--db FILE]\n" ++
  "       postal-regions --help | --version"

def presentMoment : IO Instant := do
  let timestamp ← Std.Time.Timestamp.now
  let nanos := timestamp.toNanosecondsSinceUnixEpoch.toInt
  return .sinceEpoch (nanos / nanosPerSecond) (nanos % nanosPerSecond).toNat

/-- Adds a file, if it is there. -/
def readFile (directory : DataDirectory Float) (path : String) :
    IO (DataDirectory Float) := do
  try
    let place := (← IO.currentDir) / path
    let modified := (← place.metadata).modified
    let content := SnapshotFile.read (← IO.FS.readBinFile place)
    let moment := Instant.sinceEpoch modified.sec modified.nsec.toNat
    return (SnapshotStore.place directory path content moment).1
  catch _ =>
    return directory

/-- The paths of the files in a folder, if it is there. -/
def pathsIn (folder : String) : IO (List String) := do
  try
    let entries ← ((← IO.currentDir) / folder).readDir
    return entries.toList.map fun entry => Storage.join folder entry.fileName
  catch _ =>
    return []

def readFiles (directory : DataDirectory Float) (files : WorkingFiles) :
    IO (DataDirectory Float) := do
  let cached ← match files.folder with
    | some folder => pathsIn folder
    | none => pure []
  (files.paths ++ cached).foldlM readFile directory

def writeFile (path : String) (content : Content Float) : IO Unit := do
  let place := (← IO.currentDir) / path
  IO.FS.createDirAll ((← IO.currentDir) / Storage.parent path)
  let draft := (← IO.currentDir) / (path ++ ".draft")
  IO.FS.writeBinFile draft (SnapshotFile.write content)
  IO.FS.rename draft place

/-- Writes the files that a run has changed, and removes those that it has removed. -/
def writeChanges (before after : DataDirectory Float) (now : Instant) : IO Unit := do
  for path in before.filePaths do
    if !after.isFile path then
      IO.FS.removeFile ((← IO.currentDir) / ("/" ++ path))
  for path in after.filePaths do
    if let some (content, modified) := after.file? path then
      if modified == now then
        writeFile ("/" ++ path) content

/-- Tells what the program can be asked, if it cannot tell what it is asked. -/
def explain (arguments : List String) : IO Unit :=
  match Invocation.parse arguments with
  | .error .informed => IO.println usage
  | .error .misused => IO.eprintln usage
  | .ok _ => pure ()

def main (arguments : List String) : IO UInt32 := do
  explain arguments
  let environment ← Settings.variableNames.filterMapM fun name => do
    return (← IO.getEnv name).map fun value => (name, value)
  let now ← presentMoment
  let folder := (← IO.currentDir).toString
  let configuration := (configurationPath? arguments).map (Storage.join folder)
  let directory ← configuration.toList.foldlM readFile .empty
  let before ← match WorkingFiles.ofArguments arguments environment folder directory with
    | some files => readFiles directory files
    | none => pure directory
  let (after, ending) := run Fetcher.unreachable arguments environment folder before fun _ => now
  writeChanges before after now
  return ending.code.toUInt32
