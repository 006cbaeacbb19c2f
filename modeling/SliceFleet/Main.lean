/-
SliceFleet.Main — the command line of the checker.

The run itself is `Checker.run`; here its surroundings are read and its result
is written. Of the file system the run is given what lies on the way to the
property file and to the databases, and the files that it creates are created
afterwards, empty as they are.
-/
import SliceFleet.Checker

namespace SliceFleet.Main

/-- A place as it is looked up; a place with a name that is no text can not be. -/
def systemPath? (trail : Trail) : Option String :=
  if trail.isEmpty then some "/" else String.fromUTF8? trail.path.toByteArray

/-- What is at a place, with the content of a file if it is wanted. -/
def nodeAt (trail : Trail) (wanted : Bool) : IO (Option FileNode) := do
  let some place := systemPath? trail | return none
  let path := (← IO.currentDir) / place
  if ← path.isDir then return some .directory
  if ← path.pathExists then
    if wanted then return some (.file (← IO.FS.readBinFile path))
    else return some (.file .empty)
  return none

/-- Adds what lies on the way to a path. -/
def addPath (wanted : Bool) (files : FileStore) (path : Text.Bytes) : IO FileStore :=
  (files.waypoints path).foldlM (fun files trail => do
    match ← nodeAt trail wanted with
    | some node => return files.putNode trail node
    | none => return files) files

/-- Creates an empty file at a place. -/
def create (trail : Trail) : IO Unit := do
  if let some place := systemPath? trail then
    IO.FS.writeBinFile ((← IO.currentDir) / place) .empty

def noFiles : IO FileStore := do
  let names := Text.pieces '/' (← IO.currentDir).toString
  return .emptyAt (names.filter (· != ""))

/-- The environment variables that stand in for options. -/
def environment : IO (KeyMap String) := do
  let names := CommandLine.variableOptions.filterMap CliOption.environmentName?
  let values ← names.mapM fun name => do return (← IO.getEnv name).map fun value => (name, value)
  return KeyMap.ofList (values.filterMap id)

/-- What a run with these options is given of the file system. -/
def surroundings (line : CommandLine) : IO FileStore := do
  let properties := line.properties.toList.map Text.bytesOf
  let files ← properties.foldlM (addPath true) (← noFiles)
  (Checker.databaseFiles line files).foldlM (addPath false) files

end SliceFleet.Main

open SliceFleet in
def main (arguments : List String) : IO UInt32 := do
  let environment ← Main.environment
  let files ← match CommandLine.parse environment arguments with
    | .ok line => Main.surroundings line
    | .error _ => Main.noFiles
  let result := Checker.run environment arguments files
  for (trail, _) in result.files.nodes do
    if (files.nodes.lookup trail).isNone then Main.create trail
  IO.print result.stdout
  IO.eprint result.stderr
  return result.exit.toUInt32
