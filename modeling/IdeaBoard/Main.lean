import IdeaBoard.CommandLine

/-!
# IdeaBoard — the program on its machine

The outer layer: it looks up the files that the arguments name, reads the input, runs the program
over them, and puts out what comes of it.
-/

namespace IdeaBoard.Machine

def pathOf (place : Files.Place) : String :=
  String.ofList (place.flatMap fun name => '/' :: name)

/-- The places on the way along some steps from a place. -/
def visited (place : Files.Place) : List (List Char) → List Files.Place
  | [] => []
  | name :: rest =>
    let next :=
      if name = [] ∨ name = ['.'] then place
      else if name = ['.', '.'] then place.dropLast
      else place ++ [name]
    next :: visited next rest

def placesOf (here : Files.Place) (path : String) : List Files.Place :=
  visited (if path.toList.head? = some '/' then [] else here) (Text.pieces '/' path.toList)

/-- What is at a place; what cannot be read is as useless as a directory. -/
def entryAt? (place : Files.Place) : IO (Option Files.Entry) := do
  let path := (← IO.currentDir) / pathOf place
  if ← path.isDir then return some .directory
  try
    return some (.file (← IO.FS.readBinFile path).toList)
  catch e =>
    match e with
    | .noFileOrDirectory _ _ _ => return none
    | _ => return some .directory

def pathsOf (arguments : List String) : List String :=
  match CommandLine.parse arguments with
  | .run o =>
    Program.logPath :: [o.configPath, o.serverDataPath, o.writeConfigPath].filterMap id
  | _ => []

def lookUp (paths : List String) : IO Files := do
  let here := ((Text.pieces '/' (← IO.currentDir).toString.toList)).filter (· ≠ [])
  let mut files : Files := { workingDirectory := here }
  for path in paths do
    for place in placesOf here path do
      if let some entry ← entryAt? place then
        files := files.put place entry
  return files

/-- Writes the files that have changed. -/
def writeBack (old new : Files) : IO Unit := do
  for (place, entry) in new.entries do
    match entry with
    | .directory => pure ()
    | .file content =>
      if old.entry? place ≠ some entry then
        IO.FS.writeBinFile (pathOf place) ⟨content.toArray⟩

partial def readAll (input : IO.FS.Stream) (read : List UInt8) : IO (List UInt8) := do
  let octets ← input.read 65536
  if octets.isEmpty then return read else readAll input (read ++ octets.toList)

def say (log : Option Log.Destination) : Program.Said → IO Unit
  | .print text => IO.println text
  | .warn text => IO.eprintln text
  | .log record =>
    if log.any Log.Destination.includesTerminal then
      IO.println (CommandLine.Outcome.recordLine record)
    else pure ()

end IdeaBoard.Machine

open IdeaBoard Machine in
def main (arguments : List String) : IO UInt32 := do
  let files ← lookUp (pathsOf arguments)
  let input ← match CommandLine.parse arguments with
    | .run _ => readAll (← IO.getStdin) []
    | _ => pure []
  let outcome := CommandLine.run arguments files input
  outcome.said.forM (say outcome.log)
  writeBack files outcome.filesWithLog
  return outcome.exitCode.toUInt32
