import IdeaBoard.Text.Split
import IdeaBoard.Text.Utf8

/-!
# IdeaBoard — files

The files and directories that the program can see. A path is followed step by step, from the top
or from the working directory: every step but the last has to be a directory.
-/

namespace IdeaBoard

open IdeaBoard.Text

namespace Files

inductive Entry where
  | file (content : List UInt8)
  | directory
deriving DecidableEq, Repr

inductive Fault where
  /-- There is nothing there. -/
  | missing
  /-- There is something there, or in the way, that cannot be used. -/
  | unusable
deriving DecidableEq, Repr

/-- The names of the steps that lead from the top to a place. -/
abbrev Place := List (List Char)

end Files

/-- Files and directories, and the directory that the program works in. -/
structure Files where
  workingDirectory : Files.Place := []
  entries : List (Files.Place × Files.Entry) := []
deriving DecidableEq, Repr

namespace Files

/-- What is at a place; above the working directory there are directories. -/
def entry? (f : Files) (place : Place) : Option Entry :=
  if place.isPrefixOf f.workingDirectory then some .directory
  else (f.entries.find? fun e => e.1 = place).map Prod.snd

/-- The longest name of a file, in octets. -/
def maxNameLength : Nat := 255

def follow (f : Files) (place : Place) : List (List Char) → Except Fault Place
  | [] => .ok place
  | name :: rest =>
    match f.entry? place with
    | none => .error .missing
    | some (.file _) => .error .unusable
    | some .directory =>
      if name = [] ∨ name = ['.'] then f.follow place rest
      else if name = ['.', '.'] then f.follow place.dropLast rest
      else if maxNameLength < (Utf8.encode name).length then .error .unusable
      else f.follow (place ++ [name]) rest

def locate (f : Files) (path : String) : Except Fault Place :=
  let cs := path.toList
  if cs.isEmpty then .error .missing
  else if cs.any fun c => c.toNat = 0 then .error .unusable
  else f.follow (if cs.head? = some '/' then [] else f.workingDirectory) (pieces '/' cs)

def read (f : Files) (path : String) : Except Fault (List UInt8) :=
  match f.locate path with
  | .error e => .error e
  | .ok place =>
    match f.entry? place with
    | none => .error .missing
    | some .directory => .error .unusable
    | some (.file content) => .ok content

def readText (f : Files) (path : String) : Except Fault String :=
  match f.read path with
  | .error e => .error e
  | .ok content =>
    match Utf8.decode? content with
    | some cs => .ok (String.ofList cs)
    | none => .error .unusable

def put (f : Files) (place : Place) (entry : Entry) : Files :=
  { f with entries := (place, entry) :: f.entries.filter fun e => e.1 ≠ place }

/-- Writes a file, new or over another; none where there can be no file. -/
def write? (f : Files) (path : String) (content : List UInt8) : Option Files :=
  match f.locate path with
  | .error _ => none
  | .ok place =>
    if f.entry? place = some .directory then none else some (f.put place (.file content))

def isFile (f : Files) (path : String) : Bool :=
  match f.read path with
  | .ok _ => true
  | .error _ => false

end Files

end IdeaBoard
