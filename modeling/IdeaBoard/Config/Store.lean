import IdeaBoard.Config.Reader
import IdeaBoard.Config.Writer
import IdeaBoard.Files

/-!
# IdeaBoard — the configuration in its file

A configuration is loaded from a file, or has all defaults where there is no file; it is saved as
a text that loads to the same configuration.
-/

namespace IdeaBoard.Config

def ofText (path text : String) : Except Fault Config :=
  match parse? text.toList with
  | some c => c.validated
  | none => .error (.malformed path)

/-- Loads the configuration from a path, if one is given. -/
def load (files : Files) : Option String → Except Fault Config
  | none => .ok {}
  | some path =>
    match files.readText path with
    | .ok text => ofText path text
    | .error .missing => .ok {}
    | .error .unusable => .error (.unreadable path)

def save (c : Config) (files : Files) (path : String) : Except Fault Files :=
  match files.write? path (Text.Utf8.encode c.text.toList) with
  | some files => .ok files
  | none => .error (.unwritable path)

def savedNote (path : String) : String := "Wrote config to " ++ Text.quoted path

end IdeaBoard.Config
