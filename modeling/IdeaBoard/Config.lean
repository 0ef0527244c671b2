import IdeaBoard.Client.Settings
import IdeaBoard.Log
import IdeaBoard.Search.State
import IdeaBoard.Text.Quoted

/-!
# IdeaBoard — configuration

What can be set for the program: where the site is, how list pages search, how long to wait for
the server and how much to take from it, and where the log goes. Everything has a default.
-/

namespace IdeaBoard

structure Config where
  baseUrl : String := "http://localhost:3000/"
  debounceMs : UInt64 := 200
  pageSize : UInt32 := 30
  pageStep : UInt32 := 10
  connectTimeoutMs : UInt64 := 5000
  requestTimeoutMs : UInt64 := 15000
  maxResponseBytes : UInt64 := 2097152
  logDestination : Log.Destination := .terminal
deriving DecidableEq, Repr, Inhabited

namespace Config

def searchSettings (c : Config) : Search.Settings := ⟨c.debounceMs, c.pageSize, c.pageStep⟩

def clientSettings (c : Config) : Client.Settings :=
  ⟨c.baseUrl, c.connectTimeoutMs, c.requestTimeoutMs, c.maxResponseBytes⟩

inductive Fault where
  /-- The file is there and cannot be read as text. -/
  | unreadable (path : String)
  /-- The text is no configuration. -/
  | malformed (path : String)
  /-- The file cannot be written. -/
  | unwritable (path : String)
  | pageSizeZero
  | pageStepZero
deriving DecidableEq, Repr

def Fault.message : Fault → String
  | .unreadable path => "failed to read config " ++ Text.quoted path
  | .malformed path => "failed to parse config " ++ Text.quoted path
  | .unwritable path => "failed to write config " ++ Text.quoted path
  | .pageSizeZero => "page_size must be positive"
  | .pageStepZero => "page_step must be positive"

/-- Refuses a configuration in which list pages could not grow. -/
def validated (c : Config) : Except Fault Config :=
  if c.pageSize = 0 then .error .pageSizeZero
  else if c.pageStep = 0 then .error .pageStepZero
  else .ok c

end Config

end IdeaBoard
