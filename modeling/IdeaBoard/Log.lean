import IdeaBoard.Text.Numeral

/-!
# IdeaBoard — the log

A record of the log has a level, the number of the navigation during which it was made, and a
text. The log keeps the records up to some level, and goes to a file, to the terminal, or both.
-/

namespace IdeaBoard.Log

inductive Level where
  | error
  | warn
  | info
  | debug
  | trace
deriving DecidableEq, Repr, Inhabited

namespace Level

def name : Level → String
  | error => "ERROR"
  | warn => "WARN"
  | info => "INFO"
  | debug => "DEBUG"
  | trace => "TRACE"

/-- The place of a level among all, counted from the one that matters most. -/
def rank : Level → Nat
  | error => 0
  | warn => 1
  | info => 2
  | debug => 3
  | trace => 4

/-- Does a log of level `limit` keep records of this level? -/
def isWithin (level limit : Level) : Bool := level.rank ≤ limit.rank

/-- The level of the log of a site: a site in use does without the details. -/
def ofSite (production : Bool) : Level := if production then info else debug

end Level

inductive Destination where
  | file
  | terminal
  | both
deriving DecidableEq, Repr, Inhabited

namespace Destination

/-- The name of a destination in a configuration. -/
def name : Destination → String
  | file => "File"
  | terminal => "Terminal"
  | both => "Both"

/-- The name of a destination on a command line. -/
def word : Destination → String
  | file => "file"
  | terminal => "terminal"
  | both => "both"

def all : List Destination := [file, terminal, both]

def named? (s : String) : Option Destination := all.find? fun d => d.name = s

def ofWord? (s : String) : Option Destination := all.find? fun d => d.word = s

def includesFile (d : Destination) : Bool := d ≠ terminal

def includesTerminal (d : Destination) : Bool := d ≠ file

end Destination

structure Record where
  level : Level
  /-- How many navigations there have been. -/
  navigation : Nat
  message : String
deriving DecidableEq, Repr, Inhabited

def Record.text (r : Record) : String := "[nav " ++ Text.numeral r.navigation ++ "] " ++ r.message

end IdeaBoard.Log
