import IdeaBoard.Client.Endpoint
import IdeaBoard.Config.Store
import IdeaBoard.World

/-!
# IdeaBoard — the program

One run of the program over the files of its directory and the lines of its input. First comes
what can go wrong before a page is open: configuration, server data, log, client. Then the lines
are handled in order until one asks to leave; at the end of the input the program waits until
nothing is awaited any more.
-/

namespace IdeaBoard

open IdeaBoard.Text

namespace Program

structure Options where
  location : String := "/"
  configPath : Option String := none
  serverDataPath : Option String := none
  /-- Where the log goes, whatever the configuration says. -/
  log : Option Log.Destination := none
  /-- Save the configuration here, and do nothing else. -/
  writeConfigPath : Option String := none
deriving DecidableEq, Repr, Inhabited

/-- Why a run ends before a page is open. -/
inductive Fault where
  | config (fault : Config.Fault)
  | serverDataUnreadable (path : String)
  | serverDataMalformed (path : String)
  /-- There is no client for the root of the site. -/
  | noEngine (failure : Client.Failure)
deriving DecidableEq, Repr

def Fault.message : Fault → String
  | .config fault => fault.message
  | .serverDataUnreadable path => "failed to read server data " ++ quoted path
  | .serverDataMalformed path => "invalid server data in " ++ quoted path
  | .noEngine _ => "failed to start search engine"

inductive Said where
  | print (text : String)
  /-- A text on the error output. -/
  | warn (text : String)
  | log (record : Log.Record)
deriving DecidableEq, Repr

structure Logging where
  level : Log.Level
  destination : Log.Destination
deriving DecidableEq, Repr

structure Run where
  said : List Said := []
  files : Files
  /-- None as long as there is no log. -/
  logging : Option Logging := none
  fault : Option Fault := none

/-! ### Before the first page -/

/-- The bootstrap document at a path, if one is given. -/
def loadBootstrap (files : Files) : Option String → Except Fault Bootstrap
  | none => .ok {}
  | some path =>
    match files.readText path with
    | .error _ => .error (.serverDataUnreadable path)
    | .ok text =>
      match Bootstrap.parse? text with
      | some b => .ok b
      | none => .error (.serverDataMalformed path)

def logPath : String := "./fider_shell.log"

/-- The warning where there can be no log file. -/
def logWarning : String :=
  "Warning: Could not create log file at " ++ quoted logPath ++ ": Is a directory (os error 21)"

/-- Sets up a log. Where there can be no log file there is a warning, and the log goes to the
terminal alone or, if it was to go to the file alone, nowhere. -/
def openLog (files : Files) (destination : Log.Destination) (level : Log.Level) : Run :=
  if !destination.includesFile then { files, logging := some ⟨level, destination⟩ }
  else match files.write? logPath [] with
    | some files => { files, logging := some ⟨level, destination⟩ }
    | none =>
      { said := [.warn logWarning], files
        logging := if destination.includesTerminal then some ⟨level, .terminal⟩ else none }

/-! ### Lines -/

/-- A line of input without the octet that ends it and a carriage return before that. -/
def trimmedLine (octets : List UInt8) : List UInt8 :=
  if octets.getLast? = some 13 then octets.dropLast else octets

/-- The pieces of the input, of which all but the last were ended by a line feed. -/
def lineOctets : List (List UInt8) → List (List UInt8)
  | [] => []
  | [last] => if last.isEmpty then [] else [last]
  | line :: rest => trimmedLine line :: lineOctets rest

/-- The lines of the input, up to the first that is no text. -/
def linesOf (input : List UInt8) : List String :=
  (((lineOctets (pieces 10 input)).map Utf8.decode?).takeWhile Option.isSome).filterMap fun line =>
    line.map String.ofList

/-- The outputs of a session that are seen. -/
def seen (out : List Output) : List Said :=
  out.filterMap fun
    | .print text => some (.print text)
    | .log record => some (.log record)
    | .engine _ => none

/-- Handles lines until one asks to leave; at their end waits until nothing is awaited. -/
def converse (answer : Search.Request → Engine.Result) (w : World) : List String → List Output
  | [] =>
    let (w, waited) := w.settle answer
    waited ++ w.leave.2
  | line :: rest =>
    match w.session.handle line with
    | none => w.leave.2
    | some r =>
      let (w, out) := w.after r
      out ++ converse answer w rest

/-! ### The run -/

/-- How requests are answered where no server can be reached. -/
def unreachable (c : Client) (r : Search.Request) : Engine.Result :=
  c.outcome (.error (c.unreachable r))

def browse (c : Config) (b : Bootstrap) (client : Client) (location : String)
    (lines : List String) : List Said :=
  let (w, opened) := World.start b c.searchSettings location
  seen (opened ++ converse (unreachable client) w lines)

def openSite (o : Options) (files : Files) (c : Config) (b : Bootstrap) (lines : List String) :
    Run :=
  let run := openLog files (o.log.getD c.logDestination) (Log.Level.ofSite b.isProduction)
  match Client.ofSettings c.clientSettings with
  | .error failure => { run with fault := some (.noEngine failure) }
  | .ok client => { run with said := run.said ++ browse c b client o.location lines }

def run (o : Options) (files : Files) (lines : List String) : Run :=
  match Config.load files o.configPath with
  | .error fault => { files, fault := some (.config fault) }
  | .ok c =>
    match o.writeConfigPath with
    | some path =>
      match c.save files path with
      | .error fault => { files, fault := some (.config fault) }
      | .ok files => { said := [.log ⟨.info, 0, Config.savedNote path⟩], files }
    | none =>
      match loadBootstrap files o.serverDataPath with
      | .error fault => { files, fault := some fault }
      | .ok b => openSite o files c b lines

namespace Run

/-- The most detailed level that the log keeps; without a log nothing is dropped yet. -/
def level (r : Run) : Log.Level :=
  match r.logging with
  | some l => l.level
  | none => .trace

/-- What is put out, without the records that the log does not keep. -/
def kept (r : Run) : List Said :=
  r.said.filter fun
    | .log record => record.level.isWithin r.level
    | _ => true

end Run

def prints (said : List Said) : List String :=
  said.filterMap fun
    | .print text => some text
    | _ => none

def warnings (said : List Said) : List String :=
  said.filterMap fun
    | .warn text => some text
    | _ => none

def records (said : List Said) : List Log.Record :=
  said.filterMap fun
    | .log record => some record
    | _ => none

end Program

end IdeaBoard
