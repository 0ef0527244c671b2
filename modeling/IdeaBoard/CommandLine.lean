import IdeaBoard.Program

/-!
# IdeaBoard — the command line

The arguments of the program: one location, and options that each take a value, in any order.
After `--` every argument is a location. An option is settled only when the next argument or the
end has shown that its value is complete, so that of two faults the later one may come first.
-/

namespace IdeaBoard.CommandLine

open IdeaBoard.Text

/-! ### What can be asked for -/

/-- The options that take a value. -/
inductive Setting where
  | config
  | serverData
  | log
  | writeConfig
deriving DecidableEq, Repr

namespace Setting

def word : Setting → String
  | config => "config"
  | serverData => "server-data"
  | log => "log"
  | writeConfig => "write-config"

def valueName : Setting → String
  | config => "CONFIG"
  | serverData => "SERVER_DATA"
  | log => "LOG"
  | writeConfig => "WRITE_CONFIG"

def usage (s : Setting) : String := "--" ++ s.word ++ " <" ++ s.valueName ++ ">"

def purpose : Setting → String
  | config => "RON configuration file"
  | serverData => "JSON bootstrap document the server embeds into the page"
  | log => "Overrides the configured log destination"
  | writeConfig => "Writes the effective configuration to this path and exits"

def all : List Setting := [config, serverData, log, writeConfig]

def named? (word : String) : Option Setting := all.find? fun s => s.word = word

end Setting

/-- The options that take no value. -/
inductive Flag where
  | help
  | version
deriving DecidableEq, Repr

namespace Flag

def word : Flag → String
  | help => "help"
  | version => "version"

def named? (word : String) : Option Flag := [help, version].find? fun f => f.word = word

def ofLetter? (c : Char) : Option Flag :=
  if c = 'h' then some .help else if c = 'V' then some .version else none

end Flag

inductive Fault where
  | unexpectedArgument (argument : String)
  | missingValue (setting : Setting)
  | invalidValue (setting : Setting) (value : String)
  | repeated (setting : Setting)
  | unexpectedValue (flag : Flag) (value : String)
deriving DecidableEq, Repr

def Fault.message : Fault → String
  | .unexpectedArgument a => "unexpected argument '" ++ a ++ "' found"
  | .missingValue s => "a value is required for '" ++ s.usage ++ "' but none was supplied"
  | .invalidValue s v => "invalid value '" ++ v ++ "' for '" ++ s.usage ++ "'"
  | .repeated s => "the argument '" ++ s.usage ++ "' cannot be used multiple times"
  | .unexpectedValue f v =>
    "unexpected value '" ++ v ++ "' for '--" ++ f.word ++ "' found; no more were expected"

inductive Request where
  | run (options : Program.Options)
  | version
  /-- Help, in full or as a summary. -/
  | help (full : Bool)
  | refused (fault : Fault)
deriving DecidableEq, Repr

/-! ### Reading -/

structure Progress where
  options : Program.Options := {}
  /-- The options that are settled. -/
  given : List Setting := []
  located : Bool := false
  /-- The option that is not settled yet, and its value if that has come. -/
  pending : Option (Setting × Option String) := none
  /-- Are all further arguments locations? -/
  plain : Bool := false
deriving DecidableEq, Repr

namespace Progress

def assign (o : Program.Options) (s : Setting) (value : String) :
    Except Fault Program.Options :=
  if value.isEmpty then .error (.missingValue s)
  else match s with
    | .config => .ok { o with configPath := some value }
    | .serverData => .ok { o with serverDataPath := some value }
    | .writeConfig => .ok { o with writeConfigPath := some value }
    | .log =>
      match Log.Destination.ofWord? value with
      | some d => .ok { o with log := some d }
      | none => .error (.invalidValue s value)

def give (p : Progress) (s : Setting) (value : String) : Except Fault Progress :=
  if s ∈ p.given then .error (.repeated s)
  else match assign p.options s value with
    | .ok o => .ok { p with options := o, given := s :: p.given, pending := none }
    | .error e => .error e

/-- Settles the option that is pending. -/
def settle (p : Progress) : Except Fault Progress :=
  match p.pending with
  | none => .ok p
  | some (s, none) => .error (.missingValue s)
  | some (s, some value) => p.give s value

def locate (p : Progress) (argument : String) : Except Request Progress :=
  if p.located then .error (.refused (.unexpectedArgument argument))
  else match p.settle with
    | .error e => .error (.refused e)
    | .ok p => .ok { p with located := true, options := { p.options with location := argument } }

/-- Takes a flag, which ends the reading. -/
def raise (p : Progress) (full : Bool) (f : Flag) : Request :=
  match p.settle with
  | .error e => .refused e
  | .ok _ =>
    match f with
    | .help => .help full
    | .version => .version

/-- Takes an option, whose value may be attached. -/
def opt (p : Progress) (s : Setting) (attached : Option String) : Except Request Progress :=
  match p.settle with
  | .error e => .error (.refused e)
  | .ok p =>
    match attached with
    | none => .ok { p with pending := some (s, none) }
    | some value =>
      match p.give s value with
      | .ok p => .ok p
      | .error e => .error (.refused e)

/-- Takes an argument after two dashes: a word, and perhaps a value after an equals sign. -/
def long (p : Progress) (cs : List Char) : Except Request Progress :=
  let (word, attached) := match cutFirst? '=' cs with
    | some (word, value) => (String.ofList word, some (String.ofList value))
    | none => (String.ofList cs, none)
  match Setting.named? word with
  | some s => p.opt s attached
  | none =>
    match Flag.named? word, attached with
    | some f, none => .error (p.raise true f)
    | some f, some value => .error (.refused (.unexpectedValue f value))
    | none, _ => .error (.refused (.unexpectedArgument ("--" ++ word)))

/-- Takes an argument after a single dash, of which the first letter decides. -/
def short (p : Progress) (c : Char) : Except Request Progress :=
  match Flag.ofLetter? c with
  | some f => .error (p.raise false f)
  | none => .error (.refused (.unexpectedArgument (String.ofList ['-', c])))

/-- Takes an argument that is no option: the value that is missing, or the location. -/
def value (p : Progress) (argument : String) : Except Request Progress :=
  match p.pending with
  | some (s, none) => .ok { p with pending := some (s, some argument) }
  | _ => p.locate argument

def take (p : Progress) (argument : String) : Except Request Progress :=
  if p.plain then p.locate argument
  else match argument.toList with
    | ['-', '-'] => .ok { p with plain := true }
    | '-' :: '-' :: cs => p.long cs
    | '-' :: c :: _ => p.short c
    | _ => p.value argument

end Progress

def parseFrom (p : Progress) : List String → Request
  | [] =>
    match p.settle with
    | .ok p => .run p.options
    | .error e => .refused e
  | a :: rest =>
    match p.take a with
    | .ok p => parseFrom p rest
    | .error r => r

def parse (arguments : List String) : Request := parseFrom {} arguments

/-! ### What is shown -/

def programName : String := "fider_shell"

def versionText : String := programName ++ " 0.1.0"

def usageText : String := "Usage: " ++ programName ++ " [OPTIONS] [LOCATION]"

def aboutText : String := "Line-driven shell over the feedback site's routing and post search"

def locationPurpose : String :=
  "Location to open, e.g. \x60/\x60 or \x60/?view=recent&tags=bug\x60"

/-- The places that the log can go to. -/
def logWords : String := ", ".intercalate (Log.Destination.all.map Log.Destination.word)

/-- A text with spaces after it up to a width. -/
def padRight (width : Nat) (s : String) : String :=
  s ++ String.ofList (List.replicate (width - s.length) ' ')

def shortHelp : List String :=
  let row (left right : String) : String := "  " ++ padRight 31 left ++ right
  [aboutText, "", usageText, "", "Arguments:",
   "  [LOCATION]  " ++ locationPurpose ++ " [default: /]", "", "Options:"] ++
  Setting.all.map (fun s => row ("    " ++ s.usage) (s.purpose ++
    if s = .log then " [possible values: " ++ logWords ++ "]" else "")) ++
  [row "-h, --help" "Print help (see more with '--help')", row "-V, --version" "Print version"]

def logPurpose : Log.Destination → String
  | .file => "Write to ./fider_shell.log in the current directory"
  | .terminal => "Write to the terminal (stderr for warnings and errors)"
  | .both => "Write to both file and terminal"

def fullHelp : List String :=
  let inner (s : String) : String := "          " ++ s
  let setting (s : Setting) : List String :=
    ["      " ++ s.usage, inner s.purpose] ++
    (if s = .log then ["", inner "Possible values:"] ++ Log.Destination.all.map fun d =>
      inner ("- " ++ padRight 10 (d.word ++ ":") ++ logPurpose d) else []) ++ [""]
  [aboutText, "", usageText, "", "Arguments:", "  [LOCATION]", inner locationPurpose, inner "",
   inner "[default: /]", "", "Options:"] ++
  Setting.all.flatMap setting ++
  ["  -h, --help", inner "Print help (see a summary with '-h')", "",
   "  -V, --version", inner "Print version"]

def faultLines (f : Fault) : List String :=
  let choices := match f with
    | .invalidValue .log _ | .missingValue .log => ["  [possible values: " ++ logWords ++ "]"]
    | _ => []
  ["error: " ++ f.message] ++ choices ++
  (match f with
    | .invalidValue _ _ | .missingValue _ => []
    | _ => ["", usageText]) ++
  ["", "For more information, try '--help'."]

/-! ### The outcome -/

/-- What the program leaves behind for its surroundings. -/
structure Outcome where
  exitCode : UInt8 := 0
  /-- What is printed and written to the error output, and the records that the log keeps. -/
  said : List Program.Said := []
  files : Files
  /-- Where the log goes; none if there is no log. -/
  log : Option Log.Destination := none

def outcomeOf (r : Program.Run) : Outcome where
  exitCode := if r.fault.isSome then 1 else 0
  said := r.kept ++ (r.fault.map fun f => Program.Said.warn ("Error: " ++ f.message)).toList
  files := r.files
  log := r.logging.map Program.Logging.destination

/-- Runs the program with its arguments, over the files it sees and the octets of its input. -/
def run (arguments : List String) (files : Files) (input : List UInt8) : Outcome :=
  match parse arguments with
  | .version => { said := [.print versionText], files }
  | .help full => { said := (if full then fullHelp else shortHelp).map .print, files }
  | .refused fault => { exitCode := 2, said := (faultLines fault).map .warn, files }
  | .run options => outcomeOf (Program.run options files (Program.linesOf input))

namespace Outcome

def fileRecords (o : Outcome) : List Log.Record :=
  if o.log.any Log.Destination.includesFile then Program.records o.said else []

def terminalRecords (o : Outcome) : List Log.Record :=
  if o.log.any Log.Destination.includesTerminal then Program.records o.said else []

def recordLine (r : Log.Record) : String := "[" ++ r.level.name ++ "] " ++ r.text

def logContent (o : Outcome) : List UInt8 :=
  Utf8.encode ((o.fileRecords.map fun r => recordLine r ++ "\n").flatMap String.toList)

def filesWithLog (o : Outcome) : Files :=
  if o.log.any Log.Destination.includesFile then
    (o.files.write? Program.logPath o.logContent).getD o.files
  else o.files

end Outcome

end IdeaBoard.CommandLine
