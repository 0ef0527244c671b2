import IdeaBoard.Command
import IdeaBoard.Engine
import IdeaBoard.History
import IdeaBoard.Log
import IdeaBoard.Screen
import IdeaBoard.Search.Inspect
import IdeaBoard.Search.Update

/-!
# IdeaBoard — a session

A session goes from page to page: it keeps the history, and the list page that is open, if one
is. Lines of input and events of the engine change it; what it prints, what it logs and what it
tells the engine are its outputs, in their order.
-/

namespace IdeaBoard

open IdeaBoard.Text

inductive Output where
  /-- A text that is printed. -/
  | print (text : String)
  | log (record : Log.Record)
  | engine (command : Engine.Command)

structure Session where
  bootstrap : Bootstrap := {}
  settings : Search.Settings := {}
  history : History
  /-- The list page that is open. -/
  page : Option Search.State := none
  /-- How many navigations there have been. -/
  navigations : Nat := 0

namespace Session

/-- A session before its first navigation, which leads to `location`. -/
def start (bootstrap : Bootstrap) (settings : Search.Settings) (location : String) : Session where
  bootstrap := bootstrap
  settings := settings
  history := .start location

def note (s : Session) (level : Log.Level) (message : String) : Output :=
  .log ⟨level, s.navigations, message⟩

def printed (lines : List String) : List Output := lines.map .print

/-! ### Effects -/

def timerNote (g : Search.Generation) (delayMs : UInt64) : String :=
  "arming debounce generation=" ++ numeral g ++ " delay_ms=" ++ numeral delayMs.toNat

def requestNote (g : Search.Generation) (r : Search.Request) : String :=
  "searching generation=" ++ numeral g ++ " query=" ++ quoted r.query ++ " view=" ++
    quoted r.view ++ " tags=" ++ numeral r.tags.size ++ " limit=" ++
    maybeNumeral (r.limit.map UInt32.toNat)

def perform (s : Session) : Search.Effect → Session × List Output
  | .cancelPending => (s, [.engine .cancelPending])
  | .replaceLocation l =>
    ({ s with history := s.history.replace l }, [s.note .info ("replaceState " ++ l)])
  | .scheduleSearch g delayMs =>
    (s, [s.note .debug (timerNote g delayMs), .engine (.start (.timer g delayMs))])
  | .searchPosts g r => (s, [s.note .info (requestNote g r), .engine (.start (.request g r))])

def performAll (s : Session) : List Search.Effect → Session × List Output
  | [] => (s, [])
  | e :: es =>
    let (s, out) := s.perform e
    let (s, rest) := s.performAll es
    (s, out ++ rest)

/-! ### Messages -/

/-- Lets a message reach the page, which is drawn again if it has changed. -/
def dispatch (s : Session) (m : Search.Message) : Session × List Output :=
  match s.page with
  | none => (s, [s.note .debug ("no search on this page; dropping " ++ m.inspect)])
  | some state =>
    let (state, effects) := state.update m
    let (s, out) := s.performAll effects
    -- the page is drawn once for all that the message has changed
    let (dirty, state) := state.consumeDirty
    ({ s with page := some state },
      out ++ if dirty then printed (Screen.search state.view) else [])

def unmount (s : Session) : Session × List Output :=
  match s.page with
  | none => (s, [])
  | some state => ({ s with page := none } : Session).performAll (state.update .unmounted).2

/-! ### Navigation -/

def openedNote (s : Session) (location : String) (d : Destination) : String :=
  "navigated to " ++ location ++ " -> page " ++ d.id ++ " (chrome: " ++
    (if d.showChrome then "true" else "false") ++ ", history depth " ++ numeral s.history.size ++
    ")"

/-- Opens the page at a location that the history has already. -/
def openPage (s : Session) (location : String) : Session × List Output :=
  let (path, query) := Location.split location
  match Router.site.resolve path with
  | .error e => (s, s.note .warn e.message :: printed (Screen.notFound location))
  | .ok d =>
    let opened := s.note .info (s.openedNote location d) :: printed (Screen.page d s.bootstrap)
    if d.page = .home then
      let state := Search.State.mount (if path.isEmpty then "/" else path) query
        s.bootstrap.initialPosts s.settings
      ({ s with page := some state }, opened ++ printed (Screen.search state.view))
    else (s, opened)

/-- Closes the page and opens the one at a location that the history has already. -/
def navigate (s : Session) (location : String) : Session × List Output :=
  -- the page that is open is closed first, by commands to the engine that the next one shares
  let (s, closed) := s.unmount
  let (s, opened) := { s with navigations := s.navigations + 1 }.openPage location
  (s, closed ++ opened)

/-! ### Lines and events -/

/-- The answer to a line that is no command. -/
def unknownCommand : String := "unknown command; type \x60help\x60"

/-- Handles a line; none where the line asks to leave. -/
def handle (s : Session) (line : String) : Option (Session × List Output) :=
  match Command.parse? line with
  | some (.page m) => some (s.dispatch m)
  | some (.navigate l) => some ({ s with history := s.history.push l }.navigate l)
  | some .whereAmI => some (s, [.print s.history.current])
  | some .help => some (s, [.print Command.helpText])
  | some .quit => none
  | none =>
    if isBlankText line.toList then some (s, []) else some (s, [.print unknownCommand])

/-- Lets an event of the engine reach the page; a failure is logged first. -/
def receive (s : Session) : Engine.Event → Session × List Output
  | .debounceElapsed g => s.dispatch (.debounceElapsed g)
  | .searchCompleted g (.ok posts) => s.dispatch (.searchCompleted g (.ok posts))
  | .searchCompleted g (.error failure) =>
    let (next, out) := s.dispatch (.searchCompleted g (.error failure.text))
    (next, s.note .warn ("search generation=" ++ numeral g ++ " failed: " ++ failure.text) :: out)

/-- Where the search of the open page stands; idle where no list page is open. -/
def phase (s : Session) : Search.Phase :=
  match s.page with
  | some state => state.phase
  | none => .idle

def isSettled (s : Session) : Bool := s.phase = .idle

end Session

end IdeaBoard
