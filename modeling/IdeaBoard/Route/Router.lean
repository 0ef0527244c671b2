import IdeaBoard.Route.Pattern
import IdeaBoard.Route.Table
import IdeaBoard.Text.Quoted

/-!
# IdeaBoard — routers

A router is built from a route table whose ids differ and whose patterns can be built. It leads a
path, less one slash at its end, to the page of the first row whose pattern it belongs to.
-/

namespace IdeaBoard

open IdeaBoard.Text

structure Destination where
  id : String
  page : Page
  showChrome : Bool
deriving DecidableEq, Repr, Inhabited

/-- Why a route table is refused. -/
inductive Route.TableError where
  | duplicateId (id : String)
  | invalidPattern (pattern : String)
deriving DecidableEq, Repr

namespace Route.TableError

/-- The wording for a pattern that is refused, with the pattern and the reason as they are to be
shown. -/
def patternMessage (pattern reason : String) : String :=
  "pattern " ++ pattern ++ " does not compile: " ++ reason

def message : TableError → String
  | .duplicateId id => "page id " ++ quoted id ++ " is registered more than once"
  | .invalidPattern pattern =>
    patternMessage (quoted pattern) "Compiled regex exceeds size limit of 10485760 bytes."

end Route.TableError

def Route.destination (r : Route) : Destination := ⟨r.id, r.page, r.showChrome⟩

/-- A path that leads nowhere. -/
structure RouteNotFound where
  path : String
deriving DecidableEq, Repr

def RouteNotFound.message (e : RouteNotFound) : String := "no route matches path " ++ quoted e.path

/-- A row of a router: a pattern and where it leads. -/
structure Router.Row where
  pattern : Pattern
  destination : Destination
deriving DecidableEq, Repr

/-- The rows of an accepted route table. -/
structure Router where
  rows : List Router.Row
deriving DecidableEq, Repr

/-- A path less one slash at its end. -/
def normalizePath (path : List Char) : List Char :=
  match path.getLast? with
  | some '/' => path.dropLast
  | _ => path

namespace Router

/-- The rows of a table in which none of the ids `seen` may occur, or the first fault. -/
def rowsOf (seen : List String) : List Route → Except Route.TableError (List Row)
  | [] => .ok []
  | r :: rs =>
    if r.id ∈ seen then .error (.duplicateId r.id)
    else if !(Pattern.ofText r.pattern).isBuildable then .error (.invalidPattern r.pattern)
    else match rowsOf (r.id :: seen) rs with
      | .ok rows => .ok (⟨.ofText r.pattern, r.destination⟩ :: rows)
      | .error e => .error e

/-- The router for a table, or the first fault of the table. -/
def ofTable (table : List Route) : Except Route.TableError Router :=
  (rowsOf [] table).map Router.mk

def site : Router := ⟨Route.table.map fun r => ⟨.ofText r.pattern, r.destination⟩⟩

def resolve (router : Router) (path : String) : Except RouteNotFound Destination :=
  match router.rows.find? fun row => row.pattern.accepts (normalizePath path.toList) with
  | some row => .ok row.destination
  | none => .error ⟨path⟩

end Router

end IdeaBoard
