import IdeaBoard.Search.View
import IdeaBoard.Route.Router
import IdeaBoard.Bootstrap

/-!
# IdeaBoard — the screen

The lines that are printed for a page: its frame, and for a list page the filter, the posts, and
where the search stands.
-/

namespace IdeaBoard.Screen

open IdeaBoard.Text

/-- The frame of a page: classes of the body, header, and the page itself. -/
def page (d : Destination) (b : Bootstrap) : List String :=
  (if b.bodyClasses.isEmpty then []
    else ["<body class=\"" ++ " ".intercalate b.bodyClasses ++ "\">"]) ++
  (if d.showChrome then
    ["== header (" ++ (match b.user with | some u => u.name | none => "anonymous") ++ ") =="]
    else []) ++
  ["[page " ++ d.id ++ "] " ++ d.page.name]

def notFound (location : String) : List String :=
  ["[page not-found] nothing lives at " ++ location]

def emptyText : String := "No results matched your search, try something different."

/-- The line of the filter: the free text, or else the view, the tags and the number of posts. -/
def filterLine (v : Search.View) : String :=
  if v.showsFilters then
    let view := if v.filter.view.isEmpty then "trending" else v.filter.view
    let tags :=
      if v.filter.tags.isEmpty then "any" else ", ".intercalate v.filter.tags.toList
    "view: " ++ view ++ " | tags: " ++ tags ++ " | showing " ++ numeral v.postCount
  else "search: " ++ quoted v.filter.query

/-- A text with spaces in front up to a width. -/
def padLeft (width : Nat) (s : String) : String :=
  String.ofList (List.replicate (width - s.length) ' ') ++ s

/-- The line of a post at a position, counted from zero. -/
def postLine (index : Nat) (p : Post) : String :=
  let title := p.title.getD "(untitled)"
  let place := padLeft 3 (numeral (index + 1)) ++ ". "
  match p.number with
  | some n => place ++ "#" ++ numeral n ++ " " ++ title
  | none => place ++ title

def postLinesFrom (index : Nat) : List Post → List String
  | [] => []
  | p :: ps => postLine index p :: postLinesFrom (index + 1) ps

def phaseLabel : Search.Phase → String
  | .idle => "idle"
  | .debouncing => "waiting for typing to settle"
  | .awaitingResponse => "waiting for server"

/-- The lines of the list: nothing while it is hidden, a note where it is empty and nothing is
under way. -/
def listLines (v : Search.View) : List String :=
  match v.posts with
  | none => []
  | some posts => if posts.isEmpty && !v.loading then [emptyText] else postLinesFrom 0 posts

def loadingLine (p : Search.Phase) : String := "... loading (" ++ phaseLabel p ++ ")"

def failureLine (error : String) : String := "! search failed: " ++ error

def moreLine : String := "> View more posts"

def search (v : Search.View) : List String :=
  filterLine v :: listLines v ++
    (if v.loading then [loadingLine v.phase] else []) ++
    (v.lastError.toList.map failureLine) ++
    if v.canShowMore then [moreLine] else []

end IdeaBoard.Screen
