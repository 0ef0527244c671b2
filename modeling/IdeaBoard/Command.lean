import IdeaBoard.Search.Message
import IdeaBoard.Text.Split

/-!
# IdeaBoard — input lines

A line starts with a command word; what follows the first space after it is the argument. White
space in front of the word and line ends after the line do not count. A search keeps its argument
as it is, all other commands trim theirs.
-/

namespace IdeaBoard

open IdeaBoard.Text

/-- What a line asks for. -/
inductive Command where
  /-- Something that happens to the page. -/
  | page (m : Search.Message)
  | navigate (location : String)
  | whereAmI
  | help
  | quit

namespace Command

inductive Verb where
  | search | clear | view | tag | tags | more | go | whereAmI | help | quit
deriving DecidableEq, Repr

def Verb.named? (word : String) : Option Verb :=
  match word with
  | "search" => some .search
  | "clear" => some .clear
  | "view" => some .view
  | "tag" => some .tag
  | "tags" => some .tags
  | "more" => some .more
  | "go" => some .go
  | "where" => some .whereAmI
  | "help" => some .help
  | "quit" => some .quit
  | "exit" => some .quit
  | _ => none

/-- The characters that end a line. -/
def isLineEnd (c : Char) : Bool := c = '\r' || c = '\n'

/-- The command word and the argument of a line. Without a space, the whole line is the word. -/
def wordAndArgument (line : List Char) : List Char × List Char :=
  let line := dropRight isLineEnd line
  (cutFirst? ' ' (trimLeft line)).getD (trim line, [])

/-- The tags of a list between commas; white space around them and empty pieces do not count. -/
def tagList (arg : List Char) : TagSet :=
  TagSet.ofList ((((pieces ',' arg).map trim).filter (· ≠ [])).map String.ofList)

/-- The command of a verb and its argument; a tag and a location may not be blank. -/
def of? (verb : Verb) (arg : List Char) : Option Command :=
  let trimmed := String.ofList (trim arg)
  match verb with
  | .search => some (.page (.edit (.setQuery (String.ofList arg))))
  | .clear => some (.page (.edit .clearQuery))
  | .view => some (.page (.edit (.setView trimmed)))
  | .tag => if trimmed.isEmpty then none else some (.page (.edit (.toggleTag trimmed)))
  | .tags => some (.page (.edit (.setTags (tagList arg))))
  | .more => some (.page .showMore)
  | .go => if trimmed.isEmpty then none else some (.navigate trimmed)
  | .whereAmI => some .whereAmI
  | .help => some .help
  | .quit => some .quit

/-- The command of a line, or none where there is no such command. -/
def parse? (line : String) : Option Command :=
  let parts := wordAndArgument line.toList
  (Verb.named? (String.ofList parts.1)).bind fun verb => of? verb parts.2

def helpLines : List String :=
  ["commands:",
   "  search <text>    type into the search box (empty text clears it)",
   "  clear            click the search box cancel icon",
   "  view <name>      pick a view, e.g. trending, recent, most-wanted",
   "  tag <id>         toggle one tag in the tags filter",
   "  tags <a,b,...>   set the whole tag selection",
   "  more             view more posts",
   "  go <location>    navigate, e.g. go /admin/tags or go /?view=recent",
   "  where            print the current location",
   "  help             show this text",
   "  quit             leave"]

def helpText : String := "\n".intercalate helpLines

end Command

end IdeaBoard
