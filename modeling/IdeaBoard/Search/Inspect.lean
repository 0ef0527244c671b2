import IdeaBoard.Json.Inspect
import IdeaBoard.Search.Message

/-!
# IdeaBoard — messages as the log shows them

A message that reaches no list page is named in the log, with everything it carries.
-/

namespace IdeaBoard.Search

open IdeaBoard.Text

def inspectTags (ts : TagSet) : String :=
  "\x7b" ++ ", ".intercalate (ts.toList.map quoted) ++ "\x7d"

def Outcome.inspect : Outcome → String
  | .ok posts =>
    "Ok([" ++ ", ".intercalate (posts.map fun p => "Post(" ++ p.raw.inspect ++ ")") ++ "])"
  | .error e => "Err(" ++ quoted e ++ ")"

def Edit.inspect : Edit → String
  | .setQuery q => "QueryChanged(" ++ quoted q ++ ")"
  | .clearQuery => "SearchCleared"
  | .setView v => "ViewChanged(" ++ quoted v ++ ")"
  | .toggleTag t => "TagToggled(" ++ quoted t ++ ")"
  | .setTags ts => "TagsChanged(" ++ inspectTags ts ++ ")"

def Message.inspect : Message → String
  | .edit e => e.inspect
  | .showMore => "ShowMoreClicked"
  | .debounceElapsed g => "DebounceElapsed \x7b generation: " ++ numeral g ++ " \x7d"
  | .searchCompleted g outcome =>
    "SearchCompleted \x7b generation: " ++ numeral g ++ ", result: " ++ outcome.inspect ++ " \x7d"
  | .unmounted => "Unmounted"

end IdeaBoard.Search
