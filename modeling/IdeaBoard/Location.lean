import IdeaBoard.Filter.QueryString

/-!
# IdeaBoard — locations

A location is a path, then a query string after `?`, then a fragment after `#`; the fragment is
of no interest here. A list page at a path with a filter has one location, without `?` where
the filter leaves nothing to write.
-/

namespace IdeaBoard.Location

open IdeaBoard.Text

/-- The text before the first separator, or all of it. -/
def before (sep : Char) (cs : List Char) : List Char :=
  match cutFirst? sep cs with
  | some (head, _) => head
  | none => cs

/-- Path and query string of a location, without its fragment. -/
def splitText (cs : List Char) : List Char × List Char :=
  let addressed := before '#' cs
  (cutFirst? '?' addressed).getD (addressed, [])

def split (location : String) : String × String :=
  let parts := splitText location.toList
  (String.ofList parts.1, String.ofList parts.2)

/-- The location of a path and a query string; an empty query string leaves no trace. -/
def withQuery (path query : String) : String :=
  if query.isEmpty then path else path ++ "?" ++ query

/-- The location of a list page at `path`, for a reader who takes `default` as the limit when
none is given. -/
def ofFilterWith (path : String) (filter : Filter) (default : UInt32) : String :=
  withQuery path (filter.encodeWith default)

end IdeaBoard.Location
