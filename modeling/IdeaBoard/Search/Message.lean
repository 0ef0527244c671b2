import IdeaBoard.Search.State

/-!
# IdeaBoard — what happens to a list page, and what it asks for

Messages tell a page what the reader did and what came of its requests; effects are what the page
asks its surroundings to do.
-/

namespace IdeaBoard.Search

/-- A change of the filter by the reader. -/
inductive Edit where
  /-- The text in the search box is now this. -/
  | setQuery (query : String)
  /-- The search box was emptied by its cancel button. -/
  | clearQuery
  | setView (view : String)
  | toggleTag (tag : String)
  /-- The whole selection of tags is now this. -/
  | setTags (tags : TagSet)
deriving DecidableEq

/-- What the server answered: a list of posts, or the text of what went wrong. -/
abbrev Outcome := Except String (List Post)

inductive Message where
  | edit (e : Edit)
  /-- The reader asked for more ideas. -/
  | showMore
  /-- The timer of a generation ran out. -/
  | debounceElapsed (generation : Generation)
  /-- The request of a generation came to its end. -/
  | searchCompleted (generation : Generation) (outcome : Outcome)
  /-- The page goes away. -/
  | unmounted

inductive Effect where
  /-- Stop the timer and the request that are still under way. -/
  | cancelPending
  /-- Replace the current entry of the history. -/
  | replaceLocation (location : String)
  /-- Start the timer of a generation. -/
  | scheduleSearch (generation : Generation) (delayMs : UInt64)
  /-- Ask the server, for a generation. -/
  | searchPosts (generation : Generation) (request : Request)
deriving DecidableEq

end IdeaBoard.Search
