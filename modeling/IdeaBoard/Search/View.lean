import IdeaBoard.Search.State

/-!
# IdeaBoard — what a list page shows

The part of the state of a list page that can be seen.
-/

namespace IdeaBoard.Search

structure View where
  filter : Filter := {}
  phase : Phase := .idle
  /-- None while a changed filter loads. -/
  posts : Option (List Post) := none
  loading : Bool := false
  canShowMore : Bool := false
  lastError : Option String := none
  dirty : Bool := false
deriving DecidableEq, Inhabited

def State.view (s : State) : View where
  filter := s.filter
  phase := s.phase
  posts := s.posts
  loading := s.loading
  canShowMore := s.canShowMore
  lastError := s.lastError
  dirty := s.dirty

/-- The choice of view and tags is shown only while there is no free text. -/
def View.showsFilters (v : View) : Bool := v.filter.query.isEmpty

def View.postCount (v : View) : Nat :=
  match v.posts with
  | some posts => posts.length
  | none => 0

end IdeaBoard.Search
