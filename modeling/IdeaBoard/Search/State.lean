import IdeaBoard.Search.Request
import IdeaBoard.Location
import IdeaBoard.Post

/-!
# IdeaBoard — the search of a list page

The state of one mounted list page: the filter, the list on show, and where the search stands.
Each debounce or request cycle has a generation; only the latest may change the list. While a
changed filter loads, the list is hidden and put aside, so that a failure can bring it back.
-/

namespace IdeaBoard.Search

/-- The number of a debounce or request cycle. A page starts at zero and takes one number at most for
each message it gets, so that 64 bits hold them all below 2^64 messages. -/
abbrev Generation := Nat

inductive Phase where
  | idle
  | debouncing
  | awaitingResponse
deriving DecidableEq, Repr, Inhabited

structure Settings where
  /-- The quiet time, in milliseconds, before a changed filter is searched for. -/
  debounceMs : UInt64 := 200
  pageSize : UInt32 := defaultLimit
  /-- How many more ideas each request for more asks for. -/
  pageStep : UInt32 := 10
deriving DecidableEq, Repr, Inhabited

structure State where
  path : String
  settings : Settings
  filter : Filter
  phase : Phase := .idle
  generation : Generation := 0
  /-- The list on show; none while a changed filter loads. -/
  posts : Option (List Post)
  /-- The list put aside while none is on show. -/
  stashed : Option (List Post) := none
  loading : Bool := false
  lastError : Option String := none
  unmounted : Bool := false
  /-- Does the screen have to be drawn again? -/
  dirty : Bool := false
deriving DecidableEq, Inhabited

/-- The sum, or the largest number of 32 bits if that is less. -/
def saturatingAdd (a b : UInt32) : UInt32 := .ofNat (min (a.toNat + b.toNat) (UInt32.size - 1))

namespace State

/-- The page at `path` as the server delivers it with some posts, its filter read from a query
string. -/
def mount (path queryString : String) (posts : List Post) (settings : Settings) : State where
  path := path
  settings := settings
  filter := Filter.decode queryString
  posts := some posts

def effectiveLimit (s : State) : UInt32 := s.filter.limit.getD s.settings.pageSize

/-- A full list suggests that there is more. -/
def canShowMore (s : State) : Bool :=
  match s.posts with
  | some posts => decide (s.effectiveLimit.toNat ≤ posts.length)
  | none => false

/-- The location of the page with its filter. A limit equal to the page size is left out, for the
page comes back with that size anyway. -/
def location (s : State) : String :=
  Location.ofFilterWith s.path s.filter.normalized s.settings.pageSize

/-- The request for the ideas of the filter. The limit is left out only where it is the page size
of the site, which need not be the one of this page. -/
def request (s : State) : Request :=
  { Request.ofFilter s.filter with
    limit := if s.effectiveLimit = defaultLimit then none else some s.effectiveLimit }

/-! ### Transitions -/

/-- Starts a new cycle: what belongs to an earlier one no longer counts. -/
def nextGeneration (s : State) : State := { s with generation := s.generation + 1 }

/-- The filter has changed: start over from the first page, with the list put aside until the new
one arrives. -/
def restart (s : State) (filter : Filter) : State :=
  nextGeneration { s with
    filter := { filter with limit := none }
    -- where the list is hidden already, the one put aside stays there
    stashed := if s.posts.isSome then s.posts else s.stashed
    posts := none
    loading := true
    lastError := none
    phase := .debouncing
    dirty := true }

/-- Asks for a longer list, with the current one on show meanwhile. -/
def grow (s : State) : State :=
  nextGeneration { s with
    filter := { s.filter with limit := some (saturatingAdd s.effectiveLimit s.settings.pageStep) }
    loading := true
    lastError := none
    phase := .awaitingResponse
    dirty := true }

def beginRequest (s : State) : State := { s with phase := .awaitingResponse }

def commit (s : State) (posts : List Post) : State :=
  { s with
    posts := some posts
    stashed := none
    loading := false
    phase := .idle
    dirty := true }

/-- The request has failed: bring back the list shown last. -/
def fail (s : State) (error : String) : State :=
  { s with
    posts := if s.posts.isSome then s.posts else s.stashed
    stashed := if s.posts.isSome then s.stashed else none
    loading := false
    lastError := some error
    phase := .idle
    dirty := true }

def unmount (s : State) : State :=
  { s.nextGeneration with
    unmounted := true
    loading := false
    phase := .idle }

/-- Has the screen to be drawn again? After this it has been. -/
def consumeDirty (s : State) : Bool × State := (s.dirty, { s with dirty := false })

end State

end IdeaBoard.Search
