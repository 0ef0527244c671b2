import IdeaBoard.Search.Message

/-!
# IdeaBoard — how a list page changes

The next state of a page after a message, and the effects it asks for. An edit that changes
nothing is ignored; any other starts the search over. Of timers and answers only those of the
current generation count, and only in the phase that waits for them.
-/

namespace IdeaBoard.Search

/-- The filter after an edit, or none where the edit leaves it as it is. -/
def Edit.change? (f : Filter) : Edit → Option Filter
  | .setQuery q => if f.query = q then none else some { f with query := q }
  | .clearQuery => if f.query.isEmpty then none else some { f with query := "" }
  | .setView v => if f.view = v then none else some { f with view := v }
  -- flipping a tag always changes the selection, unless it is the empty one
  | .toggleTag t => if t.isEmpty then none else some { f with tags := f.tags.toggle t }
  | .setTags ts =>
    let tags := ts.filter fun t => !t.isEmpty
    if f.tags = tags then none else some { f with tags := tags }

namespace State

def restartWith (s : State) (f : Filter) : State × List Effect :=
  let s := s.restart f
  (s, [.cancelPending, .replaceLocation s.location,
    .scheduleSearch s.generation s.settings.debounceMs])

def showMore (s : State) : State × List Effect :=
  let s := s.grow
  (s, [.cancelPending, .replaceLocation s.location, .searchPosts s.generation s.request])

def debounceElapsed (s : State) (g : Generation) : State × List Effect :=
  -- a timer of an earlier cycle may run out late
  if g = s.generation ∧ s.phase = .debouncing then
    let s := s.beginRequest
    (s, [.searchPosts g s.request])
  else (s, [])

def searchCompleted (s : State) (g : Generation) (outcome : Outcome) : State :=
  if g = s.generation ∧ s.phase = .awaitingResponse then
    match outcome with
    | .ok posts => s.commit posts
    | .error e => s.fail e
  else s

/-- The state after a message, and the effects that it asks for. Nothing happens to a page that
has gone away. -/
def update (s : State) (m : Message) : State × List Effect :=
  if s.unmounted then (s, [])
  else match m with
    | .edit e =>
      match e.change? s.filter with
      | none => (s, [])
      | some f => s.restartWith f
    | .showMore => s.showMore
    | .debounceElapsed g => s.debounceElapsed g
    | .searchCompleted g outcome => (s.searchCompleted g outcome, [])
    | .unmounted => (s.unmount, [.cancelPending])

end State

end IdeaBoard.Search
