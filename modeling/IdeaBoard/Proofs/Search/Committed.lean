import IdeaBoard.Proofs.Search.Run

/-!
# IdeaBoard — the list shown last

While a changed filter loads, the list is hidden and put aside; an answer takes its place, a failure
brings it back. Edits can follow each other before any answer, the reader can ask for more while the
list is hidden, and failure can follow failure: the list committed last is always in one place.

* **`committed`** — the list committed last over a run: that of the last answer taken up, or the one
  that the page was mounted with.
* **`Holds`** — a list is on show and none is put aside, or it is put aside and none is on show.
* **`Holds.step`** / **`Holds.run`** — every move, and so every run, keeps hold of the list committed
  last.
* **`committed_list_kept`** — what it says of failures and answers at any point of a run.
-/

namespace IdeaBoard.Search.State

/-! ## The list committed last -/

def commit? (s : State) : Message → Option (List Post)
  | .searchCompleted g (.ok posts) => if s.Accepts g then some posts else none
  | _ => none

/-- The list committed last, after some messages to a page that has last committed `shown`. -/
def committed (s : State) (shown : List Post) : List Message → List Post
  | [] => shown
  | m :: ms => (s.update m).1.committed ((s.commit? m).getD shown) ms

/-- What is committed last after more messages starts from what was before them. -/
theorem committed_append (s : State) (shown : List Post) (ms ns : List Message) :
    s.committed shown (ms ++ ns) = (s.run ms).1.committed (s.committed shown ms) ns := by
  induction ms generalizing s shown with
  | nil => rfl
  | cons m ms ih => exact ih _ _

theorem committed_concat (s : State) (shown : List Post) (ms : List Message) (m : Message) :
    s.committed shown (ms ++ [m]) =
      ((s.run ms).1.commit? m).getD (s.committed shown ms) := committed_append s shown ms [m]

/-- A message that is ignored commits nothing. -/
theorem commit?_of_ignores {s : State} {m : Message} (h : s.Ignores m) : s.commit? m = none := by
  cases m with
  | searchCompleted g outcome =>
    cases outcome with
    | ok posts => exact if_neg (ignores_searchCompleted.mp h)
    | error e => rfl
  | edit e => rfl
  | showMore => rfl
  | debounceElapsed g => rfl
  | unmounted => rfl

/-! ## One place for the list -/

/-- The list is on show and none is put aside, or it is put aside and none is on show. -/
def Holds (s : State) (list : List Post) : Prop :=
  (s.posts = some list ∧ s.stashed = none) ∨ (s.posts = none ∧ s.stashed = some list)

variable {s : State} {list : List Post}

/-- A page that is mounted has the list on show that it was given. -/
theorem holds_mount (path queryString : String) (posts : List Post) (settings : Settings) :
    (mount path queryString posts settings).Holds posts := .inl ⟨rfl, rfl⟩

/-- A changed filter hides the list; where it is hidden already, it stays aside. -/
theorem Holds.restart (h : s.Holds list) (f : Filter) :
    (s.restart f).posts = none ∧ (s.restart f).stashed = some list := by
  refine ⟨rfl, ?_⟩
  show (if s.posts.isSome then s.posts else s.stashed) = some list
  -- on show it is put aside; put aside already, it stays there
  rcases h with ⟨hposts, _⟩ | ⟨hposts, hstashed⟩
  · rw [hposts]
    rfl
  · rw [hposts, hstashed]
    rfl

/-- A failure brings the list back, or leaves it on show. -/
theorem Holds.fail (h : s.Holds list) (e : String) :
    (s.fail e).posts = some list ∧ (s.fail e).stashed = none := by
  show (if s.posts.isSome then s.posts else s.stashed) = some list ∧
    (if s.posts.isSome then s.stashed else none) = none
  rcases h with ⟨hposts, hstashed⟩ | ⟨hposts, hstashed⟩
  · rw [hposts, hstashed]
    exact ⟨rfl, rfl⟩
  · rw [hposts, hstashed]
    exact ⟨rfl, rfl⟩

/-- **Every move keeps hold of the list committed last.** -/
theorem Holds.step {u : State} {m : Message} {fs : List Effect} (h : s.Holds list)
    (move : Step s m u fs) : u.Holds ((s.commit? m).getD list) := by
  cases move with
  | ignored hignored =>
    rw [commit?_of_ignores hignored]
    exact h
  | edited => exact .inr (h.restart _)
  -- the other moves that commit nothing leave both lists where they are
  | grown => exact h
  | asked => exact h
  | closed => exact h
  | settled mounted phase outcome =>
    -- an answer takes the place of the list on both sides; a failure brings it back
    cases outcome with
    | ok posts =>
      have hcommit : s.commit? (.searchCompleted s.generation (.ok posts)) = some posts :=
        if_pos ⟨mounted, rfl, phase⟩
      rw [hcommit]
      exact .inl ⟨rfl, rfl⟩
    | error e => exact .inl (h.fail e)

/-- **A run keeps hold of the list committed last.** -/
theorem Holds.run (h : s.Holds list) (ms : List Message) :
    (s.run ms).1.Holds (s.committed list ms) := by
  -- over the messages, by one move at a time
  refine run_induction (P := fun ms t _ => t.Holds (s.committed list ms)) h ?_ ms
  intro ms m t u es fs reached held move
  rw [committed_concat, ← reached]
  exact held.step move

/-- **Over every run from the mounting of a page on, the list committed last is on show or put aside,
and no other list is either. So a failure that is taken up leaves that list on show whatever came
before it, and an answer that is taken up leaves nothing put aside.** -/
theorem committed_list_kept (path queryString : String) (posts : List Post) (settings : Settings)
    (ms : List Message) :
    let start := mount path queryString posts settings
    let s := (start.run ms).1
    let last := start.committed posts ms
    ((s.posts = some last ∧ s.stashed = none) ∨ (s.posts = none ∧ s.stashed = some last)) ∧
    (∀ g e, s.Accepts g →
      let t := (s.update (.searchCompleted g (.error e))).1
      t.posts = some last ∧ t.stashed = none ∧ t.lastError = some e) ∧
    (∀ g answer, s.Accepts g →
      let t := (s.update (.searchCompleted g (.ok answer))).1
      t.posts = some answer ∧ t.stashed = none) ∧
    (∀ g outcome, ¬s.Accepts g → s.update (.searchCompleted g outcome) = (s, [])) := by
  intro start s last
  have held : s.Holds last := (holds_mount path queryString posts settings).run ms
  refine ⟨held, ?failed, ?answered, fun g outcome hnot => update_of_not_accepts hnot outcome⟩
  case failed =>
    intro g e haccepts
    rw [update_of_accepts haccepts]
    obtain ⟨hposts, hstashed⟩ := held.fail e
    exact ⟨hposts, hstashed, rfl⟩
  case answered =>
    intro g answer haccepts
    rw [update_of_accepts haccepts]
    exact ⟨rfl, rfl⟩

/-- Two edits before any answer, a request for more while the list is hidden, a failure, and the same
once more: the second failure brings back the one list that was ever answered. -/
theorem committed_list_kept_twice :
    let ms : List Message := [.showMore, .searchCompleted 1 (.ok [⟨.string "kept"⟩]),
      .edit (.setQuery "a"), .edit (.setQuery "b"), .showMore, .searchCompleted 4 (.error "lost"),
      .edit (.setView "recent"), .searchCompleted 4 (.ok []), .debounceElapsed 5]
    let s := ((mount "/" "" [] {}).run ms).1
    s.Accepts 5 ∧ s.posts = none ∧
      (s.update (.searchCompleted 5 (.error "lost"))).1.posts = some [⟨.string "kept"⟩] := by
  intro ms s
  have accepts : s.Accepts 5 := by decide +kernel
  refine ⟨accepts, by decide +kernel, ?_⟩
  exact ((committed_list_kept "/" "" [] {} ms).2.1 5 "lost" accepts).1

end IdeaBoard.Search.State
