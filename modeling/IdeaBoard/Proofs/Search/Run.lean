import IdeaBoard.Search.Update

/-!
# IdeaBoard — runs of a list page

A list page takes one message after the other. What one message can do is said once, by `Step`; what
holds of a whole run follows by `run_induction`.

* **`Step`** — the moves of a page: a message is ignored, or it starts the search over, asks for more,
  asks the server, settles the search, or closes the page, each with the effects it asks for.
* **`update_step`** — every message makes one of these moves.
* **`run` / `run_induction`** — a run with all its effects; a statement about the state and the effects
  so far holds after every run if it holds at the start and every move keeps it.
-/

namespace IdeaBoard.Search

/-! ## What goes into the history -/

def Effect.location? : Effect → Option String
  | .replaceLocation l => some l
  | _ => none

def locations (es : List Effect) : List String := es.filterMap Effect.location?

@[simp] theorem locations_append (es fs : List Effect) :
    locations (es ++ fs) = locations es ++ locations fs := List.filterMap_append

namespace State

/-! ## Where the transitions lead -/

@[simp] theorem path_mount (path queryString : String) (posts : List Post) (settings : Settings) :
    (mount path queryString posts settings).path = path := rfl

@[simp] theorem phase_restart (s : State) (f : Filter) : (s.restart f).phase = .debouncing := rfl

@[simp] theorem filter_restart (s : State) (f : Filter) :
    (s.restart f).filter = { f with limit := none } := rfl

@[simp] theorem loading_restart (s : State) (f : Filter) : (s.restart f).loading = true := rfl

@[simp] theorem limit_grow (s : State) :
    s.grow.filter.limit = some (saturatingAdd s.effectiveLimit s.settings.pageStep) := rfl

@[simp] theorem phase_grow (s : State) : s.grow.phase = .awaitingResponse := rfl

@[simp] theorem loading_grow (s : State) : s.grow.loading = true := rfl

@[simp] theorem phase_beginRequest (s : State) : s.beginRequest.phase = .awaitingResponse := rfl

@[simp] theorem phase_unmount (s : State) : s.unmount.phase = .idle := rfl

@[simp] theorem loading_unmount (s : State) : s.unmount.loading = false := rfl

/-- The page with the end of its request taken up: an answer is put on show, and a failure brings
back the list shown last. -/
def settle (s : State) : Outcome → State
  | .ok posts => s.commit posts
  | .error e => s.fail e

@[simp] theorem phase_settle (s : State) (outcome : Outcome) : (s.settle outcome).phase = .idle := by
  cases outcome <;> rfl

@[simp] theorem generation_settle (s : State) (outcome : Outcome) :
    (s.settle outcome).generation = s.generation := by
  cases outcome <;> rfl

/-! ## One message -/

/-- The messages that a page ignores: all of them once it has gone away, and before that an edit that
changes nothing, and a timer or an answer that is not the one waited for. -/
def Ignores (s : State) (m : Message) : Prop :=
  s.unmounted = true ∨
    match m with
    | .edit e => e.change? s.filter = none
    | .debounceElapsed g => ¬(g = s.generation ∧ s.phase = .debouncing)
    | .searchCompleted g _ => ¬(g = s.generation ∧ s.phase = .awaitingResponse)
    | .showMore => False
    | .unmounted => False

/-- The moves of a page on a message, with the state they lead to and the effects they ask for. -/
inductive Step (s : State) : Message → State → List Effect → Prop where
  | ignored {m : Message} (h : s.Ignores m) : Step s m s []
  | edited {e : Edit} {f : Filter} (mounted : s.unmounted = false)
      (change : e.change? s.filter = some f) :
      Step s (.edit e) (s.restart f)
        [.cancelPending, .replaceLocation (s.restart f).location,
          .scheduleSearch (s.generation + 1) s.settings.debounceMs]
  | grown (mounted : s.unmounted = false) :
      Step s .showMore s.grow
        [.cancelPending, .replaceLocation s.grow.location,
          .searchPosts (s.generation + 1) s.grow.request]
  | asked (mounted : s.unmounted = false) (phase : s.phase = .debouncing) :
      Step s (.debounceElapsed s.generation) s.beginRequest
        [.searchPosts s.generation s.beginRequest.request]
  | settled (mounted : s.unmounted = false) (phase : s.phase = .awaitingResponse)
      (outcome : Outcome) :
      Step s (.searchCompleted s.generation outcome) (s.settle outcome) []
  | closed (mounted : s.unmounted = false) : Step s .unmounted s.unmount [.cancelPending]

/-- The end of a quiet time asks the server where it is the one waited for. -/
theorem debounceElapsed_step {s : State} (mounted : s.unmounted = false) (g : Generation) :
    Step s (.debounceElapsed g) (s.debounceElapsed g).1 (s.debounceElapsed g).2 := by
  unfold debounceElapsed
  split
  · next h =>
    obtain ⟨rfl, phase⟩ := h
    exact .asked mounted phase
  · next h => exact .ignored (.inr h)

/-- The end of a request settles the page where it is the one waited for. -/
theorem searchCompleted_step {s : State} (mounted : s.unmounted = false) (g : Generation)
    (outcome : Outcome) :
    Step s (.searchCompleted g outcome) (s.searchCompleted g outcome) [] := by
  unfold searchCompleted
  split
  · next h =>
    obtain ⟨rfl, phase⟩ := h
    cases outcome with
    | ok posts => exact .settled mounted phase (.ok posts)
    | error e => exact .settled mounted phase (.error e)
  · next h => exact .ignored (.inr h)

/-- **Every message makes one of the moves.** -/
theorem update_step (s : State) (m : Message) : Step s m (s.update m).1 (s.update m).2 := by
  unfold update
  split
  · next hgone => exact .ignored (.inl hgone)
  · next hmounted =>
    have mounted : s.unmounted = false := by simpa using hmounted
    cases m with
    | edit e =>
      cases hchange : e.change? s.filter with
      | none =>
        simp only [hchange]
        exact .ignored (.inr hchange)
      | some f =>
        simp only [hchange]
        exact .edited mounted hchange
    | showMore => exact .grown mounted
    | debounceElapsed g => exact debounceElapsed_step mounted g
    | searchCompleted g outcome => exact searchCompleted_step mounted g outcome
    | unmounted => exact .closed mounted

/-- A page does nothing on a message that it ignores. -/
theorem update_of_ignores {s : State} {m : Message} (h : s.Ignores m) : s.update m = (s, []) := by
  unfold update
  by_cases hgone : s.unmounted = true
  · rw [if_pos hgone]
  · rw [if_neg hgone]
    have hreason := h.resolve_left hgone
    -- each message is ignored for a reason of its own; the last two never are
    cases m with
    | edit e => simp only [hreason]
    | showMore => exact absurd hreason (by simp)
    | debounceElapsed g => simp only [debounceElapsed, if_neg hreason]
    | searchCompleted g outcome => simp only [searchCompleted, if_neg hreason]
    | unmounted => exact absurd hreason (by simp)

/-- Only its last message takes a page away. -/
theorem Step.mounted {s u : State} {m : Message} {fs : List Effect} (move : Step s m u fs)
    (mounted : s.unmounted = false) (stays : m ≠ .unmounted) : u.unmounted = false := by
  cases move with
  | ignored => exact mounted
  | edited => exact mounted
  | grown => exact mounted
  | asked => exact mounted
  | settled _ _ outcome => cases outcome <;> exact mounted
  | closed => exact absurd rfl stays

/-- No message moves a page to another path or gives it other settings. -/
theorem Step.fixed {s u : State} {m : Message} {fs : List Effect} (move : Step s m u fs) :
    u.path = s.path ∧ u.settings = s.settings := by
  cases move with
  | settled _ _ outcome => cases outcome <;> exact ⟨rfl, rfl⟩
  | _ => exact ⟨rfl, rfl⟩

/-- A page that goes away has its timer and its request stopped. -/
theorem update_unmounted {s : State} (mounted : s.unmounted = false) :
    s.update .unmounted = (s.unmount, [.cancelPending]) := by
  unfold update
  rw [mounted]
  rfl

/-- The page takes up the end of the request of generation `g`. -/
def Accepts (s : State) (g : Generation) : Prop :=
  s.unmounted = false ∧ g = s.generation ∧ s.phase = .awaitingResponse

instance (s : State) (g : Generation) : Decidable (s.Accepts g) :=
  inferInstanceAs (Decidable (_ ∧ _ ∧ _))

/-- The end of a request that is taken up settles the page, and asks for nothing. -/
theorem update_of_accepts {s : State} {g : Generation} (h : s.Accepts g) (outcome : Outcome) :
    s.update (.searchCompleted g outcome) = (s.settle outcome, []) := by
  obtain ⟨mounted, live⟩ := h
  unfold update
  rw [mounted, if_neg Bool.false_ne_true]
  show (s.searchCompleted g outcome, []) = _
  unfold searchCompleted
  rw [if_pos live]
  cases outcome <;> rfl

/-- The end of a request is ignored just when it is not taken up. -/
theorem ignores_searchCompleted {s : State} {g : Generation} {outcome : Outcome} :
    s.Ignores (.searchCompleted g outcome) ↔ ¬s.Accepts g := by
  constructor
  · rintro (hgone | hstale) ⟨mounted, live⟩
    · rw [mounted] at hgone
      exact absurd hgone (by decide)
    · exact hstale live
  · intro hnot
    cases hgone : s.unmounted with
    | true => exact .inl hgone
    | false => exact .inr fun live => hnot ⟨hgone, live⟩

theorem update_of_not_accepts {s : State} {g : Generation} (h : ¬s.Accepts g) (outcome : Outcome) :
    s.update (.searchCompleted g outcome) = (s, []) :=
  update_of_ignores (ignores_searchCompleted.mpr h)

/-- Only the end of a request that is taken up puts posts on show or records a failure. -/
theorem Step.shows {s u : State} {m : Message} {fs : List Effect} (move : Step s m u fs)
    (hnot : ∀ g outcome, m = .searchCompleted g outcome → ¬s.Accepts g) :
    (u.posts = s.posts ∨ u.posts = none) ∧ (u.lastError = s.lastError ∨ u.lastError = none) := by
  cases move with
  | ignored => exact ⟨.inl rfl, .inl rfl⟩
  | edited => exact ⟨.inr rfl, .inr rfl⟩
  | grown => exact ⟨.inl rfl, .inr rfl⟩
  | asked => exact ⟨.inl rfl, .inl rfl⟩
  -- this is the one move that shows something, and it is ruled out
  | settled mounted phase outcome => exact absurd ⟨mounted, rfl, phase⟩ (hnot _ outcome rfl)
  | closed => exact ⟨.inl rfl, .inl rfl⟩

/-! ## Many messages -/

/-- The state after some messages, and all the effects that were asked for on the way. -/
def run (s : State) : List Message → State × List Effect
  | [] => (s, [])
  | m :: ms => (((s.update m).1.run ms).1, (s.update m).2 ++ ((s.update m).1.run ms).2)

/-- A run goes on from the state that the messages before it lead to. -/
theorem run_append (s : State) (ms ns : List Message) :
    s.run (ms ++ ns) = (((s.run ms).1.run ns).1, (s.run ms).2 ++ ((s.run ms).1.run ns).2) := by
  induction ms generalizing s with
  | nil => rfl
  | cons m ms ih =>
    rw [List.cons_append, run, ih]
    simp [run]

/-- The last message of a run acts on the state that the others lead to. -/
theorem run_concat (s : State) (ms : List Message) (m : Message) :
    s.run (ms ++ [m]) =
      (((s.run ms).1.update m).1, (s.run ms).2 ++ ((s.run ms).1.update m).2) := by
  rw [run_append]
  simp [run]

/-- Messages that are all ignored change nothing, however many they are. -/
theorem run_of_ignores {s : State} {ms : List Message} (h : ∀ m ∈ ms, s.Ignores m) :
    s.run ms = (s, []) := by
  induction ms with
  | nil => rfl
  | cons m ms ih =>
    rw [run, update_of_ignores (h m List.mem_cons_self)]
    show ((s.run ms).1, [] ++ (s.run ms).2) = (s, [])
    rw [ih fun n hn => h n (List.mem_cons_of_mem _ hn)]
    rfl

/-- One message amid others that change nothing. -/
theorem run_amid {s t : State} {ms ns : List Message} {m : Message} {es : List Effect}
    (before : s.run ms = (s, [])) (own : s.update m = (t, es)) (after : t.run ns = (t, [])) :
    s.run (ms ++ m :: ns) = (t, es) := by
  rw [run_append, before, run, own]
  simp only [after, List.append_nil, List.nil_append]

/-- **A statement that holds at the start, and that every move keeps, holds after every run.** `P` may
look at the messages so far, the state they lead to and all effects so far. -/
theorem run_induction {P : List Message → State → List Effect → Prop} {s : State} (start : P [] s [])
    (step : ∀ (ms : List Message) (m : Message) (t u : State) (es fs : List Effect),
      t = (s.run ms).1 → P ms t es → Step t m u fs → P (ms ++ [m]) u (es ++ fs))
    (ms : List Message) : P ms (s.run ms).1 (s.run ms).2 := by
  -- the last message first: the invariant is about everything up to it
  rw [← List.reverse_reverse ms]
  induction ms.reverse with
  | nil => exact start
  | cons m ns ih =>
    rw [List.reverse_cons, run_concat]
    exact step ns.reverse m _ _ _ _ rfl ih (update_step _ m)

/-- No run moves a page to another path or gives it other settings. -/
theorem fixed_run (s : State) (ms : List Message) :
    (s.run ms).1.path = s.path ∧ (s.run ms).1.settings = s.settings := by
  refine run_induction (P := fun _ t _ => t.path = s.path ∧ t.settings = s.settings) ⟨rfl, rfl⟩ ?_ ms
  intro _ m t u _ fs _ h move
  exact ⟨move.fixed.1.trans h.1, move.fixed.2.trans h.2⟩

/-- A failure is forgotten once the page waits again. -/
theorem lastError_run (path queryString : String) (posts : List Post) (settings : Settings)
    (ms : List Message) :
    ((mount path queryString posts settings).run ms).1.phase ≠ .idle →
      ((mount path queryString posts settings).run ms).1.lastError = none := by
  refine run_induction (P := fun _ s _ => s.phase ≠ .idle → s.lastError = none)
    (fun _ => rfl) ?_ ms
  intro _ m t u _ fs _ quiet move
  cases move with
  | ignored => exact quiet
  | edited => exact fun _ => rfl
  | grown => exact fun _ => rfl
  -- the page waited for its timer before, so there was no failure to forget
  | asked _ phase =>
    refine fun _ => quiet ?_
    rw [phase]
    decide
  | settled _ _ outcome => exact fun h => absurd (phase_settle t outcome) h
  | closed => exact fun h => absurd rfl h

end State

end IdeaBoard.Search
