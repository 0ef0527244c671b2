import IdeaBoard.Proofs.Search.Committed

/-!
# IdeaBoard — a burst of edits

A reader types, clears, picks a view and flips tags faster than timers and answers come back. Of all
that was started on the way only the last counts: the timers and answers of other generations may
arrive in any order, and repeatedly, without leaving a trace.

* **`Changes`** — some edit of a burst changes the filter. The page then waits for the quiet time of
  the last such edit (`debouncing_of_changes`), from whatever phase it started.
* **`run_timers`** — the timers that run out let it ask once, for the filter as it is.
* **`run_answers`** — of the answers it takes up the one to that request.
* **`Arrivals`** — all this in one sequence; `run_arrivals` says where each such sequence ends.
* **`last_write_wins`** — what comes of a burst, from every state that a mounted page can be in.
-/

namespace IdeaBoard.Search.State

variable {s : State}

/-! ## The burst -/

/-- Some edit of the list changes the filter that the edits before it leave. -/
def Changes (s : State) (es : List Edit) : Prop :=
  ∃ before e after, es = before ++ e :: after ∧
    (s.run ((before ++ [e]).map .edit)).1.filter ≠ (s.run (before.map .edit)).1.filter

/-- An edit closes no page, and a page that waits for its quiet time goes on to do so. -/
theorem update_edit (mounted : s.unmounted = false) (e : Edit) :
    (s.update (.edit e)).1.unmounted = false ∧
      (s.phase = .debouncing → (s.update (.edit e)).1.phase = .debouncing) := by
  have move := update_step s (.edit e)
  refine ⟨move.mounted mounted (by simp), fun phase => ?_⟩
  generalize s.update (.edit e) = r at move
  obtain ⟨u, fs⟩ := r
  cases move with
  | ignored => exact phase
  | edited => rfl

/-- Edits close no page, and leave one waiting that waits for its quiet time. -/
theorem run_edits (mounted : s.unmounted = false) (es : List Edit) :
    (s.run (es.map .edit)).1.unmounted = false ∧
      (s.phase = .debouncing → (s.run (es.map .edit)).1.phase = .debouncing) := by
  -- on the edits still to come, from whatever state those before them leave
  induction es generalizing s with
  | nil => exact ⟨mounted, id⟩
  | cons e es ih =>
    obtain ⟨hmounted, hphase⟩ := update_edit mounted e
    obtain ⟨hmounted', hphase'⟩ := ih hmounted
    exact ⟨hmounted', fun phase => hphase' (hphase phase)⟩

/-- An edit that changes the filter starts a quiet time. -/
theorem debouncing_of_filter_ne {e : Edit} (h : (s.update (.edit e)).1.filter ≠ s.filter) :
    (s.update (.edit e)).1.phase = .debouncing := by
  have move := update_step s (.edit e)
  generalize s.update (.edit e) = r at move h
  obtain ⟨u, fs⟩ := r
  -- an edit that is ignored leaves the filter alone
  cases move with
  | ignored => exact absurd rfl h
  | edited => rfl

/-- **After a burst that changes the filter somewhere, the page waits for its quiet time.** -/
theorem debouncing_of_changes (mounted : s.unmounted = false) {es : List Edit}
    (changes : s.Changes es) : (s.run (es.map .edit)).1.phase = .debouncing := by
  obtain ⟨before, e, after, rfl, hfilter⟩ := changes
  have hbefore := (run_edits mounted before).1
  rw [List.map_append, List.map_singleton, run_concat] at hfilter
  have hchanged := debouncing_of_filter_ne hfilter
  have hmounted := (update_edit hbefore e).1
  -- the edits behind the one that changes the filter keep the page waiting
  have hrest := (run_edits hmounted after).2 hchanged
  rw [List.map_append, run_append]
  exact hrest

/-- Edits commit no list. -/
theorem committed_edits (s : State) (shown : List Post) (es : List Edit) :
    s.committed shown (es.map .edit) = shown := by
  induction es generalizing s with
  | nil => rfl
  | cons e es ih => exact ih _

/-! ## What comes back -/

/-- A page that waits for its quiet time ignores the timers of other generations, and one that waits
for an answer ignores all timers. -/
theorem run_stale_timers {gs : List Generation}
    (h : s.phase = .debouncing → s.generation ∉ gs) :
    s.run (gs.map .debounceElapsed) = (s, []) := by
  refine run_of_ignores fun m hm => ?_
  obtain ⟨g, hg, rfl⟩ := List.mem_map.mp hm
  refine .inr fun ⟨hlive, phase⟩ => h phase ?_
  rw [← hlive]
  exact hg

/-- **Timers of any generations, in any order, let the page ask once where its own is among them.** -/
theorem run_timers (mounted : s.unmounted = false) (phase : s.phase = .debouncing)
    {gs : List Generation} (live : s.generation ∈ gs) :
    s.run (gs.map .debounceElapsed) =
      (s.beginRequest, [.searchPosts s.generation s.request]) := by
  -- the first of the page's own timers counts; those of before and after leave no trace
  obtain ⟨before, after, rfl, hfirst⟩ := List.eq_append_cons_of_mem live
  have hbefore : s.run (before.map .debounceElapsed) = (s, []) :=
    run_stale_timers fun _ => hfirst
  have hown : s.update (.debounceElapsed s.generation) =
      (s.beginRequest, [.searchPosts s.generation s.request]) := by
    unfold update
    rw [mounted, if_neg Bool.false_ne_true]
    exact if_pos ⟨rfl, phase⟩
  have hafter : s.beginRequest.run (after.map .debounceElapsed) = (s.beginRequest, []) :=
    run_stale_timers fun hphase => absurd hphase (by simp)
  rw [List.map_append, List.map_cons]
  exact run_amid hbefore hown hafter

def ends (answers : List (Generation × Outcome)) : List Message :=
  answers.map fun a => .searchCompleted a.1 a.2

/-- Answers to other generations leave no trace. -/
theorem run_stale_answers {answers : List (Generation × Outcome)}
    (h : ∀ a ∈ answers, a.1 ≠ s.generation) : s.run (ends answers) = (s, []) := by
  refine run_of_ignores fun m hm => ?_
  obtain ⟨a, ha, rfl⟩ := List.mem_map.mp hm
  exact .inr fun live => h a ha live.1

/-- **Of answers to any generations, in any order, the page takes up the one to its own.** -/
theorem run_answers (mounted : s.unmounted = false) (phase : s.phase = .awaitingResponse)
    {answers : List (Generation × Outcome)} {outcome : Outcome}
    (once : answers.filter (fun a => a.1 = s.generation) = [(s.generation, outcome)]) :
    s.run (ends answers) = (s.settle outcome, []) := by
  obtain ⟨before, after, rfl, hbefore, _, hafter⟩ := List.filter_eq_cons_iff.mp once
  have hstale : s.run (ends before) = (s, []) :=
    run_stale_answers fun a ha => by simpa using hbefore a ha
  have hown := update_of_accepts (g := s.generation) ⟨mounted, rfl, phase⟩ outcome
  -- once settled, the page waits for no answer at all
  have hlate : (s.settle outcome).run (ends after) = (s.settle outcome, []) := by
    refine run_stale_answers fun a ha => ?_
    rw [generation_settle]
    simpa using List.filter_eq_nil_iff.mp hafter a ha
  rw [ends, List.map_append, List.map_cons]
  exact run_amid hstale hown hlate

/-- What comes back after a burst: timers that run out, among them that of generation `g`, and then the
ends of requests, just one of them for `g`. -/
def Arrivals (g : Generation) (outcome : Outcome) (ms : List Message) : Prop :=
  ∃ (gs : List Generation) (answers : List (Generation × Outcome)),
    ms = gs.map .debounceElapsed ++ ends answers ∧ g ∈ gs ∧
    answers.filter (fun a => a.1 = g) = [(g, outcome)]

/-- **Whatever comes back, and in whatever order, the page asks once and takes up that one answer.** -/
theorem run_arrivals (mounted : s.unmounted = false) (phase : s.phase = .debouncing)
    {outcome : Outcome} {ms : List Message} (arrivals : Arrivals s.generation outcome ms) :
    s.run ms = (s.beginRequest.settle outcome, [.searchPosts s.generation s.request]) := by
  obtain ⟨gs, answers, rfl, live, once⟩ := arrivals
  rw [run_append, run_timers mounted phase live]
  have hanswers : s.beginRequest.run (ends answers) = (s.beginRequest.settle outcome, []) :=
    run_answers (s := s.beginRequest) mounted rfl once
  rw [hanswers]
  rfl

/-! ## Bursts of a mounted page -/

/-- **From every state of a mounted page, a burst of edits that changes the filter somewhere comes to
one end, whatever timers and answers come back and in whatever order: the page asks once, under the
generation of the last change and for the filter as the burst leaves it; an answer to that request is
on show then, and a failure leaves the list committed last before the burst on show with its text.** -/
theorem last_write_wins (path queryString : String) (posts : List Post) (settings : Settings)
    (ms : List Message) (burst : List Edit) (outcome : Outcome) (arrivals : List Message)
    (mounted : ((mount path queryString posts settings).run ms).1.unmounted = false)
    (changes : ((mount path queryString posts settings).run ms).1.Changes burst)
    (arrived : Arrivals
      (((mount path queryString posts settings).run ms).1.run (burst.map .edit)).1.generation
      outcome arrivals) :
    let start := mount path queryString posts settings
    let s := ((start.run ms).1.run (burst.map .edit)).1
    let t := (s.run arrivals).1
    (s.run arrivals).2 = [.searchPosts s.generation s.request] ∧
    t = s.beginRequest.settle outcome ∧
    t.phase = .idle ∧ t.loading = false ∧ t.filter = s.filter ∧
    (∀ answer, outcome = .ok answer → t.posts = some answer ∧ t.lastError = none) ∧
    (∀ e, outcome = .error e →
      t.posts = some (start.committed posts ms) ∧ t.lastError = some e) := by
  intro start s t
  have waiting : s.phase = .debouncing := debouncing_of_changes mounted changes
  have hrun : s.run arrivals =
      (s.beginRequest.settle outcome, [.searchPosts s.generation s.request]) :=
    run_arrivals (run_edits mounted burst).1 waiting arrived
  -- the burst hides the list committed before it, and commits none itself
  have held : s.Holds (start.committed posts ms) := by
    have hheld := ((holds_mount path queryString posts settings).run ms).run (burst.map .edit)
    rw [committed_edits] at hheld
    exact hheld
  have ht : t = s.beginRequest.settle outcome := congrArg Prod.fst hrun
  refine ⟨congrArg Prod.snd hrun, ht, ?_⟩
  rw [ht]
  refine ⟨phase_settle _ _, ?loading, ?filter, ?answered, ?failed⟩
  case loading => cases outcome <;> rfl
  case filter => cases outcome <;> rfl
  case answered =>
    rintro answer rfl
    refine ⟨rfl, ?_⟩
    -- what the page waits with is no failure
    have hquiet : s.phase ≠ .idle → s.lastError = none := by
      have hquiet := lastError_run path queryString posts settings (ms ++ burst.map .edit)
      rw [run_append] at hquiet
      exact hquiet
    refine hquiet ?_
    rw [waiting]
    decide
  case failed =>
    rintro e rfl
    exact ⟨(Holds.fail (s := s.beginRequest) held e).1, rfl⟩

/-- The reader edits the filter there and back while an answer is awaited; timers of all generations and
an answer to the request before come back besides the ones that count. The one request asks for the
filter that the page had, but from the first page on. -/
theorem last_write_wins_over_stale :
    let settings : Settings := { pageSize := 20 }
    let queryString := "query=Dark"
    let s := ((mount "/" queryString [⟨.string "first"⟩] settings).run [.showMore]).1
    let burst : List Edit := [.setQuery "a", .toggleTag "b", .toggleTag "b", .setQuery "Dark"]
    let edited := (s.run (burst.map .edit)).1
    let arrivals : List Message := [.debounceElapsed 3, .debounceElapsed 5, .debounceElapsed 2,
      .debounceElapsed 5, .searchCompleted 1 (.ok []), .searchCompleted 5 (.error "lost"),
      .searchCompleted 6 (.ok [])]
    let t := (edited.run arrivals).1
    s.unmounted = false ∧ s.Changes burst ∧ Arrivals 5 (.error "lost") arrivals ∧
      s.filter.limit = some 30 ∧
      (edited.run arrivals).2 = [.searchPosts 5 { query := "dark", limit := some 20 }] ∧
      t.filter = { s.filter with limit := none } ∧
      t.posts = some [⟨.string "first"⟩] ∧ t.lastError = some "lost" := by
  intro settings queryString s burst edited arrivals t
  have mounted : s.unmounted = false := by decide +kernel
  have changes : s.Changes burst :=
    ⟨[], .setQuery "a", [.toggleTag "b", .toggleTag "b", .setQuery "Dark"], rfl, by decide +kernel⟩
  have generation : edited.generation = 5 := by decide +kernel
  have request : edited.request = { query := "dark", limit := some 20 } := by decide +kernel
  have filter : edited.filter = { s.filter with limit := none } := by decide +kernel
  have arrived : Arrivals 5 (.error "lost") arrivals :=
    ⟨[3, 5, 2, 5], [(1, .ok []), (5, .error "lost"), (6, .ok [])], rfl, by decide, rfl⟩
  have due : Arrivals edited.generation (.error "lost") arrivals := by
    rw [generation]
    exact arrived
  have first : (mount "/" queryString [⟨.string "first"⟩] settings).committed
      [⟨.string "first"⟩] [.showMore] = [⟨.string "first"⟩] := rfl
  obtain ⟨asked, _, _, _, same, _, failed⟩ := last_write_wins "/" queryString
    [⟨.string "first"⟩] settings [.showMore] burst (.error "lost") arrivals mounted changes due
  rw [first] at failed
  refine ⟨mounted, changes, arrived, by decide +kernel, ?asked, same.trans filter, failed "lost" rfl⟩
  case asked =>
    rw [← request, ← generation]
    exact asked

end IdeaBoard.Search.State
