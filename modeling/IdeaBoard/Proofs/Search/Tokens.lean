import IdeaBoard.Proofs.Search.Run

/-!
# IdeaBoard — the generations of one page

A page numbers its debounce and request cycles. Over every run, whatever timers and answers come back
and in whatever order, each number is used for one timer and one request at most, the request under
way asks for what the filter says now, and no number is completed twice.

* **`Issued`** — numbers given out in increasing order, none above the current one.
* **`Disciplined`** — the invariant: it relates the effects so far, and the generations completed so
  far, to the state. `Disciplined.step` keeps it over one move, `disciplined_run` over a run.
* **`token_discipline`** — what it says of every run from the mounting of a page on, with the bound on
  the numbers taken (`generation_run_le`).
-/

namespace IdeaBoard.Search

/-! ## What a run has asked for -/

def Effect.timer? : Effect → Option Generation
  | .scheduleSearch g _ => some g
  | _ => none

def Effect.request? : Effect → Option (Generation × Request)
  | .searchPosts g r => some (g, r)
  | _ => none

/-- The generations whose timers were started, in order. -/
def timers (es : List Effect) : List Generation := es.filterMap Effect.timer?

/-- The requests that were made, in order, with their generations. -/
def requests (es : List Effect) : List (Generation × Request) := es.filterMap Effect.request?

def asked (es : List Effect) : List Generation := (requests es).map Prod.fst

@[simp] theorem timers_append (es fs : List Effect) : timers (es ++ fs) = timers es ++ timers fs :=
  List.filterMap_append

@[simp] theorem requests_append (es fs : List Effect) :
    requests (es ++ fs) = requests es ++ requests fs := List.filterMap_append

@[simp] theorem asked_append (es fs : List Effect) : asked (es ++ fs) = asked es ++ asked fs := by
  simp [asked]

/-- Effects that start no timer. -/
theorem timers_append_quiet (es : List Effect) {fs : List Effect} (h : timers fs = []) :
    timers (es ++ fs) = timers es := by
  rw [timers_append, h, List.append_nil]

/-- Effects that make no request. -/
theorem asked_append_quiet (es : List Effect) {fs : List Effect} (h : asked fs = []) :
    asked (es ++ fs) = asked es := by
  rw [asked_append, h, List.append_nil]

/-! ## Numbers given out -/

/-- Numbers in increasing order, none above `g`. -/
def Issued (gs : List Nat) (g : Nat) : Prop :=
  gs.Pairwise (· < ·) ∧ ∀ x ∈ gs, x ≤ g

theorem issued_nil (g : Nat) : Issued [] g := ⟨.nil, by simp⟩

/-- Numbers given out so far stay so when the next one is current. -/
theorem Issued.succ {gs : List Nat} {g : Nat} (h : Issued gs g) :
    Issued gs (g + 1) := ⟨h.1, fun x hx => Nat.le_succ_of_le (h.2 x hx)⟩

/-- The next number has not been given out. -/
theorem Issued.not_mem_succ {gs : List Nat} {g : Nat} (h : Issued gs g) :
    g + 1 ∉ gs := fun hm => absurd (h.2 _ hm) (by omega)

/-- The current number can be given out once more where it was not yet. -/
theorem Issued.concat {gs : List Nat} {g : Nat} (h : Issued gs g) (hg : g ∉ gs) :
    Issued (gs ++ [g]) g := by
  refine ⟨List.pairwise_append.mpr ⟨h.1, List.pairwise_singleton _ _, ?_⟩, ?_⟩
  · intro x hx y hy
    have hle := h.2 x hx
    have hne : x ≠ g := fun e => hg (e ▸ hx)
    rw [List.mem_singleton.mp hy]
    omega
  · intro x hx
    rcases List.mem_append.mp hx with hin | hlast
    · exact h.2 x hin
    · exact Nat.le_of_eq (List.mem_singleton.mp hlast)

theorem Issued.nodup {gs : List Nat} {g : Nat} (h : Issued gs g) : gs.Nodup :=
  h.1.imp fun hlt => Nat.ne_of_lt hlt

/-- No number is given out twice. -/
theorem Issued.count_le_one {gs : List Nat} {g : Nat} (h : Issued gs g)
    (x : Nat) : gs.count x ≤ 1 := List.nodup_iff_count.mp h.nodup x

/-- Of pairs with increasing first parts, the ones that share a first part are one. -/
theorem filter_fst_eq {α : Type} {ps : List (Nat × α)} {g : Nat} {a : α}
    (h : (ps.map Prod.fst).Nodup) (hm : (g, a) ∈ ps) : ps.filter (fun p => p.1 = g) = [(g, a)] := by
  induction ps with
  | nil => exact absurd hm List.not_mem_nil
  | cons p ps ih =>
    obtain ⟨hnot, hrest⟩ := List.nodup_cons.mp h
    rcases List.mem_cons.mp hm with rfl | hin
    · -- the head is the one; no other shares its number
      rw [List.filter_cons_of_pos (by simp)]
      refine congrArg _ (List.filter_eq_nil_iff.mpr fun q hq => ?_)
      have hne : q.1 ≠ g := fun e => hnot (List.mem_map.mpr ⟨q, hq, e⟩)
      simpa using hne
    · have hne : p.1 ≠ g := fun e => hnot (List.mem_map.mpr ⟨(g, a), hin, e.symm⟩)
      rw [List.filter_cons_of_neg (by simpa using hne)]
      exact ih hrest hin

namespace State

/-! ## Completions -/

def completed? (s : State) : Message → Option Generation
  | .searchCompleted g _ => if s.Accepts g then some g else none
  | _ => none

def completions (s : State) : List Message → List Generation
  | [] => []
  | m :: ms => (s.completed? m).toList ++ (s.update m).1.completions ms

theorem completions_concat (s : State) (ms : List Message) (m : Message) :
    s.completions (ms ++ [m]) = s.completions ms ++ ((s.run ms).1.completed? m).toList := by
  induction ms generalizing s with
  | nil => simp [completions, run]
  | cons n ms ih => simp [completions, run, ih]

/-- A message that is ignored completes nothing. -/
theorem completed?_of_ignores {s : State} {m : Message} (h : s.Ignores m) :
    s.completed? m = none := by
  cases m with
  | searchCompleted g outcome => exact if_neg (ignores_searchCompleted.mp h)
  | edit e => rfl
  | showMore => rfl
  | debounceElapsed g => rfl
  | unmounted => rfl

/-! ## The invariant -/

/-- What the effects so far, and the generations completed so far, have to do with the state. -/
structure Disciplined (s : State) (done : List Generation) (es : List Effect) : Prop where
  timers_issued : Issued (timers es) s.generation
  asked_issued : Issued (asked es) s.generation
  done_issued : Issued done s.generation
  debouncing : s.phase = .debouncing → s.generation ∈ timers es ∧ s.generation ∉ asked es
  awaiting : s.phase = .awaitingResponse → (s.generation, s.request) ∈ requests es
  open_not_done : s.phase ≠ .idle → s.generation ∉ done

/-- A page that is mounted has asked for nothing. -/
theorem disciplined_mount (path queryString : String) (posts : List Post) (settings : Settings) :
    Disciplined (mount path queryString posts settings) [] [] where
  timers_issued := issued_nil _
  asked_issued := issued_nil _
  done_issued := issued_nil _
  debouncing := by simp [mount]
  awaiting := by simp [mount]
  open_not_done := by simp

/-- An edit takes a new number for its timer; nothing has been asked under it. -/
theorem Disciplined.edited {s : State} {done : List Generation} {es : List Effect}
    (h : Disciplined s done es) (f : Filter) (loc : String) (delay : UInt64) :
    Disciplined (s.restart f) done
      (es ++ [.cancelPending, .replaceLocation loc, .scheduleSearch (s.generation + 1) delay]) where
  timers_issued := by
    -- all numbers so far are below the new one
    rw [timers_append]
    exact h.timers_issued.succ.concat h.timers_issued.not_mem_succ
  asked_issued := by
    rw [asked_append_quiet es rfl]
    exact h.asked_issued.succ
  done_issued := h.done_issued.succ
  debouncing := by
    intro _
    constructor
    · rw [timers_append]
      exact List.mem_append_right _ List.mem_cons_self
    · rw [asked_append_quiet es rfl]
      exact h.asked_issued.not_mem_succ
  awaiting := by simp
  open_not_done := fun _ => h.done_issued.not_mem_succ

/-- Asking for more takes a new number for its request, which is made at once. -/
theorem Disciplined.grown {s : State} {done : List Generation} {es : List Effect}
    (h : Disciplined s done es) (loc : String) :
    Disciplined s.grow done
      (es ++ [.cancelPending, .replaceLocation loc,
        .searchPosts (s.generation + 1) s.grow.request]) where
  timers_issued := by
    rw [timers_append_quiet es rfl]
    exact h.timers_issued.succ
  asked_issued := by
    rw [asked_append]
    exact h.asked_issued.succ.concat h.asked_issued.not_mem_succ
  done_issued := h.done_issued.succ
  debouncing := by simp
  awaiting := by
    intro _
    rw [requests_append]
    exact List.mem_append_right _ List.mem_cons_self
  open_not_done := fun _ => h.done_issued.not_mem_succ

/-- The end of the quiet time uses the number of its timer for the request. -/
theorem Disciplined.asked {s : State} {done : List Generation} {es : List Effect}
    (h : Disciplined s done es) (phase : s.phase = .debouncing) :
    Disciplined s.beginRequest done
      (es ++ [.searchPosts s.generation s.beginRequest.request]) where
  timers_issued := by
    rw [timers_append_quiet es rfl]
    exact h.timers_issued
  asked_issued := by
    rw [asked_append]
    exact h.asked_issued.concat (h.debouncing phase).2
  done_issued := h.done_issued
  debouncing := by simp
  awaiting := by
    intro _
    rw [requests_append]
    exact List.mem_append_right _ List.mem_cons_self
  open_not_done := by
    -- the number was open before, in the quiet time
    intro _
    refine h.open_not_done ?_
    rw [phase]
    decide

/-- A search that comes to rest, be it by an answer or by a failure, has completed its number. -/
theorem Disciplined.settled {s : State} {done : List Generation} {es : List Effect}
    (h : Disciplined s done es) (phase : s.phase = .awaitingResponse) (outcome : Outcome) :
    Disciplined (s.settle outcome) (done ++ [s.generation]) es where
  timers_issued := by
    rw [generation_settle]
    exact h.timers_issued
  asked_issued := by
    rw [generation_settle]
    exact h.asked_issued
  done_issued := by
    rw [generation_settle]
    -- the number is new among the completed ones, as the page was waiting under it
    refine h.done_issued.concat (h.open_not_done ?_)
    rw [phase]
    decide
  debouncing := by simp
  awaiting := by simp
  open_not_done := by simp

/-- A page that goes away waits for nothing more. -/
theorem Disciplined.closed {s : State} {done : List Generation} {es : List Effect}
    (h : Disciplined s done es) : Disciplined s.unmount done (es ++ [.cancelPending]) where
  timers_issued := by
    rw [timers_append_quiet es rfl]
    exact h.timers_issued.succ
  asked_issued := by
    rw [asked_append_quiet es rfl]
    exact h.asked_issued.succ
  done_issued := h.done_issued.succ
  debouncing := by simp
  awaiting := by simp
  open_not_done := by simp

/-- A page that waits completes the number it waits for. -/
theorem completed?_of_awaiting {s : State} (mounted : s.unmounted = false)
    (phase : s.phase = .awaitingResponse) (outcome : Outcome) :
    s.completed? (.searchCompleted s.generation outcome) = some s.generation :=
  if_pos ⟨mounted, rfl, phase⟩

/-- **Every move keeps the invariant.** -/
theorem Disciplined.step {s u : State} {m : Message} {done : List Generation} {es fs : List Effect}
    (h : Disciplined s done es) (move : Step s m u fs) :
    Disciplined u (done ++ (s.completed? m).toList) (es ++ fs) := by
  -- one lemma for each move; only a settled search completes a number
  cases move with
  | ignored hignored =>
    rw [completed?_of_ignores hignored]
    simpa using h
  | edited mounted change =>
    simpa only [completed?, Option.toList_none, List.append_nil] using h.edited _ _ _
  | grown mounted =>
    simpa only [completed?, Option.toList_none, List.append_nil] using h.grown _
  | asked mounted phase =>
    simpa only [completed?, Option.toList_none, List.append_nil] using h.asked phase
  | settled mounted phase outcome =>
    rw [completed?_of_awaiting mounted phase, List.append_nil]
    exact h.settled phase outcome
  | closed mounted =>
    simpa only [completed?, Option.toList_none, List.append_nil] using h.closed

/-- **The invariant holds after every run from the mounting of a page on.** -/
theorem disciplined_run (path queryString : String) (posts : List Post) (settings : Settings)
    (ms : List Message) :
    Disciplined ((mount path queryString posts settings).run ms).1
      ((mount path queryString posts settings).completions ms)
      ((mount path queryString posts settings).run ms).2 := by
  refine run_induction (P := fun ms s es =>
    Disciplined s ((mount path queryString posts settings).completions ms) es)
    (disciplined_mount path queryString posts settings) ?_ ms
  intro ms m t u es fs reached h move
  -- whether the last message completes a number depends on the state that the others lead to
  rw [completions_concat, ← reached]
  exact h.step move

/-! ## What a run never does -/

/-- A message takes one number at most. -/
theorem generation_run_le (s : State) (ms : List Message) :
    (s.run ms).1.generation ≤ s.generation + ms.length := by
  refine run_induction (P := fun ms t _ => t.generation ≤ s.generation + ms.length)
    (Nat.le_refl _) ?_ ms
  intro ms m t u es fs _ h move
  -- a move takes one number or none
  have hgrows : u.generation ≤ t.generation + 1 := by
    cases move with
    | ignored => exact Nat.le_succ _
    | edited => exact Nat.le_refl _
    | grown => exact Nat.le_refl _
    | asked => exact Nat.le_succ _
    | settled =>
      rw [generation_settle]
      exact Nat.le_succ _
    | closed => exact Nat.le_refl _
  have hbound := Nat.le_trans hgrows (Nat.succ_le_succ h)
  simpa only [List.length_append, List.length_singleton, ← Nat.add_assoc] using hbound

/-- A page that waits for an answer has asked once under its number, for what its state says now. -/
theorem Disciplined.requests_eq {s : State} {done : List Generation} {es : List Effect}
    (h : Disciplined s done es) (phase : s.phase = .awaitingResponse) :
    (requests es).filter (fun p => p.1 = s.generation) = [(s.generation, s.request)] :=
  filter_fst_eq h.asked_issued.nodup (h.awaiting phase)

/-- **Over every run from the mounting of a page on, a generation starts one timer and makes one
request at most, and requests go out in the order of their generations; a page whose quiet time runs
has started one timer and made no request under its generation; a page that waits has made one
request, for what its state asks for; only such a page takes up an answer, so that the answer is to the
filter and the limit as they are; no generation is completed twice; and no more numbers are taken
than there were messages, so that they fit 64 bits below 2^64 messages.** -/
theorem token_discipline (path queryString : String) (posts : List Post) (settings : Settings)
    (ms : List Message) :
    let start := mount path queryString posts settings
    let s := (start.run ms).1
    let es := (start.run ms).2
    (∀ g, (timers es).count g ≤ 1 ∧ (Search.asked es).count g ≤ 1) ∧
    (Search.asked es).Pairwise (· < ·) ∧
    (s.phase = .debouncing →
      (timers es).count s.generation = 1 ∧ (Search.asked es).count s.generation = 0) ∧
    (s.phase = .awaitingResponse →
      (requests es).filter (fun p => p.1 = s.generation) = [(s.generation, s.request)]) ∧
    (∀ g outcome, s.Accepts g →
      (requests es).filter (fun p => p.1 = g) = [(g, s.request)] ∧
      s.update (.searchCompleted g outcome) = (s.settle outcome, [])) ∧
    (∀ g outcome, ¬s.Accepts g → s.update (.searchCompleted g outcome) = (s, [])) ∧
    (∀ g, (start.completions ms).count g ≤ 1) ∧
    s.generation ≤ ms.length := by
  intro start s es
  have inv : Disciplined s (start.completions ms) es :=
    disciplined_run path queryString posts settings ms
  refine ⟨?once, inv.asked_issued.1, ?debouncing, inv.requests_eq, ?accepted, ?ignored,
    inv.done_issued.count_le_one, ?bounded⟩
  case once =>
    intro g
    exact ⟨inv.timers_issued.count_le_one g, inv.asked_issued.count_le_one g⟩
  case debouncing =>
    intro phase
    -- started at least once, and at most once as any other
    obtain ⟨started, quiet⟩ := inv.debouncing phase
    have hsome : 0 < (timers es).count s.generation := List.count_pos_iff.mpr started
    have honce : (timers es).count s.generation ≤ 1 := inv.timers_issued.count_le_one _
    exact ⟨by omega, List.count_eq_zero.mpr quiet⟩
  case accepted =>
    intro g outcome haccepts
    have hupdate := update_of_accepts haccepts outcome
    -- an answer is taken up only under the number of the request that waits
    obtain ⟨-, rfl, phase⟩ := haccepts
    exact ⟨inv.requests_eq phase, hupdate⟩
  case ignored =>
    intro g outcome hnot
    exact update_of_not_accepts hnot outcome
  case bounded =>
    have hle := generation_run_le start ms
    -- a page is mounted at generation 0
    rwa [show start.generation = 0 from rfl, Nat.zero_add] at hle

/-- Asking for more while the quiet time of an edit still runs takes a number of its own, and the page
waits for the answer under that number alone. -/
theorem token_discipline_grown :
    let s := ((mount "/" "query=old" [] {}).run [.edit (.setQuery "new"), .showMore]).1
    let es := ((mount "/" "query=old" [] {}).run [.edit (.setQuery "new"), .showMore]).2
    timers es = [1] ∧ Search.asked es = [2] ∧
      (requests es).filter (fun p => p.1 = 2) = [(2, s.request)] ∧ s.request.query = "new" := by
  have phase : ((mount "/" "query=old" [] {}).run
      [.edit (.setQuery "new"), .showMore]).1.phase = .awaitingResponse := by decide +kernel
  refine ⟨by decide +kernel, by decide +kernel, ?_, by decide +kernel⟩
  exact (token_discipline "/" "query=old" [] {}
    [.edit (.setQuery "new"), .showMore]).2.2.2.1 phase

end State

end IdeaBoard.Search
