import IdeaBoard.Proofs.Engine
import IdeaBoard.Proofs.Session
import IdeaBoard.Proofs.Search.Tokens
import Mathlib.Data.List.Induction

/-!
# IdeaBoard — the ledger of a session

An event carries the number of a timer or a request, and nothing of the page that it is due to. Beside
a session we keep a ledger of what each page asked for and of what became of it, so that the page can
be told.

* **`Ledger`** — the jobs given to the engine with the page each comes from, the tasks that ended, and
  how many of their events were taken up. `record` makes the entries of a step, `traced` those of a
  session.
* **`Kept`** — the invariant that ties the ledger to the session and its engine: a task does the job
  of its number, the events that wait are those of the last ended tasks, and what the ledger says of
  the open page is what that page has asked for.
* **`Kept.moved`**, **`Kept.process`**, **`Kept.complete`**, **`Kept.took`** — the session and the
  engine keep it; together `Kept.step`, and over a session `kept_traced`.
* **`running_own`** — once the engine has obeyed the cancelling that comes with a page being closed,
  no task of that page is under way; only an event that waits already can outlive it.
-/

namespace IdeaBoard

open Search (State Effect Message Outcome Generation)
open Engine (Job jobs remaining)

/-! ## The ledger -/

/-- A job, and the page that asked for it. Pages are told apart by the number of the navigation that
opened them. -/
structure Issue where
  page : Nat
  job : Job
deriving DecidableEq

/-- A task that has ended, and how the server answered at that time. -/
structure Ending where
  task : Engine.Task
  answer : Search.Request → Engine.Result

def Ending.event (e : Ending) : Engine.Event := e.task.job.event e.answer

/-- What has become of the jobs of a session. -/
structure Ledger where
  /-- The jobs that were given to the engine, oldest first. -/
  issued : List Issue := []
  /-- The tasks that have ended, oldest first. -/
  ended : List Ending := []
  /-- How many of their events were taken up. -/
  taken : Nat := 0

namespace Ledger

def jobs (l : Ledger) : List Job := l.issued.map Issue.job

def jobsOf (l : Ledger) (page : Nat) : List Job :=
  (l.issued.filter fun i => i.page = page).map Issue.job

/-- The ended task whose event is taken up next. -/
def next? (l : Ledger) : Option Ending := l.ended[l.taken]?

def issue (l : Ledger) (page : Nat) (js : List Job) : Ledger :=
  { l with issued := l.issued ++ js.map (Issue.mk page) }

end Ledger

namespace World

/-- The task that ends in a step, if one does. -/
def endings (w : World) : Action → List Ending
  | .complete id answer =>
    ((w.engine.running.find? fun t => t.id = id).map fun t => Ending.mk t answer).toList
  | _ => []

/-- How many events are taken up in a step: one at most. -/
def takes (w : World) : Action → Nat
  | .poll => if w.engine.events.isEmpty then 0 else 1
  | _ => 0

def record (w : World) (l : Ledger) (a : Action) : Ledger where
  issued := l.issued ++ (Engine.jobs (commands (w.step a).2)).map (Issue.mk w.session.navigations)
  ended := l.ended ++ w.endings a
  taken := l.taken + w.takes a

def advance (r : World × Ledger) (a : Action) : World × Ledger := ((r.1.step a).1, r.1.record r.2 a)

/-- A session from its first page on, with its ledger. -/
def traced (bootstrap : Bootstrap) (settings : Search.Settings) (location : String)
    (as : List Action) : World × Ledger :=
  as.foldl advance ((start bootstrap settings location).1, {})

/-! ## The invariant -/

/-- What the ledger has under the number of a page is what that page has asked for so far. -/
def Tracks (l : Ledger) (page : Nat) (s : State) : Prop :=
  s.unmounted = false ∧
    ∃ done es, s.Disciplined done es ∧ l.jobsOf page = Engine.jobs (commandsOf es)

/-- How the ledger stands against the session and its engine. -/
structure Kept (w : World) (l : Ledger) : Prop where
  engine : w.engine.Accounted l.jobs
  taken_le : l.taken ≤ l.ended.length
  events : w.engine.events = (l.ended.drop l.taken).map Ending.event
  ended : ∀ e ∈ l.ended, l.jobs[e.task.id]? = some e.task.job
  pages : ∀ i ∈ l.issued, i.page ≤ w.session.navigations
  page : ∀ s, w.session.page = some s → Tracks l w.session.navigations s
  own : ∀ t ∈ w.engine.remains, ∃ job, l.issued[t.id]? = some ⟨w.session.navigations, job⟩
  idle : w.session.page = none → w.engine.remains = []

/-! ### Jobs that a page asks for -/

variable {w : World} {l : Ledger}

@[simp] theorem jobs_issue (l : Ledger) (page : Nat) (js : List Job) :
    (l.issue page js).jobs = l.jobs ++ js := by
  simp [Ledger.jobs, Ledger.issue, Function.comp_def]

/-- What a page asks for is entered behind what it has asked for. -/
theorem jobsOf_issue_same (l : Ledger) (page : Nat) (js : List Job) :
    (l.issue page js).jobsOf page = l.jobsOf page ++ js := by
  have hall : (js.map (Issue.mk page)).filter (fun i => i.page = page) = js.map (Issue.mk page) := by
    refine List.filter_eq_self.mpr fun i hi => ?_
    obtain ⟨job, _, rfl⟩ := List.mem_map.mp hi
    simp
  rw [Ledger.jobsOf, Ledger.issue, List.filter_append, hall]
  simp [Ledger.jobsOf, Function.comp_def]

/-- An entry that is not new is an old one. -/
theorem mem_issue {l : Ledger} {page : Nat} {js : List Job} {i : Issue}
    (h : i ∈ (l.issue page js).issued) : i ∈ l.issued ∨ i.page = page := by
  rcases List.mem_append.mp h with hold | hnew
  · exact .inl hold
  · obtain ⟨job, _, rfl⟩ := List.mem_map.mp hnew
    exact .inr rfl

/-- No page has asked for anything before it is opened. -/
theorem jobsOf_eq_nil {l : Ledger} {page : Nat} (h : ∀ i ∈ l.issued, i.page < page) :
    l.jobsOf page = [] := by
  have hnone : l.issued.filter (fun i => i.page = page) = [] := by
    refine List.filter_eq_nil_iff.mpr fun i hi => ?_
    have hne : i.page ≠ page := Nat.ne_of_lt (h i hi)
    simpa using hne
  rw [Ledger.jobsOf, hnone, List.map_nil]

/-- Entries of the ledger stay where they are. -/
theorem getElem?_issue {l : Ledger} {n : Nat} {i : Issue} (h : l.issued[n]? = some i) (page : Nat)
    (js : List Job) : (l.issue page js).issued[n]? = some i := by
  have hlt : n < l.issued.length := (List.getElem?_eq_some_iff.mp h).1
  rw [Ledger.issue, List.getElem?_append_left hlt]
  exact h

/-- The entries behind those of the ledger are of the page that asks now. -/
theorem getElem?_issue_new (l : Ledger) (page : Nat) {js : List Job} {n : Nat}
    (hle : l.issued.length ≤ n) (hlt : n < l.issued.length + js.length) :
    ∃ job, (l.issue page js).issued[n]? = some ⟨page, job⟩ := by
  have hin : n - l.issued.length < js.length := by omega
  refine ⟨js[n - l.issued.length], ?_⟩
  rw [Ledger.issue, List.getElem?_append_right hle, List.getElem?_map,
    List.getElem?_eq_getElem hin]
  rfl

/-! ### The session moves -/

/-- A page that is drawn again is as disciplined as before. -/
theorem disciplined_consumeDirty {s : State} {done : List Generation} {es : List Effect}
    (h : s.Disciplined done es) : s.consumeDirty.2.Disciplined done es :=
  ⟨h.timers_issued, h.asked_issued, h.done_issued, h.debouncing, h.awaiting, h.open_not_done⟩

/-- A mounted page is closed by stopping what it has under way. -/
theorem closing_of_kept (h : Kept w l) {s : State} (shown : w.session.page = some s) :
    w.session.closing = [.cancelPending] := by
  obtain ⟨mounted, _⟩ := h.page s shown
  unfold Session.closing
  rw [shown]
  show commandsOf (s.update .unmounted).2 = _
  rw [State.update_unmounted mounted]
  rfl

/-- Nothing is left under way of a page that is closed. -/
theorem remaining_closing (h : Kept w l) (n : Nat) :
    remaining w.session.closing w.engine.remains n = [] := by
  cases shown : w.session.page with
  | none =>
    unfold Session.closing
    rw [shown, h.idle shown]
    rfl
  | some s =>
    rw [closing_of_kept h shown]
    rfl

/-- Whatever the session does, the ledger still stands against the engine; what is left to show is
how it stands against the page. -/
theorem Kept.told (h : Kept w l) {t : Session} (cs : List Engine.Command)
    (navigations : w.session.navigations ≤ t.navigations)
    (page : ∀ s, t.page = some s →
      Tracks (l.issue w.session.navigations (Engine.jobs cs)) t.navigations s)
    (own : ∀ task ∈ remaining cs w.engine.remains l.issued.length, ∃ job,
      (l.issue w.session.navigations (Engine.jobs cs)).issued[task.id]? = some ⟨t.navigations, job⟩)
    (idle : t.page = none → remaining cs w.engine.remains l.issued.length = []) :
    Kept ⟨t, { w.engine with commands := w.engine.commands ++ cs }⟩
      (l.issue w.session.navigations (Engine.jobs cs)) := by
  have hremains : ({ w.engine with commands := w.engine.commands ++ cs } : Engine).remains =
      remaining cs w.engine.remains l.issued.length := by
    rw [Engine.remains_told h.engine, Ledger.jobs, List.length_map]
  -- no task has ended and no event is taken up, so only the numbers of jobs and pages are at stake
  refine ⟨?_, h.taken_le, h.events, ?_, ?_, page, ?_, ?_⟩
  · rw [jobs_issue]
    exact h.engine.told cs
  · intro e he
    have hjob := h.ended e he
    have hlt : e.task.id < l.jobs.length := (List.getElem?_eq_some_iff.mp hjob).1
    rw [jobs_issue, List.getElem?_append_left hlt]
    exact hjob
  · intro i hi
    rcases mem_issue hi with hold | hnew
    · exact Nat.le_trans (h.pages i hold) navigations
    · rw [hnew]
      exact navigations
  · rw [hremains]
    exact own
  · rw [hremains]
    exact idle

/-- **Every move of the session keeps the invariant.** -/
theorem Kept.moved (h : Kept w l) {t : Session} {cs : List Engine.Command}
    (move : Session.Move w.session t cs) :
    Kept ⟨t, { w.engine with commands := w.engine.commands ++ cs }⟩
      (l.issue w.session.navigations (Engine.jobs cs)) := by
  cases move with
  | still page navigations =>
    have hsame : l.issue w.session.navigations (Engine.jobs []) = l := by
      simp [Ledger.issue, Engine.jobs]
    refine h.told [] (Nat.le_of_eq navigations.symm) ?_ ?_ ?_
    · rw [hsame, page, navigations]
      exact h.page
    · rw [hsame, navigations]
      exact h.own
    · rw [page]
      exact h.idle
  | @updated p m shown stays page navigations =>
    -- what the page asks for now is entered behind what it has asked for
    obtain ⟨mounted, done, es, disciplined, hjobs⟩ := h.page p shown
    refine h.told _ (Nat.le_of_eq navigations.symm) ?_ ?_ ?_
    · intro s hs
      rw [page] at hs
      obtain rfl := Option.some.inj hs
      have move := State.update_step p m
      refine ⟨move.mounted mounted stays, _, es ++ (p.update m).2,
        disciplined_consumeDirty (disciplined.step move), ?_⟩
      rw [navigations, jobsOf_issue_same, hjobs, ← Engine.jobs_append]
      congr 1
      exact List.filterMap_append.symm
    · intro task htask
      rw [navigations]
      rcases Engine.mem_remaining htask with hold | ⟨hle, hlt⟩
      · -- a task of before has kept its entry
        obtain ⟨job, hjob⟩ := h.own task hold
        exact ⟨job, getElem?_issue hjob _ _⟩
      · -- a new one has an entry of this page
        exact getElem?_issue_new l _ hle hlt
    · intro hnone
      rw [page] at hnone
      exact absurd hnone (by simp)
  | turned page navigations =>
    -- the page that is closed stops what it has under way before the new one opens
    have hremaining := remaining_closing h l.issued.length
    refine h.told _ (navigations ▸ Nat.le_succ _) ?_ ?_ ?_
    · intro s hs
      obtain ⟨path, queryString, posts, settings, rfl⟩ := page s hs
      refine ⟨rfl, [], [], State.disciplined_mount path queryString posts settings, ?_⟩
      -- nothing has been asked for under the number of the new page
      refine jobsOf_eq_nil fun i hi => ?_
      rw [navigations]
      rcases mem_issue hi with hold | hnew
      · exact Nat.lt_succ_of_le (h.pages i hold)
      · rw [hnew]
        exact Nat.lt_succ_self _
    · rw [hremaining]
      exact fun _ ht => absurd ht List.not_mem_nil
    · exact fun _ => hremaining
  | left page navigations =>
    -- no page is left, and nothing of the last one under way
    have hremaining := remaining_closing h l.issued.length
    refine h.told _ (Nat.le_of_eq navigations.symm) ?_ ?_ ?_
    · intro s hs
      rw [page] at hs
      exact absurd hs (by simp)
    · rw [hremaining]
      exact fun _ ht => absurd ht List.not_mem_nil
    · exact fun _ => hremaining

/-! ### The engine moves -/

/-- A command that is obeyed changes nothing that the ledger speaks of. -/
theorem Kept.process (h : Kept w l) : Kept { w with engine := w.engine.process } l := by
  have hremains := Engine.remains_process h.engine
  have hevents : w.engine.process.events = w.engine.events := by
    unfold Engine.process
    split
    · rfl
    · next c _ _ => cases c <;> rfl
  refine ⟨h.engine.process, h.taken_le, ?_, h.ended, h.pages, h.page, ?_, ?_⟩
  · rw [← h.events]
    exact hevents
  · intro t ht
    rw [hremains] at ht
    exact h.own t ht
  · intro closed
    rw [hremains]
    exact h.idle closed

/-- The task that ends, if it is under way. -/
theorem endings_complete (w : World) (id : Nat) (answer : Search.Request → Engine.Result) :
    w.endings (.complete id answer) =
      ((w.engine.running.find? fun t => t.id = id).map fun t => Ending.mk t answer).toList := rfl

/-- A task that ends leaves its event behind those that wait. -/
theorem events_complete (w : World) (id : Nat) (answer : Search.Request → Engine.Result) :
    (w.engine.complete id answer).events =
      w.engine.events ++ (w.endings (.complete id answer)).map Ending.event := by
  rw [endings_complete]
  unfold Engine.complete
  cases w.engine.running.find? fun t => t.id = id with
  | none => exact (List.append_nil _).symm
  | some t => rfl

/-- A task that ends is entered in the ledger with the event that it leaves. -/
theorem Kept.complete (h : Kept w l) (id : Nat) (answer : Search.Request → Engine.Result) :
    Kept { w with engine := w.engine.complete id answer }
      { l with ended := l.ended ++ w.endings (.complete id answer) } := by
  have hremains := Engine.remains_complete w.engine id answer
  refine ⟨h.engine.complete id answer, ?_, ?_, ?_, h.pages, h.page, ?_, ?_⟩
  · rw [List.length_append]
    exact Nat.le_trans h.taken_le (Nat.le_add_right _ _)
  · rw [List.drop_append_of_le_length h.taken_le, List.map_append, ← h.events]
    exact events_complete w id answer
  · intro e he
    rcases List.mem_append.mp he with hold | hnew
    · exact h.ended e hold
    · -- the engine looks a task up by its number, which is that of its job
      rw [endings_complete] at hnew
      cases hfind : w.engine.running.find? fun t => t.id = id with
      | none =>
        rw [hfind] at hnew
        exact absurd hnew List.not_mem_nil
      | some t =>
        rw [hfind] at hnew
        obtain rfl := List.mem_singleton.mp hnew
        exact h.engine.running t (List.mem_of_find?_eq_some hfind)
  · exact fun t ht => h.own t (hremains ht)
  · intro closed
    refine List.eq_nil_iff_forall_not_mem.mpr fun t ht => ?_
    have hin := hremains ht
    rw [h.idle closed] at hin
    exact absurd hin List.not_mem_nil

/-- The oldest event that waits is the one of the next ended task. -/
theorem Kept.next (h : Kept w l) {event : Engine.Event} {events : List Engine.Event}
    (hevents : w.engine.events = event :: events) :
    ∃ e, l.next? = some e ∧ e.event = event ∧
      events = (l.ended.drop (l.taken + 1)).map Ending.event := by
  have hkept := h.events
  rw [hevents] at hkept
  -- an event waits, so not all that ended are taken up
  have hlt : l.taken < l.ended.length := by
    refine Nat.lt_of_not_le fun hge => ?_
    rw [List.drop_eq_nil_of_le hge] at hkept
    exact absurd hkept (by simp)
  rw [List.drop_eq_getElem_cons hlt, List.map_cons] at hkept
  obtain ⟨hevent, hrest⟩ := List.cons.inj hkept
  exact ⟨l.ended[l.taken], List.getElem?_eq_getElem hlt, hevent.symm, hrest⟩

/-- An event that is taken up is entered as such. -/
theorem Kept.took (h : Kept w l) {event : Engine.Event} {events : List Engine.Event}
    (hevents : w.engine.events = event :: events) :
    Kept { w with engine := { w.engine with events := events } } { l with taken := l.taken + 1 } := by
  obtain ⟨e, hnext, _, hrest⟩ := h.next hevents
  have hlt : l.taken < l.ended.length := (List.getElem?_eq_some_iff.mp hnext).1
  refine ⟨?_, hlt, hrest, h.ended, h.pages, h.page, h.own, h.idle⟩
  exact ⟨h.engine.started_le, h.engine.waiting, h.engine.running, h.engine.held⟩

/-! ### Every step -/

theorem Kept.after (h : Kept w l) {r : Session × List Output}
    (move : Session.Move w.session r.1 (commands r.2)) :
    Kept (w.after r).1 (l.issue w.session.navigations (Engine.jobs (commands r.2))) := by
  have hkept := h.moved move
  unfold World.after
  rw [told_eq]
  exact hkept

/-- The entries of a step in which no task ends and no event is taken up. -/
theorem record_eq_issue {a : Action} (endings : w.endings a = []) (takes : w.takes a = 0) :
    w.record l a = l.issue w.session.navigations (Engine.jobs (commands (w.step a).2)) := by
  unfold record Ledger.issue
  rw [endings, takes, List.append_nil, Nat.add_zero]

theorem step_poll_nil (hevents : w.engine.events = []) : w.step .poll = (w, []) := by
  simp [World.step, Engine.take, hevents]

/-- Where an event waits, the oldest is taken off the queue and received. -/
theorem step_poll {event : Engine.Event} {events : List Engine.Event}
    (hevents : w.engine.events = event :: events) :
    w.step .poll = ({ w with engine := { w.engine with events := events } } : World).after
      (w.session.receive event) := by
  simp [World.step, Engine.take, hevents]

theorem record_poll_nil (hevents : w.engine.events = []) : w.record l .poll = l := by
  simp [record, step_poll_nil hevents, endings, takes, hevents, Engine.jobs]

theorem record_poll {event : Engine.Event} {events : List Engine.Event}
    (hevents : w.engine.events = event :: events) :
    w.record l .poll = ({ l with taken := l.taken + 1 } : Ledger).issue w.session.navigations
      (Engine.jobs (commands (w.session.receive event).2)) := by
  unfold record
  rw [step_poll hevents]
  simp [World.after, Ledger.issue, endings, takes, hevents]

/-- **Every step keeps the invariant.** -/
theorem Kept.step (h : Kept w l) (a : Action) : Kept (w.step a).1 (w.record l a) := by
  cases a with
  | line text =>
    rw [record_eq_issue rfl rfl]
    simp only [World.step]
    -- a line that quits closes the page and opens no other
    split
    · next r hr => exact h.after (Session.handle_move hr)
    · obtain ⟨hpage, hnavigations, hcommands⟩ := w.session.unmount_spec
      refine h.after ?_
      rw [hcommands]
      exact .left hpage hnavigations
  | process =>
    rw [record_eq_issue rfl rfl]
    have hsame : l.issue w.session.navigations (Engine.jobs (commands [])) = l := by
      simp [Ledger.issue, Engine.jobs]
    show Kept _ (l.issue _ (Engine.jobs (commands [])))
    rw [hsame]
    exact h.process
  | complete id answer =>
    have hrecord : w.record l (.complete id answer) =
        { l with ended := l.ended ++ w.endings (.complete id answer) } := by
      simp [record, takes, World.step, Engine.jobs]
    rw [hrecord]
    exact h.complete id answer
  | poll =>
    -- the event is taken off the queue first, and then the session receives it
    cases hevents : w.engine.events with
    | nil =>
      rw [step_poll_nil hevents, record_poll_nil hevents]
      exact h
    | cons event events =>
      rw [step_poll hevents, record_poll hevents]
      exact (h.took hevents).after (w.session.receive_move event)

/-- Before the first page is open there is neither a page nor a job. -/
theorem kept_empty (bootstrap : Bootstrap) (settings : Search.Settings) (location : String) :
    Kept ⟨Session.start bootstrap settings location, {}⟩ {} := by
  refine ⟨Engine.accounted_idle, Nat.le_refl _, rfl, ?_, ?_, ?_, ?_, fun _ => rfl⟩
  · exact fun _ he => absurd he List.not_mem_nil
  · exact fun _ hi => absurd hi List.not_mem_nil
  · exact fun _ hs => absurd hs (by simp [Session.start])
  · exact fun _ ht => absurd ht List.not_mem_nil

/-- The first page is opened as any other, and has asked for nothing. -/
theorem kept_start (bootstrap : Bootstrap) (settings : Search.Settings) (location : String) :
    Kept (start bootstrap settings location).1 {} := by
  have hkept := (kept_empty bootstrap settings location).after
    ((Session.start bootstrap settings location).navigate_move location)
  have hquiet : commands ((Session.start bootstrap settings location).navigate location).2 = [] :=
    (Session.navigate_spec _ location).2.2
  rw [hquiet] at hkept
  exact hkept

/-- The last step of a session acts on what the others lead to. -/
theorem traced_concat (bootstrap : Bootstrap) (settings : Search.Settings) (location : String)
    (as : List Action) (a : Action) :
    traced bootstrap settings location (as ++ [a]) =
      advance (traced bootstrap settings location as) a := by
  simp [traced]

/-- **The invariant holds all through a session.** -/
theorem kept_traced (bootstrap : Bootstrap) (settings : Search.Settings) (location : String)
    (as : List Action) :
    Kept (traced bootstrap settings location as).1 (traced bootstrap settings location as).2 := by
  induction as using List.reverseRecOn with
  | nil => exact kept_start bootstrap settings location
  | append_singleton as a ih =>
    rw [traced_concat]
    exact ih.step a

/-- Where no cancelling waits, all tasks under way are of the page that is open: what an earlier page
had under way can leave an event only until the engine has obeyed the cancelling that closed it. -/
theorem running_own (h : Kept w l) (obeyed : .cancelPending ∉ w.engine.commands) :
    ∀ t ∈ w.engine.running, ∃ job, l.issued[t.id]? = some ⟨w.session.navigations, job⟩ :=
  fun t ht => h.own t (Engine.subset_remaining obeyed _ _ ht)

end World

end IdeaBoard
