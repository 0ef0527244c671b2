import IdeaBoard.Proofs.Ledger
import Mathlib.Logic.Function.Iterate

/-!
# IdeaBoard — the thread of an engine, step by step

`Engine.process` obeys a command in one go. In truth a thread takes the command up, forgets handles,
and then stops the tasks one after the other, or starts one, and all that time tasks come to their
end on their own. Here its steps are apart, with anything in between.

* **`Worker`** — an engine, and what its thread has in hand. `Move` is what can happen next: the engine
  is told something, the thread goes on, a task ends, an event is heard. `Report` is what came of it.
* **`mem_handles_forget`** — the handle of a task under way is never forgotten.
* **`work_process`** — a thread that nothing interferes with does what `Engine.process` does, so that
  this too is a run (`exists_run_process`).
* **`Sound`** — the invariant: the tasks under way are those that the obeyed commands leave, without
  the ended ones and, in the midst of cancelling, without those stopped already; and all of them are
  held. One lemma for each move, together `Sound.step`, and over a run `sound_run`.
* **`late_endings`** — what was started before a cancelling does not end after it.
* **`exactly_once`** — what an engine promises: each job leaves one event at most, its own, and does so
  when its task ends unless that was cancelled before.
-/

namespace IdeaBoard

namespace Engine

/-- Forgets the handles of tasks that are seen to have ended. A task that has left its event may not
be seen to have ended yet; this is so for those that are `unnoticed`. The handles are looked at one
after the other, and a task that ends meanwhile is unnoticed if its handle was looked at before. -/
def forget (e : Engine) (unnoticed : Nat → Bool) : Engine :=
  { e with handles := e.handles.filter fun id => unnoticed id || e.running.any fun t => t.id = id }

def stop (e : Engine) (id : Nat) : Engine :=
  { e with running := e.running.filter fun t => t.id ≠ id }

def ending? (e : Engine) (id : Nat) (answer : Search.Request → Result) : Option Ending :=
  (e.running.find? fun t => t.id = id).map fun t => ⟨t, answer⟩

@[simp] theorem mem_stop {e : Engine} {id : Nat} {t : Task} :
    t ∈ (e.stop id).running ↔ t ∈ e.running ∧ t.id ≠ id := by
  simp [stop]

/-- **The handle of a task under way is never forgotten.** -/
theorem mem_handles_forget {e : Engine} {t : Task} (ht : t ∈ e.running) (h : t.id ∈ e.handles)
    (unnoticed : Nat → Bool) : t.id ∈ (e.forget unnoticed).handles := by
  -- pruning forgets more than that: it notices all tasks that have ended
  obtain ⟨_, hany⟩ := List.mem_filter.mp (mem_handles_prune ht h)
  refine List.mem_filter.mpr ⟨h, ?_⟩
  rw [hany, Bool.or_true]

/-! ## What the commands leave under way -/

/-- A task that is left does the job of its number. -/
theorem getElem?_of_mem_remaining {cs : List Command} {t : Task} (h : t ∈ remaining cs [] 0) :
    (jobs cs)[t.id]? = some t.job := by
  -- it is the last command that can add a task, or leave none, so the induction is from behind
  induction cs using List.reverseRecOn with
  | nil => exact absurd h List.not_mem_nil
  | append_singleton cs c ih =>
    rw [remaining_append] at h
    rw [jobs_append]
    cases c with
    | start job =>
      rcases List.mem_append.mp h with hold | hnew
      · have hjob := ih hold
        rw [List.getElem?_append_left (List.getElem?_eq_some_iff.mp hjob).1]
        exact hjob
      · obtain rfl := List.mem_singleton.mp hnew
        simp [jobs, Command.job?]
    | cancelPending => exact absurd h List.not_mem_nil

/-- A job that no cancelling follows is left. -/
theorem mem_remaining_of_start {cs front back : List Command} {job : Job}
    (hcs : cs = front ++ .start job :: back) (h : .cancelPending ∉ back) :
    ⟨(jobs front).length, job⟩ ∈ remaining cs [] 0 := by
  rw [hcs, remaining_append, Nat.zero_add]
  exact subset_remaining h _ _ (List.mem_append_right _ List.mem_cons_self)

/-- What is left was started behind the last cancelling. -/
theorem le_of_mem_remaining {cs front back : List Command} {t : Task}
    (hcs : cs = front ++ .cancelPending :: back) (h : t ∈ remaining cs [] 0) :
    (jobs front).length ≤ t.id := by
  rw [hcs, remaining_append, Nat.zero_add] at h
  -- the cancelling leaves none, so what is left is of the commands behind it
  have hleft : t ∈ remaining back [] (jobs front).length := h
  rcases mem_remaining hleft with hin | ⟨hle, _⟩
  · exact absurd hin List.not_mem_nil
  · exact hle

end Engine

open Engine (Job Event Task Result jobs remaining)

/-! ## The thread -/

/-- What the thread of an engine has in hand. -/
inductive Hand where
  | free
  /-- It has taken up a job and not started it yet. -/
  | starting (job : Job)
  /-- It is cancelling; these tasks are still to be stopped. -/
  | stopping (ids : List Nat)

def Hand.command : Hand → List Engine.Command
  | .free => []
  | .starting job => [.start job]
  | .stopping _ => [.cancelPending]

def Hand.ids : Hand → List Nat
  | .stopping ids => ids
  | _ => []

structure Worker where
  engine : Engine := {}
  hand : Hand := .free

namespace Worker

/-- What can happen next. -/
inductive Move where
  /-- The engine is told something. -/
  | tell (c : Engine.Command)
  /-- The thread takes up the oldest command that waits, and forgets handles. -/
  | takeUp (unnoticed : Nat → Bool)
  /-- The thread goes on with the command in hand: it starts the job, stops one task more, or is
  done with stopping. -/
  | work
  /-- A task comes to its end, if it is under way. -/
  | complete (id : Nat) (answer : Search.Request → Result)
  /-- The oldest event that waits is heard. -/
  | hear

/-- The thread takes a command in hand; to cancel, together with all that it holds. -/
def grasp (e : Engine) : Engine.Command → Worker
  | .start job => ⟨e, .starting job⟩
  | .cancelPending => ⟨{ e with handles := [] }, .stopping e.handles⟩

/-- The thread takes up a command, if one waits and it has none in hand. -/
def takeUp (w : Worker) (unnoticed : Nat → Bool) : Worker :=
  match w.hand, w.engine.commands with
  | .free, c :: cs => grasp { w.engine.forget unnoticed with commands := cs } c
  | _, _ => w

def work (w : Worker) : Worker :=
  match w.hand with
  | .free => w
  | .starting job => ⟨w.engine.obey (.start job), .free⟩
  | .stopping [] => ⟨w.engine, .free⟩
  | .stopping (id :: ids) => ⟨w.engine.stop id, .stopping ids⟩

/-- The command that is obeyed when the thread goes on, if it comes to that. -/
def obeys (w : Worker) : List Engine.Command :=
  match w.hand with
  | .starting job => [.start job]
  | .stopping [] => [.cancelPending]
  | _ => []

def step (w : Worker) : Move → Worker
  | .tell c => { w with engine := w.engine.send c }
  | .takeUp unnoticed => w.takeUp unnoticed
  | .work => w.work
  | .complete id answer => { w with engine := w.engine.complete id answer }
  | .hear => { w with engine := w.engine.take.2 }

/-- What has come of a run. -/
structure Report where
  /-- The commands that were obeyed, oldest first. -/
  obeyed : List Engine.Command := []
  /-- The tasks that have ended, oldest first. -/
  ended : List Ending := []
  /-- The events that were heard, oldest first. -/
  heard : List Event := []

def record (w : Worker) (r : Report) : Move → Report
  | .work => { r with obeyed := r.obeyed ++ w.obeys }
  | .complete id answer => { r with ended := r.ended ++ (w.engine.ending? id answer).toList }
  | .hear => { r with heard := r.heard ++ w.engine.take.1.toList }
  | _ => r

def advance (p : Worker × Report) (m : Move) : Worker × Report := (p.1.step m, p.1.record p.2 m)

/-- A run of an engine from its start on, with its report. -/
def run (ms : List Move) : Worker × Report := ms.foldl advance ({}, {})

def told (ms : List Move) : List Engine.Command :=
  ms.filterMap fun
    | .tell c => some c
    | _ => none

@[simp] theorem told_append (ms ns : List Move) : told (ms ++ ns) = told ms ++ told ns :=
  List.filterMap_append

/-- The last move of a run acts on what the others lead to. -/
theorem run_concat (ms : List Move) (m : Move) : run (ms ++ [m]) = advance (run ms) m := by
  simp [run]

/-! ### Without interference -/

/-- Task by task, all are stopped. -/
theorem work_stopping (e : Engine) (ids : List Nat) :
    work^[ids.length + 1] ⟨e, .stopping ids⟩ =
      ⟨{ e with running := e.running.filter fun t => t.id ∉ ids }, .free⟩ := by
  -- on the tasks in hand: what each step takes out is left out of the whole
  induction ids generalizing e with
  | nil =>
    have hall : e.running.filter (fun t => t.id ∉ ([] : List Nat)) = e.running := by simp
    rw [hall]
    rfl
  | cons id ids ih =>
    show work^[ids.length + 1] ⟨e.stop id, .stopping ids⟩ = _
    rw [ih]
    simp only [Engine.stop, List.filter_filter, List.mem_cons, not_or, Bool.decide_and,
      Bool.and_comm]

/-- **A thread that nothing interferes with obeys a command as the engine does in one go.** -/
theorem work_process (e : Engine) :
    ∃ n, work^[n] (takeUp ⟨e, .free⟩ fun _ => false) = ⟨e.process, .free⟩ := by
  unfold takeUp Engine.process
  cases hcs : e.commands with
  | nil => exact ⟨0, rfl⟩
  | cons c cs =>
    -- a job is started in one step, a cancelling takes one for each handle and one more to be done
    cases c with
    | start job => exact ⟨1, rfl⟩
    | cancelPending => exact ⟨_, work_stopping _ (e.forget fun _ => false).handles⟩

/-- A run in which the thread alone goes on. -/
theorem foldl_work (p : Worker × Report) (n : Nat) :
    ((List.replicate n Move.work).foldl advance p).1 = work^[n] p.1 := by
  induction n generalizing p with
  | zero => rfl
  | succ n ih =>
    rw [List.replicate_succ, List.foldl_cons, ih, Function.iterate_succ_apply]
    rfl

/-- What the engine does in one go is a run of the thread alone. -/
theorem exists_run_process {ms : List Move} {e : Engine} (h : (run ms).1 = ⟨e, .free⟩) :
    ∃ more, told more = [] ∧ (run (ms ++ more)).1 = ⟨e.process, .free⟩ := by
  obtain ⟨n, hn⟩ := work_process e
  refine ⟨.takeUp (fun _ => false) :: List.replicate n .work, by simp [told], ?_⟩
  rw [run, List.foldl_append, List.foldl_cons, foldl_work]
  show work^[n] ((run ms).1.takeUp fun _ => false) = _
  rw [h, hn]

/-! ## The invariant -/

/-- All handles: those in hand, and those that the next cancelling stops. -/
def handles (w : Worker) : List Nat := w.hand.ids ++ w.engine.handles

/-- The thread is not cancelling, or has not stopped this task yet. -/
def Spared (w : Worker) (id : Nat) : Prop := ∀ ids, w.hand = .stopping ids → id ∈ ids

/-- How an engine and its thread stand against the report, and against what the engine was told. -/
structure Sound (w : Worker) (r : Report) (given : List Engine.Command) : Prop where
  order : given = r.obeyed ++ (w.hand.command ++ w.engine.commands)
  started : w.engine.started = (jobs r.obeyed).length
  running : ∀ t, t ∈ w.engine.running ↔
    t ∈ remaining r.obeyed [] 0 ∧ (∀ e ∈ r.ended, e.task.id ≠ t.id) ∧ w.Spared t.id
  held : ∀ t ∈ w.engine.running, t.id ∈ w.handles
  handles_nodup : w.handles.Nodup
  handles_lt : ∀ id ∈ w.handles, id < w.engine.started
  events : r.heard ++ w.engine.events = r.ended.map Ending.event
  once : (r.ended.map fun e => e.task.id).Nodup
  ended : ∀ e ∈ r.ended, (jobs r.obeyed)[e.task.id]? = some e.task.job

variable {w : Worker} {r : Report} {given : List Engine.Command}

@[simp] theorem spared_free {e : Engine} {id : Nat} : Spared ⟨e, .free⟩ id := nofun

@[simp] theorem spared_starting {e : Engine} {job : Job} {id : Nat} :
    Spared ⟨e, .starting job⟩ id := nofun

@[simp] theorem spared_stopping {e : Engine} {ids : List Nat} {id : Nat} :
    Spared ⟨e, .stopping ids⟩ id ↔ id ∈ ids :=
  ⟨fun h => h ids rfl, fun h _ hids => Hand.stopping.inj hids ▸ h⟩

/-- Before anything is told there is nothing to account for. -/
theorem sound_start : Sound {} {} [] where
  order := rfl
  started := rfl
  running := fun _ => by simp [remaining]
  held := fun _ ht => absurd ht List.not_mem_nil
  handles_nodup := List.nodup_nil
  handles_lt := fun _ hid => absurd hid List.not_mem_nil
  events := rfl
  once := List.nodup_nil
  ended := fun _ he => absurd he List.not_mem_nil

/-- What the engine is told waits behind the other commands. -/
theorem Sound.tell (h : Sound w r given) (c : Engine.Command) :
    Sound { w with engine := w.engine.send c } r (given ++ [c]) where
  order := by
    rw [h.order]
    simp [Engine.send]
  started := h.started
  running := h.running
  held := h.held
  handles_nodup := h.handles_nodup
  handles_lt := h.handles_lt
  events := h.events
  once := h.once
  ended := h.ended

/-! ### The thread moves -/

/-- The handles that are forgotten are not missed. -/
theorem Sound.forget {e : Engine} (h : Sound ⟨e, .free⟩ r given) (unnoticed : Nat → Bool) :
    Sound ⟨e.forget unnoticed, .free⟩ r given where
  order := h.order
  started := h.started
  running := h.running
  held := by
    intro t (ht : t ∈ e.running)
    exact Engine.mem_handles_forget ht (h.held t ht) unnoticed
  handles_nodup := h.handles_nodup.filter _
  handles_lt := fun id hid => h.handles_lt id (List.mem_filter.mp hid).1
  events := h.events
  once := h.once
  ended := h.ended

/-- A command that is taken in hand is still to be obeyed, and all tasks under way are held as
before. -/
theorem Sound.grasp {e : Engine} (h : Sound ⟨e, .free⟩ r given) {c : Engine.Command}
    {cs : List Engine.Command} (hcs : e.commands = c :: cs) :
    Sound (grasp { e with commands := cs } c) r given := by
  have horder : given = r.obeyed ++ (c :: cs) := by
    rw [h.order, hcs]
    rfl
  have hrunning (t : Task) : t ∈ e.running ↔
      t ∈ remaining r.obeyed [] 0 ∧ ∀ e ∈ r.ended, e.task.id ≠ t.id := by
    rw [h.running t]
    simp
  cases c with
  | start job =>
    refine ⟨horder, h.started, ?_, h.held, h.handles_nodup, h.handles_lt, h.events, h.once, h.ended⟩
    intro t
    show t ∈ e.running ↔ _ ∧ _ ∧ Spared ⟨_, .starting job⟩ t.id
    rw [hrunning t]
    simp
  | cancelPending =>
    -- the handles go from where they are held into the hand
    have hhandles : Worker.handles ⟨{ e with commands := cs, handles := [] }, .stopping e.handles⟩ =
        Worker.handles ⟨e, .free⟩ := List.append_nil _
    refine ⟨horder, h.started, ?_, ?_, ?_, ?_, h.events, h.once, h.ended⟩
    · -- nothing is under way that is not held, so all of it is in hand
      intro t
      show t ∈ e.running ↔ _ ∧ _ ∧ Spared ⟨_, .stopping e.handles⟩ t.id
      rw [spared_stopping]
      constructor
      · exact fun ht => ⟨((hrunning t).mp ht).1, ((hrunning t).mp ht).2, h.held t ht⟩
      · exact fun ht => (hrunning t).mpr ⟨ht.1, ht.2.1⟩
    · exact fun t ht => hhandles ▸ h.held t ht
    · exact hhandles ▸ h.handles_nodup
    · exact fun id hid => h.handles_lt id (hhandles ▸ hid)

/-- Taking up a command keeps the invariant, whatever handles are forgotten before. -/
theorem Sound.takeUp (h : Sound w r given) (unnoticed : Nat → Bool) :
    Sound (w.takeUp unnoticed) r given := by
  obtain ⟨e, hand⟩ := w
  unfold Worker.takeUp
  split
  · next c cs hhand hcs =>
    obtain rfl : hand = .free := hhand
    exact (h.forget unnoticed).grasp hcs
  · exact h

/-- A task that is started is under way and held, under a number of its own. -/
theorem Sound.start {e : Engine} {job : Job} (h : Sound ⟨e, .starting job⟩ r given) :
    Sound ⟨e.obey (.start job), .free⟩ { r with obeyed := r.obeyed ++ [.start job] } given := by
  -- tasks that have ended were started before, so no event of this one is in the report
  have hlt : ∀ d ∈ r.ended, d.task.id < e.started := by
    intro d hd
    rw [h.started]
    exact (List.getElem?_eq_some_iff.mp (h.ended d hd)).1
  have hhandles : Worker.handles ⟨e.obey (.start job), .free⟩ =
      Worker.handles ⟨e, .starting job⟩ ++ [e.started] := rfl
  refine ⟨?_, ?_, ?_, ?_, ?_, ?_, h.events, h.once, ?_⟩
  · rw [h.order]
    simp [Hand.command, Engine.obey]
  · show e.started + 1 = _
    rw [h.started, Engine.jobs_append, List.length_append]
    rfl
  · intro t
    -- the commands leave the new task besides those they left before
    have hremaining : remaining (r.obeyed ++ [.start job]) [] 0 =
        remaining r.obeyed [] 0 ++ [⟨e.started, job⟩] := by
      rw [Engine.remaining_append, Nat.zero_add, ← h.started]
      rfl
    rw [hremaining]
    show t ∈ e.running ++ [⟨e.started, job⟩] ↔ _
    rw [List.mem_append, List.mem_append, h.running t, List.mem_singleton]
    simp only [spared_starting, spared_free, and_true]
    constructor
    · rintro (⟨hleft, hended⟩ | rfl)
      · exact ⟨.inl hleft, hended⟩
      · exact ⟨.inr rfl, fun d hd => Nat.ne_of_lt (hlt d hd)⟩
    · rintro ⟨hleft | rfl, hended⟩
      · exact .inl ⟨hleft, hended⟩
      · exact .inr rfl
  · intro t ht
    rw [hhandles]
    rcases List.mem_append.mp ht with hold | hnew
    · exact List.mem_append_left _ (h.held t hold)
    · rw [List.mem_singleton.mp hnew]
      exact List.mem_append_right _ List.mem_cons_self
  · rw [hhandles]
    refine List.nodup_append.mpr ⟨h.handles_nodup, List.pairwise_singleton _ _, ?_⟩
    intro id hid new hnew
    rw [List.mem_singleton.mp hnew]
    exact Nat.ne_of_lt (h.handles_lt id hid)
  · intro id hid
    rw [hhandles] at hid
    rcases List.mem_append.mp hid with hold | hnew
    · exact Nat.lt_succ_of_lt (h.handles_lt id hold)
    · rw [List.mem_singleton.mp hnew]
      exact Nat.lt_succ_self _
  · intro d hd
    have hjob := h.ended d hd
    rw [Engine.jobs_append, List.getElem?_append_left (List.getElem?_eq_some_iff.mp hjob).1]
    exact hjob

/-- The next of the tasks in hand is stopped. -/
theorem Sound.stop {e : Engine} {id : Nat} {ids : List Nat}
    (h : Sound ⟨e, .stopping (id :: ids)⟩ r given) : Sound ⟨e.stop id, .stopping ids⟩ r given := by
  -- the task is in hand once, so those that are left in hand are all but this one
  obtain ⟨hfresh, hnodup⟩ := List.nodup_cons.mp h.handles_nodup
  refine ⟨h.order, h.started, ?_, ?_, hnodup, ?_, h.events, h.once, h.ended⟩
  · intro t
    rw [Engine.mem_stop, h.running t]
    simp only [spared_stopping, List.mem_cons]
    constructor
    · rintro ⟨⟨hleft, hended, hin⟩, hne⟩
      exact ⟨hleft, hended, hin.resolve_left hne⟩
    · rintro ⟨hleft, hended, hin⟩
      exact ⟨⟨hleft, hended, .inr hin⟩, fun heq => hfresh (List.mem_append_left _ (heq ▸ hin))⟩
  · intro t ht
    obtain ⟨hrunning, hne⟩ := Engine.mem_stop.mp ht
    -- what is under way was held, and the one that is stopped no longer is under way
    have hheld : t.id ∈ id :: Worker.handles ⟨e, .stopping ids⟩ := h.held t hrunning
    exact (List.mem_cons.mp hheld).resolve_left hne
  · exact fun i hi => h.handles_lt i (List.mem_cons_of_mem _ hi)

/-- When all tasks in hand are stopped, none is under way. -/
theorem Sound.stopped {e : Engine} (h : Sound ⟨e, .stopping []⟩ r given) :
    Sound ⟨e, .free⟩ { r with obeyed := r.obeyed ++ [.cancelPending] } given := by
  have hjobs : jobs (r.obeyed ++ [.cancelPending]) = jobs r.obeyed := by
    rw [Engine.jobs_append]
    exact List.append_nil _
  have hremaining : remaining (r.obeyed ++ [.cancelPending]) [] 0 = [] := by
    rw [Engine.remaining_append]
    rfl
  refine ⟨?_, ?_, ?_, h.held, h.handles_nodup, h.handles_lt, h.events, h.once, ?_⟩
  · rw [h.order]
    simp [Hand.command]
  · rw [hjobs]
    exact h.started
  · intro t
    -- no task is spared with none in hand, and the cancelling leaves none
    rw [hremaining, h.running t]
    simp
  · rw [hjobs]
    exact h.ended

/-- Whatever the thread has in hand, going on with it keeps the invariant. -/
theorem Sound.work (h : Sound w r given) :
    Sound w.work { r with obeyed := r.obeyed ++ w.obeys } given := by
  obtain ⟨e, hand⟩ := w
  cases hand with
  | free =>
    show Sound _ { r with obeyed := r.obeyed ++ [] } _
    rw [List.append_nil]
    exact h
  | starting job => exact h.start
  | stopping ids =>
    cases ids with
    | nil => exact h.stopped
    | cons id ids =>
      show Sound _ { r with obeyed := r.obeyed ++ [] } _
      rw [List.append_nil]
      exact h.stop

/-! ### A task ends, an event is heard -/

/-- A task that ends is entered in the report with the event that it leaves. -/
theorem Sound.complete (h : Sound w r given) (id : Nat) (answer : Search.Request → Result) :
    Sound { w with engine := w.engine.complete id answer }
      { r with ended := r.ended ++ (w.engine.ending? id answer).toList } given := by
  unfold Engine.ending?
  rcases w.engine.complete_cases id answer with
    ⟨t, ht, hid, hfind, hcomplete⟩ | ⟨_, hfind, hcomplete⟩
  · rw [hfind, hcomplete]
    -- being under way, it has not ended before
    obtain ⟨hleft, hfresh, hspared⟩ := (h.running t).mp ht
    refine ⟨h.order, h.started, ?_, ?_, h.handles_nodup, h.handles_lt, ?_, ?_, ?_⟩
    · intro u
      show u ∈ (w.engine.stop id).running ↔
        _ ∧ (∀ d ∈ r.ended ++ [Ending.mk t answer], _) ∧ w.Spared u.id
      rw [Engine.mem_stop, h.running u, List.forall_mem_append, List.forall_mem_singleton, ← hid]
      constructor
      · rintro ⟨⟨hleft, hended, hspared⟩, hne⟩
        exact ⟨hleft, ⟨hended, hne.symm⟩, hspared⟩
      · rintro ⟨hleft, ⟨hended, hne⟩, hspared⟩
        exact ⟨⟨hleft, hended, hspared⟩, hne.symm⟩
    · exact fun u hu => h.held u (Engine.mem_stop.mp hu).1
    · show r.heard ++ (w.engine.events ++ [t.job.event answer]) =
        (r.ended ++ [Ending.mk t answer]).map Ending.event
      rw [← List.append_assoc, h.events, List.map_append]
      rfl
    · show ((r.ended ++ [Ending.mk t answer]).map fun e => e.task.id).Nodup
      rw [List.map_append]
      refine List.nodup_append.mpr ⟨h.once, List.pairwise_singleton _ _, ?_⟩
      intro n hn m hm
      obtain ⟨d, hd, rfl⟩ := List.mem_map.mp hn
      rw [List.mem_singleton.mp hm]
      exact hfresh d hd
    · intro d hd
      rcases List.mem_append.mp hd with hold | hnew
      · exact h.ended d hold
      · rw [List.mem_singleton.mp hnew]
        exact Engine.getElem?_of_mem_remaining hleft
  · rw [hfind, hcomplete]
    show Sound w { r with ended := r.ended ++ [] } given
    rw [List.append_nil]
    exact h

/-- An event that is heard is taken off those that wait. -/
theorem Sound.hear (h : Sound w r given) :
    Sound { w with engine := w.engine.take.2 }
      { r with heard := r.heard ++ w.engine.take.1.toList } given := by
  -- where no event waits, nothing happens
  cases hevents : w.engine.events with
  | nil =>
    have htake : w.engine.take = (none, w.engine) := by simp [Engine.take, hevents]
    rw [htake]
    show Sound w { r with heard := r.heard ++ [] } given
    rw [List.append_nil]
    exact h
  | cons event events =>
    have htake : w.engine.take = (some event, { w.engine with events := events }) := by
      simp [Engine.take, hevents]
    rw [htake]
    refine ⟨h.order, h.started, h.running, h.held, h.handles_nodup, h.handles_lt, ?_, h.once, h.ended⟩
    show r.heard ++ [event] ++ events = _
    rw [List.append_assoc, ← h.events, hevents]
    rfl

/-! ### Every move -/

/-- **Every move keeps the invariant.** -/
theorem Sound.step (h : Sound w r given) (m : Move) :
    Sound (w.step m) (w.record r m) (given ++ told [m]) := by
  -- nothing is told in a move of another kind
  have hquiet {w' : Worker} {r' : Report} (h' : Sound w' r' given) : Sound w' r' (given ++ []) := by
    rwa [List.append_nil]
  cases m with
  | tell c => exact h.tell c
  | takeUp unnoticed => exact hquiet (h.takeUp unnoticed)
  | work => exact hquiet h.work
  | complete id answer => exact hquiet (h.complete id answer)
  | hear => exact hquiet h.hear

/-- **The invariant holds all through a run.** -/
theorem sound_run (ms : List Move) : Sound (run ms).1 (run ms).2 (told ms) := by
  induction ms using List.reverseRecOn with
  | nil => exact sound_start
  | append_singleton ms m ih =>
    rw [run_concat, told_append]
    exact ih.step m

/-! ## What an engine promises -/

/-- A task is still under way if it was started, and neither ended nor was cancelled. -/
theorem Sound.mem_running (h : Sound w r given) {front back : List Engine.Command} {job : Job}
    (hobeyed : r.obeyed = front ++ .start job :: back)
    (fresh : ∀ e ∈ r.ended, e.task.id ≠ (jobs front).length) (kept : .cancelPending ∉ back)
    (spared : w.Spared (jobs front).length) : ⟨(jobs front).length, job⟩ ∈ w.engine.running :=
  (h.running _).mpr ⟨Engine.mem_remaining_of_start hobeyed kept, fresh, spared⟩

/-- A task under way leaves the event of its job when it ends. -/
theorem Sound.complete_events (h : Sound w r given) {id : Nat} {job : Job}
    (hin : ⟨id, job⟩ ∈ w.engine.running) (answer : Search.Request → Result) :
    (w.engine.complete id answer).events = w.engine.events ++ [job.event answer] := by
  rcases w.engine.complete_cases id answer with ⟨t, ht, hid, _, hcomplete⟩ | ⟨hnone, _, _⟩
  · -- there is one task of this number only, since its job is the one of its number
    have hjob := Engine.getElem?_of_mem_remaining ((h.running _).mp hin).1
    have hother := Engine.getElem?_of_mem_remaining ((h.running t).mp ht).1
    rw [hid] at hother
    have hsame : job = t.job := Option.some.inj (hjob.symm.trans hother)
    rw [hcomplete, hsame]
  · exact absurd rfl (hnone _ hin)

/-- A task that has ended or was cancelled leaves nothing any more. -/
theorem Sound.complete_eq (h : Sound w r given) {front back : List Engine.Command} {job : Job}
    (hobeyed : r.obeyed = front ++ .start job :: back)
    (gone : (∃ e ∈ r.ended, e.task.id = (jobs front).length) ∨ .cancelPending ∈ back ∨
      ¬w.Spared (jobs front).length) (answer : Search.Request → Result) :
    w.engine.complete (jobs front).length answer = w.engine := by
  rcases w.engine.complete_cases (jobs front).length answer with ⟨t, ht, hid, _, _⟩ | ⟨_, _, hsame⟩
  · obtain ⟨hleft, hfresh, hspared⟩ := (h.running t).mp ht
    rw [hid] at hfresh hspared
    -- it has ended already, a cancelling was obeyed behind it, or the thread has just stopped it
    rcases gone with ⟨e, he, heq⟩ | hcancelled | hstopped
    · exact absurd heq (hfresh e he)
    · -- the task was started before the cancelling, and only later ones are left
      obtain ⟨between, later, rfl⟩ := List.append_of_mem hcancelled
      have hsplit : r.obeyed = (front ++ .start job :: between) ++ .cancelPending :: later := by
        rw [hobeyed, List.append_assoc]
        rfl
      have hle := Engine.le_of_mem_remaining hsplit hleft
      have hjobs : jobs (.start job :: between) = job :: jobs between := rfl
      rw [Engine.jobs_append, hjobs, List.length_append, List.length_cons, hid] at hle
      omega
    · exact absurd hspared hstopped
  · exact hsame

/-- While the thread has nothing in hand, all tasks under way are held, whatever handles are
forgotten. -/
theorem Sound.held_forget (h : Sound w r given) (free : w.hand = .free) (unnoticed : Nat → Bool) :
    ∀ t ∈ w.engine.running, t.id ∈ (w.engine.forget unnoticed).handles := by
  obtain ⟨e, hand⟩ := w
  obtain rfl : hand = .free := free
  exact (h.forget unnoticed).held

/-- Cancelling reaches every task under way, whatever handles are forgotten before. -/
theorem Sound.running_cancel (h : Sound w r given) (free : w.hand = .free)
    (unnoticed : Nat → Bool) : ((w.engine.forget unnoticed).obey .cancelPending).running = [] := by
  refine List.filter_eq_nil_iff.mpr fun t ht => ?_
  simpa using h.held_forget free unnoticed t ht

/-- A move adds to the report; the task that ends is one under way. -/
theorem record_adds (w : Worker) (r : Report) (m : Move) :
    ∃ obeyed late, (w.record r m).obeyed = r.obeyed ++ obeyed ∧
      (w.record r m).ended = r.ended ++ late ∧ ∀ e ∈ late, e.task ∈ w.engine.running := by
  -- only the thread obeys, and only a task that ends adds an event
  cases m with
  | work => exact ⟨w.obeys, [], rfl, (List.append_nil _).symm, nofun⟩
  | complete id answer =>
    refine ⟨[], _, (List.append_nil _).symm, rfl, fun e he => ?_⟩
    unfold Engine.ending? at he
    rcases w.engine.complete_cases id answer with ⟨t, ht, _, hfind, _⟩ | ⟨_, hfind, _⟩
    · rw [hfind] at he
      rw [List.mem_singleton.mp he]
      exact ht
    · rw [hfind] at he
      exact absurd he List.not_mem_nil
  | _ => exact ⟨[], [], (List.append_nil _).symm, (List.append_nil _).symm, nofun⟩

/-- **What was started before a cancelling does not end after it.** -/
theorem late_endings (ms more : List Move) :
    ∃ obeyed late, (run (ms ++ more)).2.obeyed = (run ms).2.obeyed ++ obeyed ∧
      (run (ms ++ more)).2.ended = (run ms).2.ended ++ late ∧
      ∀ front back, (run ms).2.obeyed = front ++ .cancelPending :: back →
        ∀ e ∈ late, (jobs front).length ≤ e.task.id := by
  induction more using List.reverseRecOn with
  | nil =>
    rw [List.append_nil]
    exact ⟨[], [], (List.append_nil _).symm, (List.append_nil _).symm, fun _ _ _ => nofun⟩
  | append_singleton more m ih =>
    obtain ⟨obeyed, late, hobeyed, hended, hlate⟩ := ih
    obtain ⟨obeyed', late', hobeyed', hended', hlate'⟩ :=
      record_adds (run (ms ++ more)).1 (run (ms ++ more)).2 m
    -- the last move adds to what the moves before it have added
    rw [← List.append_assoc, run_concat]
    refine ⟨obeyed ++ obeyed', late ++ late', ?_, ?_, ?_⟩
    · rw [← List.append_assoc, ← hobeyed]
      exact hobeyed'
    · rw [← List.append_assoc, ← hended]
      exact hended'
    · intro front back hcancel e he
      rcases List.mem_append.mp he with hold | hnew
      · exact hlate front back hcancel e hold
      · -- what ends now is under way, so it was started behind the cancelling
        have hleft := (((sound_run (ms ++ more)).running _).mp (hlate' e hnew)).1
        have hsplit : (run (ms ++ more)).2.obeyed =
            front ++ .cancelPending :: (back ++ obeyed) := by
          rw [hobeyed, hcancel, List.append_assoc]
          rfl
        exact Engine.le_of_mem_remaining hsplit hleft

/-- **Each job that an engine is given leaves one event at most, of its own kind, under its own
generation and with the answer to its own request, and it can be cancelled.** Whatever an engine is
told, and however its thread, the ends of its tasks and the hearing of its events come between each
other:

* commands are obeyed in the order in which they were given;
* the events, heard and waiting, are those of the ended tasks, each of which has ended once and has
  done the job of its number;
* a job that was started leaves its event when its task ends, where it has not ended before and no
  cancelling that came after it was obeyed or has stopped it; where it has, nothing comes of it;
* once a cancelling is obeyed, only tasks started after it end;
* tasks under way are held, and held still when the handles of ended ones are forgotten, so that the
  next cancelling stops them all;
* one way for the thread to go on, with nothing in between, is what the engine does in one go. -/
theorem exactly_once (ms : List Move) {w : Worker} {r : Report} (hrun : run ms = (w, r)) :
    told ms = r.obeyed ++ (w.hand.command ++ w.engine.commands) ∧
    (r.heard ++ w.engine.events = r.ended.map Ending.event ∧
      (r.ended.map fun e => e.task.id).Nodup ∧
      ∀ e ∈ r.ended, (jobs (told ms))[e.task.id]? = some e.task.job) ∧
    (∀ front job back answer, r.obeyed = front ++ .start job :: back →
      ((∀ e ∈ r.ended, e.task.id ≠ (jobs front).length) → .cancelPending ∉ back →
        w.Spared (jobs front).length →
        (w.engine.complete (jobs front).length answer).events =
          w.engine.events ++ [job.event answer]) ∧
      ((∃ e ∈ r.ended, e.task.id = (jobs front).length) ∨ .cancelPending ∈ back ∨
        ¬w.Spared (jobs front).length → w.engine.complete (jobs front).length answer = w.engine)) ∧
    (∀ front back more, r.obeyed = front ++ .cancelPending :: back →
      ∃ late, (run (ms ++ more)).2.ended = r.ended ++ late ∧
        ∀ e ∈ late, (jobs front).length ≤ e.task.id) ∧
    (∀ t ∈ w.engine.running, t.id ∈ w.handles) ∧
    (w.hand = .free → ∀ unnoticed,
      (∀ t ∈ w.engine.running, t.id ∈ (w.engine.forget unnoticed).handles) ∧
      ((w.engine.forget unnoticed).obey .cancelPending).running = []) ∧
    (w.hand = .free →
      ∃ more, told more = [] ∧ (run (ms ++ more)).1 = ⟨w.engine.process, .free⟩) := by
  have sound : Sound w r (told ms) := by
    have h := sound_run ms
    rw [hrun] at h
    exact h
  refine ⟨sound.order, ⟨sound.events, sound.once, ?_⟩, ?_, ?_, sound.held, ?_, ?_⟩
  · intro e he
    have hjob := sound.ended e he
    -- jobs are told in the order in which they are obeyed, so the numbers agree
    rw [sound.order, Engine.jobs_append,
      List.getElem?_append_left (List.getElem?_eq_some_iff.mp hjob).1]
    exact hjob
  · intro front job back answer hobeyed
    exact ⟨fun fresh kept spared =>
        sound.complete_events (sound.mem_running hobeyed fresh kept spared) answer,
      fun gone => sound.complete_eq hobeyed gone answer⟩
  · intro front back more hcancel
    obtain ⟨_, late, _, hended, hlate⟩ := late_endings ms more
    rw [hrun] at hended hlate
    exact ⟨late, hended, hlate front back hcancel⟩
  · exact fun free unnoticed =>
      ⟨sound.held_forget free unnoticed, sound.running_cancel free unnoticed⟩
  · intro free
    refine exists_run_process ?_
    rw [hrun, ← free]

/-- Two jobs are started and cancelled; the first still ends before it is stopped, the second does not.
The job given after the cancelling leaves its event. -/
theorem exactly_once_cancelled :
    let nothing : Search.Request → Result := fun _ => .ok []
    let p := run [.tell (.start (.timer 1 100)), .tell (.start (.request 1 {})),
      .takeUp fun _ => true, .work, .takeUp fun _ => true, .work,
      .tell .cancelPending, .tell (.start (.request 2 {})), .takeUp fun _ => true,
      .complete 0 nothing, .work, .work, .complete 1 nothing, .work, .takeUp fun _ => true, .work]
    p.2.obeyed = [.start (.timer 1 100), .start (.request 1 {}), .cancelPending,
      .start (.request 2 {})] ∧
    p.2.ended = [⟨⟨0, .timer 1 100⟩, nothing⟩] ∧
    p.1.engine.complete 1 nothing = p.1.engine ∧
    (p.1.engine.complete 2 nothing).events =
      [.debounceElapsed 1, .searchCompleted 2 (.ok [])] := by
  intro nothing p
  have hobeyed : p.2.obeyed = [.start (.timer 1 100), .start (.request 1 {}), .cancelPending,
      .start (.request 2 {})] := rfl
  have hended : p.2.ended = [⟨⟨0, .timer 1 100⟩, nothing⟩] := rfl
  obtain ⟨_, _, started, _⟩ := exactly_once _ (rfl : run _ = (p.1, p.2))
  obtain ⟨_, gone⟩ := started [.start (.timer 1 100)] (.request 1 {})
    [.cancelPending, .start (.request 2 {})] nothing hobeyed
  obtain ⟨leaves, _⟩ := started [.start (.timer 1 100), .start (.request 1 {}), .cancelPending]
    (.request 2 {}) [] nothing hobeyed
  have fresh : ∀ e ∈ p.2.ended, e.task.id ≠ 2 := by
    rw [hended]
    decide
  exact ⟨hobeyed, hended, gone (.inr (.inl List.mem_cons_self)),
    leaves fresh List.not_mem_nil nofun⟩

end Worker

end IdeaBoard
