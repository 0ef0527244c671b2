import IdeaBoard.Engine

/-!
# IdeaBoard — the tasks of an engine and the jobs it was given

Commands are obeyed in the order in which they were given, so the tasks are numbered in that order:
task `n` does the `n`-th job that the engine was ever given. Cancelling stops all tasks under way.

* **`Accounted`** — the invariant: against the list of all jobs so far, the commands that wait hold
  the last ones, and each task under way does the job of its number.
* **`complete_cases`** — all that can come of a task's coming to its end.
* **`remaining`** — the tasks that are left under way once all commands have been obeyed. Obeying a
  command keeps them (`remaining_process`), and a task that ends only takes itself away.
-/

namespace IdeaBoard.Engine

/-! ## Jobs given out -/

def Command.job? : Command → Option Job
  | .start job => some job
  | .cancelPending => none

/-- The jobs that some commands start, in order. -/
def jobs (cs : List Command) : List Job := cs.filterMap Command.job?

@[simp] theorem jobs_append (cs ds : List Command) : jobs (cs ++ ds) = jobs cs ++ jobs ds :=
  List.filterMap_append

/-- How the engine stands against all jobs that it was ever given, oldest first. -/
structure Accounted (e : Engine) (given : List Job) : Prop where
  started_le : e.started ≤ given.length
  waiting : jobs e.commands = given.drop e.started
  running : ∀ t ∈ e.running, given[t.id]? = some t.job
  held : ∀ t ∈ e.running, t.id ∈ e.handles

theorem accounted_idle : Accounted {} [] where
  started_le := Nat.le_refl _
  waiting := rfl
  running := fun _ h => absurd h List.not_mem_nil
  held := fun _ h => absurd h List.not_mem_nil

variable {e : Engine} {given : List Job}

/-- New commands wait behind the others. -/
theorem Accounted.told (h : e.Accounted given) (cs : List Command) :
    Accounted { e with commands := e.commands ++ cs } (given ++ jobs cs) where
  started_le := by
    rw [List.length_append]
    exact Nat.le_trans h.started_le (Nat.le_add_right _ _)
  waiting := by
    rw [jobs_append, h.waiting]
    exact (List.drop_append_of_le_length h.started_le).symm
  running := by
    intro t ht
    have hjob := h.running t ht
    have hlt : t.id < given.length := (List.getElem?_eq_some_iff.mp hjob).1
    rw [List.getElem?_append_left hlt]
    exact hjob
  held := h.held

/-- The handle of a task under way is not forgotten. -/
theorem mem_handles_prune {t : Task} (ht : t ∈ e.running) (h : t.id ∈ e.handles) :
    t.id ∈ e.prune.handles := by
  refine List.mem_filter.mpr ⟨h, List.any_eq_true.mpr ⟨t, ht, ?_⟩⟩
  simp

/-- Starting a task gives it the number of the oldest job that waits. -/
theorem Accounted.start (h : e.Accounted given) {job : Job} {cs : List Command}
    (hcs : e.commands = .start job :: cs) :
    Accounted (({ e with commands := cs } : Engine).prune.obey (.start job)) given := by
  have hwaiting : job :: jobs cs = given.drop e.started := by
    rw [← h.waiting, hcs]
    rfl
  -- so the oldest job that waits is the one behind all those that were started
  have hlt : e.started < given.length := by
    refine Nat.lt_of_not_le fun hge => ?_
    rw [List.drop_eq_nil_of_le hge] at hwaiting
    exact absurd hwaiting (by simp)
  rw [List.drop_eq_getElem_cons hlt] at hwaiting
  obtain ⟨hjob, hrest⟩ := List.cons.inj hwaiting
  refine ⟨hlt, hrest, ?_, ?_⟩
  · intro t ht
    rcases List.mem_append.mp ht with hold | hnew
    · exact h.running t hold
    · rw [List.mem_singleton.mp hnew]
      exact List.getElem?_eq_some_iff.mpr ⟨hlt, hjob.symm⟩
  · intro t ht
    rcases List.mem_append.mp ht with hold | hnew
    · have hhandle : t.id ∈ ({ e with commands := cs } : Engine).prune.handles :=
        mem_handles_prune hold (h.held t hold)
      exact List.mem_append_left _ hhandle
    · rw [List.mem_singleton.mp hnew]
      exact List.mem_append_right _ List.mem_cons_self

/-- Cancelling stops all that is under way. -/
theorem running_cancel (h : e.Accounted given) (cs : List Command) :
    (({ e with commands := cs } : Engine).prune.obey .cancelPending).running = [] := by
  refine List.filter_eq_nil_iff.mpr fun t ht => ?_
  -- forgetting the handles of ended tasks forgets none of these
  have hhandle : t.id ∈ ({ e with commands := cs } : Engine).prune.handles :=
    mem_handles_prune ht (h.held t ht)
  simpa using hhandle

/-- Cancelling takes up a command and starts nothing. -/
theorem Accounted.cancel (h : e.Accounted given) {cs : List Command}
    (hcs : e.commands = .cancelPending :: cs) :
    Accounted (({ e with commands := cs } : Engine).prune.obey .cancelPending) given where
  started_le := h.started_le
  waiting := by
    have hwaiting := h.waiting
    rw [hcs] at hwaiting
    exact hwaiting
  running := by
    rw [running_cancel h]
    exact fun _ ht => absurd ht List.not_mem_nil
  held := by
    rw [running_cancel h]
    exact fun _ ht => absurd ht List.not_mem_nil

/-- **Obeying a command keeps the account.** -/
theorem Accounted.process (h : e.Accounted given) : e.process.Accounted given := by
  unfold Engine.process
  split
  · exact h
  · next c cs hcs =>
    cases c with
    | start job => exact h.start hcs
    | cancelPending => exact h.cancel hcs

/-- All that can come of a task's coming to its end: it is under way, and is taken away and leaves its
event, or it is not, and nothing happens. -/
theorem complete_cases (e : Engine) (id : Nat) (answer : Search.Request → Result) :
    (∃ t ∈ e.running, t.id = id ∧ (e.running.find? fun t => t.id = id) = some t ∧
      e.complete id answer = { e with
        running := e.running.filter fun t => t.id ≠ id
        events := e.events ++ [t.job.event answer] }) ∨
    ((∀ t ∈ e.running, t.id ≠ id) ∧ (e.running.find? fun t => t.id = id) = none ∧
      e.complete id answer = e) := by
  unfold complete
  cases hfind : e.running.find? fun t => t.id = id with
  | none =>
    refine .inr ⟨fun t ht => ?_, rfl, rfl⟩
    simpa using List.find?_eq_none.mp hfind t ht
  | some t =>
    have hid : t.id = id := by simpa using List.find?_some hfind
    exact .inl ⟨t, List.mem_of_find?_eq_some hfind, hid, rfl, rfl⟩

/-- The end of a task has nothing to do with the commands that wait. -/
theorem complete_frame (e : Engine) (id : Nat) (answer : Search.Request → Result) :
    (e.complete id answer).commands = e.commands ∧ (e.complete id answer).started = e.started ∧
      (e.complete id answer).handles = e.handles := by
  rcases e.complete_cases id answer with ⟨t, _, _, _, hcomplete⟩ | ⟨_, _, hcomplete⟩ <;>
    rw [hcomplete] <;> exact ⟨rfl, rfl, rfl⟩

/-- A task that ends leaves the others as they are. -/
theorem running_complete (e : Engine) (id : Nat) (answer : Search.Request → Result) :
    ∀ t ∈ (e.complete id answer).running, t ∈ e.running := by
  intro u hu
  rcases e.complete_cases id answer with ⟨t, _, _, _, hcomplete⟩ | ⟨_, _, hcomplete⟩
  · rw [hcomplete] at hu
    exact (List.mem_filter.mp hu).1
  · rwa [hcomplete] at hu

/-- **The end of a task keeps the account.** -/
theorem Accounted.complete (h : e.Accounted given) (id : Nat) (answer : Search.Request → Result) :
    (e.complete id answer).Accounted given := by
  have hrunning := running_complete e id answer
  obtain ⟨hcommands, hstarted, hhandles⟩ := complete_frame e id answer
  refine ⟨hstarted ▸ h.started_le, ?_, ?_, ?_⟩
  · rw [hcommands, hstarted]
    exact h.waiting
  · exact fun t ht => h.running t (hrunning t ht)
  · intro t ht
    rw [hhandles]
    exact h.held t (hrunning t ht)

/-! ## What is left under way -/

/-- The tasks that are left under way once the commands have been obeyed, where the next task gets
the number `n`. -/
def remaining : List Command → List Task → Nat → List Task
  | [], ts, _ => ts
  | .start job :: cs, ts, n => remaining cs (ts ++ [⟨n, job⟩]) (n + 1)
  | .cancelPending :: cs, _, n => remaining cs [] n

def remains (e : Engine) : List Task := remaining e.commands e.running e.started

/-- Commands are obeyed one after the other, with the numbers going on. -/
theorem remaining_append (cs ds : List Command) (ts : List Task) (n : Nat) :
    remaining (cs ++ ds) ts n = remaining ds (remaining cs ts n) (n + (jobs cs).length) := by
  induction cs generalizing ts n with
  | nil => rfl
  | cons c cs ih =>
    cases c with
    | start job =>
      -- one more number is gone, and one command less is to come
      show remaining (cs ++ ds) _ _ = remaining ds (remaining cs _ _) _
      rw [ih]
      congr 1
      show n + 1 + (jobs cs).length = n + ((jobs cs).length + 1)
      omega
    | cancelPending => exact ih [] n

/-- A task that is left was under way before, or is one of those that the commands start. -/
theorem mem_remaining {cs : List Command} {ts : List Task} {n : Nat} {t : Task}
    (h : t ∈ remaining cs ts n) : t ∈ ts ∨ (n ≤ t.id ∧ t.id < n + (jobs cs).length) := by
  -- on the commands, over all tasks and numbers that they may find
  induction cs generalizing ts n with
  | nil => exact .inl h
  | cons c cs ih =>
    cases c with
    | start job =>
      have hlength : (jobs (.start job :: cs)).length = (jobs cs).length + 1 := rfl
      rcases ih h with hin | ⟨hle, hlt⟩
      · rcases List.mem_append.mp hin with hold | hnew
        · exact .inl hold
        · obtain rfl := List.mem_singleton.mp hnew
          refine .inr ⟨Nat.le_refl n, ?_⟩
          show n < n + (jobs (.start job :: cs)).length
          omega
      · exact .inr ⟨by omega, by omega⟩
    | cancelPending =>
      rcases ih h with hin | hnew
      · exact absurd hin List.not_mem_nil
      · exact .inr hnew

/-- More tasks under way leave no fewer. -/
theorem remaining_subset {ts us : List Task} (h : ts ⊆ us) (cs : List Command) (n : Nat) :
    remaining cs ts n ⊆ remaining cs us n := by
  induction cs generalizing ts us n with
  | nil => exact h
  | cons c cs ih =>
    cases c with
    | start job => exact ih (List.append_subset.mpr ⟨fun t ht => List.mem_append_left _ (h ht),
        fun t ht => List.mem_append_right _ ht⟩) (n + 1)
    | cancelPending => exact ih (List.Subset.refl _) n

/-- Where nothing is to be cancelled, all tasks under way are left. -/
theorem subset_remaining {cs : List Command} (h : .cancelPending ∉ cs) (ts : List Task) (n : Nat) :
    ts ⊆ remaining cs ts n := by
  induction cs generalizing ts n with
  | nil => exact List.Subset.refl _
  | cons c cs ih =>
    have hrest : .cancelPending ∉ cs := fun hin => h (List.mem_cons_of_mem _ hin)
    cases c with
    | start job => exact fun t ht => ih hrest _ _ (List.mem_append_left _ ht)
    | cancelPending => exact absurd List.mem_cons_self h

/-- The number of the task for the next job that is given. -/
theorem Accounted.next_eq (h : e.Accounted given) :
    e.started + (jobs e.commands).length = given.length := by
  have hle := h.started_le
  rw [h.waiting, List.length_drop]
  omega

/-- Behind the commands that wait, new ones find the tasks that those leave. -/
theorem remains_told (h : e.Accounted given) (cs : List Command) :
    remains { e with commands := e.commands ++ cs } = remaining cs e.remains given.length := by
  unfold remains
  rw [remaining_append, h.next_eq]

/-- Obeying a command ahead of time changes nothing of what is left in the end. -/
theorem remains_process (h : e.Accounted given) : e.process.remains = e.remains := by
  unfold Engine.process
  split
  · rfl
  · next c cs hcs =>
    unfold remains
    rw [hcs]
    cases c with
    | start job => rfl
    | cancelPending =>
      rw [running_cancel h]
      rfl

/-- A task that ends leaves no more than was left before. -/
theorem remains_complete (e : Engine) (id : Nat) (answer : Search.Request → Result) :
    (e.complete id answer).remains ⊆ e.remains := by
  have hrunning := running_complete e id answer
  obtain ⟨hcommands, hstarted, _⟩ := complete_frame e id answer
  unfold remains
  rw [hcommands, hstarted]
  exact remaining_subset hrunning _ _

end IdeaBoard.Engine
