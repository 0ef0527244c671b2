import IdeaBoard.Proofs.Engine

/-!
# IdeaBoard — what an engine still has to tell

On its way from the page to its event a job is a command that waits, then a task under way, then an event
that waits; a cancelling behind it in the queue of commands takes it off that way. Which of the two will
happen to a job is settled as soon as the commands have been given.

* **`outstanding`** — what is on its way to a page, place by place: commands without a cancelling behind
  them, tasks under way without a cancelling that waits, and events of the live generation.
* **`remaining_eq`** / **`outstanding_eq`** — of commands and tasks, those are on their way that remain
  once all commands have been obeyed.
* **`doomed`** — the other tasks, under way or still to be started: a cancelling that waits will stop
  them. One that is under way can still end before that (`running_subset_doomed`), and no other task can
  end beside its way.
-/

namespace IdeaBoard.Engine

open Search (Generation)

/-! ## On its way -/

/-- What a page can wait for, with its generation. -/
inductive Token where
  | timer (generation : Generation)
  | answer (generation : Generation)
deriving DecidableEq

def Token.generation : Token → Generation
  | .timer g => g
  | .answer g => g

def Job.token : Job → Token
  | .timer g _ => .timer g
  | .request g _ => .answer g

def Event.token : Event → Token
  | .debounceElapsed g => .timer g
  | .searchCompleted g _ => .answer g

def Task.token (t : Task) : Token := t.job.token

/-- An event stands for what its job was asked for. -/
theorem token_event (job : Job) (answer : Search.Request → Result) :
    (job.event answer).token = job.token := by
  cases job <;> rfl

/-- The jobs of the commands that have no cancelling behind them. -/
def uncancelled : List Command → List Job
  | [] => []
  | .start job :: cs => if .cancelPending ∈ cs then uncancelled cs else job :: uncancelled cs
  | .cancelPending :: cs => uncancelled cs

/-- The tasks under way, where no cancelling waits. -/
def unstopped (e : Engine) : List Task := if .cancelPending ∈ e.commands then [] else e.running

/-- What is on its way to a page whose live generation is this. -/
def outstanding (e : Engine) (live : Generation) : List Token :=
  (e.events.map Event.token).filter (fun t => t.generation = live) ++
    (e.unstopped.map Task.token ++ (uncancelled e.commands).map Job.token)

/-- The commands leave the tasks under way as they are or stop them all, and start their own. -/
theorem remaining_eq (cs : List Command) (ts : List Task) (n : Nat) :
    remaining cs ts n = (if .cancelPending ∈ cs then [] else ts) ++ remaining cs [] n := by
  -- on the commands: a task that is started is stopped only by a cancelling behind it
  induction cs generalizing ts n with
  | nil => simp [remaining]
  | cons c cs ih =>
    cases c with
    | start job =>
      have hhere : remaining (.start job :: cs) ts n =
          (if .cancelPending ∈ cs then [] else ts ++ [⟨n, job⟩]) ++ remaining cs [] (n + 1) :=
        ih (ts ++ [(⟨n, job⟩ : Task)]) (n + 1)
      have hnone : remaining (.start job :: cs) [] n =
          (if .cancelPending ∈ cs then [] else [⟨n, job⟩]) ++ remaining cs [] (n + 1) :=
        ih [(⟨n, job⟩ : Task)] (n + 1)
      rw [hhere, hnone]
      by_cases hcancel : .cancelPending ∈ cs
      · simp [hcancel]
      · simp [hcancel]
    | cancelPending =>
      show remaining cs [] n = _ ++ remaining cs [] n
      simp

/-- Of the jobs in a queue of commands those remain that no cancelling follows. -/
theorem map_job_remaining (cs : List Command) (n : Nat) :
    (remaining cs [] n).map Task.job = uncancelled cs := by
  induction cs generalizing n with
  | nil => rfl
  | cons c cs ih =>
    cases c with
    | start job =>
      show (remaining cs [⟨n, job⟩] (n + 1)).map Task.job = _
      rw [remaining_eq, List.map_append, ih, uncancelled]
      -- a job is dropped here just where its task does not remain
      by_cases hcancel : .cancelPending ∈ cs
      · simp [hcancel]
      · simp [hcancel]
    | cancelPending => exact ih n

theorem remains_eq (e : Engine) :
    e.remains = e.unstopped ++ remaining e.commands [] e.started := remaining_eq _ _ _

/-- **Commands and tasks are on their way just when they remain.** -/
theorem outstanding_eq (e : Engine) (live : Generation) :
    e.outstanding live = (e.events.map Event.token).filter (fun t => t.generation = live) ++
      e.remains.map Task.token := by
  have hcommands : (remaining e.commands [] e.started).map Task.token =
      (uncancelled e.commands).map Job.token := by
    rw [← map_job_remaining e.commands e.started, List.map_map]
    rfl
  rw [outstanding, remains_eq, List.map_append, hcommands]

/-! ## Off its way -/

/-- The tasks that the commands will stop, where the next task gets the number `n`. -/
def stopped : List Command → List Task → Nat → List Task
  | [], _, _ => []
  | .start job :: cs, ts, n => stopped cs (ts ++ [⟨n, job⟩]) (n + 1)
  | .cancelPending :: cs, ts, n => ts ++ stopped cs [] n

def doomed (e : Engine) : List Task := stopped e.commands e.running e.started

/-- Commands stop what those before them have left. -/
theorem stopped_append (cs ds : List Command) (ts : List Task) (n : Nat) :
    stopped (cs ++ ds) ts n =
      stopped cs ts n ++ stopped ds (remaining cs ts n) (n + (jobs cs).length) := by
  induction cs generalizing ts n with
  | nil => rfl
  | cons c cs ih =>
    cases c with
    | start job =>
      show stopped (cs ++ ds) _ _ = stopped cs _ _ ++ stopped ds (remaining cs _ _) _
      rw [ih]
      congr 2
      show n + 1 + (jobs cs).length = n + ((jobs cs).length + 1)
      omega
    | cancelPending =>
      -- what is under way here is stopped now, the rest by the commands behind
      show ts ++ stopped (cs ++ ds) [] n = (ts ++ stopped cs [] n) ++ _
      rw [ih, List.append_assoc]
      rfl

/-- The more tasks are under way, the more are stopped. -/
theorem stopped_subset {ts us : List Task} (h : ts ⊆ us) (cs : List Command) (n : Nat) :
    stopped cs ts n ⊆ stopped cs us n := by
  induction cs generalizing ts us n with
  | nil => exact List.Subset.refl _
  | cons c cs ih =>
    cases c with
    | start job =>
      have hsubset : ts ++ [(⟨n, job⟩ : Task)] ⊆ us ++ [(⟨n, job⟩ : Task)] :=
        List.append_subset.mpr
          ⟨List.subset_append_of_subset_left _ h, List.subset_append_right _ _⟩
      exact ih hsubset (n + 1)
    | cancelPending =>
      exact List.append_subset.mpr
        ⟨List.subset_append_of_subset_left _ h, List.subset_append_right _ _⟩

/-- A task that will be stopped is under way, or is one of those that the commands start. -/
theorem mem_stopped {cs : List Command} {ts : List Task} {n : Nat} {t : Task}
    (h : t ∈ stopped cs ts n) : t ∈ ts ∨ (n ≤ t.id ∧ t.id < n + (jobs cs).length) := by
  induction cs generalizing ts n with
  | nil => exact absurd h List.not_mem_nil
  | cons c cs ih =>
    cases c with
    | start job =>
      have hlength : (jobs (.start job :: cs)).length = (jobs cs).length + 1 := rfl
      -- the task of this command is not under way yet, but is for the commands behind it
      rcases ih h with hin | ⟨hle, hlt⟩
      · rcases List.mem_append.mp hin with hold | hnew
        · exact .inl hold
        · obtain rfl := List.mem_singleton.mp hnew
          refine .inr ⟨Nat.le_refl n, ?_⟩
          show n < n + (jobs (.start job :: cs)).length
          omega
      · exact .inr ⟨by omega, by omega⟩
    | cancelPending =>
      rcases List.mem_append.mp h with hold | hlater
      · exact .inl hold
      · exact .inr ((ih hlater).resolve_left List.not_mem_nil)

variable {e : Engine} {given : List Job}

/-- A task that will be stopped does a job that was given. -/
theorem Accounted.doomed_lt (h : e.Accounted given) {t : Task} (ht : t ∈ e.doomed) :
    t.id < given.length := by
  rcases mem_stopped ht with hrunning | ⟨_, hlt⟩
  · exact (List.getElem?_eq_some_iff.mp (h.running t hrunning)).1
  · rw [← h.next_eq]
    exact hlt

/-- New commands can doom what remained before. -/
theorem doomed_told (h : e.Accounted given) (cs : List Command) :
    doomed { e with commands := e.commands ++ cs } =
      e.doomed ++ stopped cs e.remains given.length := by
  unfold doomed
  rw [stopped_append, h.next_eq]
  rfl

/-- A command that is obeyed dooms nothing new. -/
theorem doomed_process (h : e.Accounted given) : e.process.doomed ⊆ e.doomed := by
  unfold Engine.process
  split
  · exact List.Subset.refl _
  · next c cs hcs =>
    unfold doomed
    rw [hcs]
    cases c with
    | start job => exact List.Subset.refl _
    | cancelPending =>
      -- the tasks under way were doomed, and are gone
      rw [running_cancel h]
      exact List.subset_append_right _ _

/-- A task that ends dooms nothing new. -/
theorem doomed_complete (e : Engine) (id : Nat) (answer : Search.Request → Result) :
    (e.complete id answer).doomed ⊆ e.doomed := by
  obtain ⟨hcommands, hstarted, _⟩ := complete_frame e id answer
  unfold doomed
  rw [hcommands, hstarted]
  exact stopped_subset (running_complete e id answer) _ _

/-- Where a cancelling waits, every task under way is doomed. -/
theorem running_subset_doomed (h : .cancelPending ∈ e.commands) : e.running ⊆ e.doomed := by
  -- the first cancelling stops all that was under way before
  have hstopped : ∀ (cs : List Command) (ts : List Task) (n : Nat),
      .cancelPending ∈ cs → ts ⊆ stopped cs ts n := by
    intro cs
    induction cs with
    | nil => exact fun _ _ hin => absurd hin List.not_mem_nil
    | cons c cs ih =>
      intro ts n hin
      cases c with
      | start job =>
        have hlater : .cancelPending ∈ cs := by simpa using hin
        exact fun t ht => ih _ _ hlater (List.mem_append_left _ ht)
      | cancelPending => exact List.subset_append_left _ _
  exact hstopped e.commands e.running e.started h

/-- A task that is under way and ends takes itself away from those that remain, unless it was doomed. -/
theorem remains_complete_eq {id : Nat} {t : Task} {answer : Search.Request → Result}
    (h : (e.running.find? fun t => t.id = id) = some t) :
    (e.complete id answer).remains =
      (e.unstopped.filter fun t => t.id ≠ id) ++ remaining e.commands [] e.started := by
  obtain ⟨hcommands, hstarted, _⟩ := complete_frame e id answer
  have hrunning : (e.complete id answer).running = e.running.filter fun t => t.id ≠ id := by
    unfold complete
    rw [h]
  rw [remains_eq, unstopped, unstopped, hcommands, hstarted, hrunning]
  split <;> simp

/-- Commands that start over doom what remained, and leave one task. -/
theorem remains_restart (h : e.Accounted given) (job : Job) :
    remains { e with commands := e.commands ++ [.cancelPending, .start job] } =
      [⟨given.length, job⟩] := remains_told h _

theorem doomed_restart (h : e.Accounted given) (job : Job) :
    doomed { e with commands := e.commands ++ [.cancelPending, .start job] } =
      e.doomed ++ e.remains := by
  rw [doomed_told h]
  exact congrArg (e.doomed ++ ·) (List.append_nil _)

theorem remains_start (h : e.Accounted given) (job : Job) :
    remains { e with commands := e.commands ++ [.start job] } =
      e.remains ++ [⟨given.length, job⟩] := remains_told h _

theorem doomed_start (h : e.Accounted given) (job : Job) :
    doomed { e with commands := e.commands ++ [.start job] } = e.doomed := by
  rw [doomed_told h]
  exact List.append_nil _

/-! ## Numbers of tasks -/

/-- Tasks under way are numbered in the order in which they were started. -/
structure Numbered (e : Engine) : Prop where
  ordered : e.running.Pairwise fun t u => t.id < u.id
  below : ∀ t ∈ e.running, t.id < e.started

theorem Numbered.process (h : e.Numbered) : e.process.Numbered := by
  unfold Engine.process
  split
  · exact h
  · next c cs hcs =>
    cases c with
    | start job =>
      -- the new task has the next number
      refine ⟨List.pairwise_append.mpr ⟨h.ordered, List.pairwise_singleton _ _, ?_⟩, ?_⟩
      · intro t ht u hu
        rw [List.mem_singleton.mp hu]
        exact h.below t ht
      · intro t ht
        rcases List.mem_append.mp ht with hold | hnew
        · exact Nat.lt_succ_of_lt (h.below t hold)
        · rw [List.mem_singleton.mp hnew]
          exact Nat.lt_succ_self _
    | cancelPending =>
      refine ⟨h.ordered.filter _, fun t ht => h.below t (List.mem_filter.mp ht).1⟩

theorem Numbered.complete (h : e.Numbered) (id : Nat) (answer : Search.Request → Result) :
    (e.complete id answer).Numbered := by
  unfold Engine.complete
  split
  · exact h
  · exact ⟨h.ordered.filter _, fun t ht => h.below t (List.mem_filter.mp ht).1⟩

/-- A task under way is found by its number. -/
theorem Accounted.find?_running (h : e.Accounted given) {t : Task} (ht : t ∈ e.running) :
    (e.running.find? fun u => u.id = t.id) = some t := by
  cases hfind : e.running.find? fun u => u.id = t.id with
  | none =>
    have hnone := List.find?_eq_none.mp hfind t ht
    exact absurd hnone (by simp)
  | some u =>
    -- both do the job of their common number
    have hid : u.id = t.id := by simpa using List.find?_some hfind
    have hu := h.running u (List.mem_of_find?_eq_some hfind)
    have hjob : u.job = t.job := by
      rw [hid, h.running t ht] at hu
      exact (Option.some.inj hu).symm
    obtain ⟨uid, ujob⟩ := u
    obtain ⟨tid, tjob⟩ := t
    simp only at hid hjob
    rw [hid, hjob]

theorem commands_process {c : Command} {cs : List Command} (hcs : e.commands = c :: cs) :
    e.process.commands = cs := by
  unfold Engine.process
  rw [hcs]
  cases c <;> rfl

/-- Of the tasks under way only the one that ends goes. -/
theorem Numbered.perm_filter (h : e.Numbered) {t : Task} (ht : t ∈ e.running) :
    e.running.Perm (t :: e.running.filter fun u => u.id ≠ t.id) := by
  obtain ⟨before, after, hsplit⟩ := List.append_of_mem ht
  have hordered := h.ordered
  rw [hsplit] at hordered
  obtain ⟨_, hright, hleft⟩ := List.pairwise_append.mp hordered
  -- the tasks in front have smaller numbers, those behind greater ones
  have hbefore : before.filter (fun u => u.id ≠ t.id) = before := by
    refine List.filter_eq_self.mpr fun u hu => ?_
    have hlt : u.id < t.id := hleft u hu t List.mem_cons_self
    simpa using Nat.ne_of_lt hlt
  have hafter : after.filter (fun u => u.id ≠ t.id) = after := by
    refine List.filter_eq_self.mpr fun u hu => ?_
    have hlt : t.id < u.id := (List.pairwise_cons.mp hright).1 u hu
    simpa using Nat.ne_of_gt hlt
  have hrest : e.running.filter (fun u => u.id ≠ t.id) = before ++ after := by
    rw [hsplit, List.filter_append, hbefore, List.filter_cons_of_neg (by simp), hafter]
  rw [hrest, hsplit]
  exact List.perm_middle

/-- A task that ends without a cancelling that waits is one that remained. -/
theorem Numbered.remains_complete_perm (h : e.Numbered) (hnone : .cancelPending ∉ e.commands)
    {t : Task} (answer : Search.Request → Result)
    (found : (e.running.find? fun u => u.id = t.id) = some t) :
    e.remains.Perm (t :: (e.complete t.id answer).remains) := by
  have hunstopped : e.unstopped = e.running := if_neg hnone
  rw [remains_complete_eq found, remains_eq, hunstopped, ← List.cons_append]
  exact (h.perm_filter (List.mem_of_find?_eq_some found)).append_right _

/-- A task that ends while a cancelling waits leaves what remains as it is. -/
theorem remains_complete_of_cancel (hcancel : .cancelPending ∈ e.commands) {t : Task}
    (answer : Search.Request → Result) (found : (e.running.find? fun u => u.id = t.id) = some t) :
    (e.complete t.id answer).remains = e.remains := by
  have hunstopped : e.unstopped = [] := if_pos hcancel
  rw [remains_complete_eq found, remains_eq, hunstopped]
  rfl

end IdeaBoard.Engine
