import IdeaBoard.Proofs.Stride

/-!
# IdeaBoard — what a page awaits, and what its tasks owe it

The tasks of the open page owe it what it awaits at least, whatever the events of earlier pages do to it.

* **`own`** — what the tasks of the open page itself still have to tell it.
* **`Sifted`** — the tasks that remain are of the live generation, and of the open page only earlier
  generations will be stopped. A task that ends therefore carries its token from the tasks to the
  events, or has none that the page could still take up (`own_ended`).
* **`Turn`** — what a stride does to what the page awaits and to what its tasks owe. The two can part
  only where an event of an earlier page is taken up (`Stride.turn`).
* **`served_traced`** — so what a page awaits is always owed to it.
-/

namespace IdeaBoard

open Search (State Effect Message Generation)
open Engine (Job Task Token jobs remaining)

/-! ## Owed -/

namespace Ledger

def pageOf? (l : Ledger) (t : Task) : Option Nat := l.issued[t.id]?.map Issue.page

/-- The ended tasks whose events wait, oldest first. -/
def waiting (l : Ledger) : List Task := (l.ended.drop l.taken).map Ending.task

def owed (l : Ledger) (page : Nat) (g : Generation) : List Task :=
  l.waiting.filter fun t => t.token.generation = g ∧ l.pageOf? t = some page

end Ledger

namespace World

/-- What the tasks of the open page itself still have to tell it. -/
def own (w : World) (l : Ledger) (g : Generation) : List Token :=
  (l.owed w.session.navigations g).map Task.token ++ w.engine.remains.map Task.token

variable {w : World} {l : Ledger}

theorem token_event (e : Ending) : e.event.token = e.task.token :=
  Engine.token_event e.task.job e.answer

theorem pageOf?_eq {t : Task} {i : Issue} (h : l.issued[t.id]? = some i) :
    l.pageOf? t = some i.page := by
  rw [Ledger.pageOf?, h]
  rfl

theorem pageOf?_issue {t : Task} (h : t.id < l.issued.length) (page : Nat) (js : List Job) :
    (l.issue page js).pageOf? t = l.pageOf? t := by
  unfold Ledger.pageOf? Ledger.issue
  rw [List.getElem?_append_left h]

theorem Kept.page_le (h : Kept w l) {t : Task} (ht : t ∈ l.waiting) :
    ∃ page, l.issued[t.id]? = some ⟨page, t.job⟩ ∧ page ≤ w.session.navigations := by
  obtain ⟨e, he, rfl⟩ := List.mem_map.mp ht
  exact h.issuer (List.mem_of_mem_drop he)

theorem Kept.waiting_lt (h : Kept w l) {t : Task} (ht : t ∈ l.waiting) :
    t.id < l.issued.length := by
  obtain ⟨page, hissued, _⟩ := h.page_le ht
  exact (List.getElem?_eq_some_iff.mp hissued).1

theorem Kept.owed_issue (h : Kept w l) (page : Nat) (js : List Job) (p : Nat) (g : Generation) :
    (l.issue page js).owed p g = l.owed p g := by
  refine List.filter_congr fun t ht => ?_
  rw [pageOf?_issue (h.waiting_lt ht)]

/-- A page asks for nothing under a generation that it has not reached. -/
theorem Kept.generation_le (h : Kept w l) {s : State} (shown : w.session.page = some s) {t : Task}
    (hissued : l.issued[t.id]? = some ⟨w.session.navigations, t.job⟩) :
    t.token.generation ≤ s.generation := by
  obtain ⟨_, done, es, disciplined, hjobs⟩ := h.page s shown
  have hjob : t.job ∈ l.jobsOf w.session.navigations := by
    refine List.mem_map.mpr ⟨_, List.mem_filter.mpr ⟨List.mem_of_getElem? hissued, ?_⟩, rfl⟩
    simp
  rw [hjobs] at hjob
  unfold Task.token
  cases hdoes : t.job with
  | timer g delay =>
    rw [hdoes] at hjob
    exact disciplined.timers_issued.2 g (mem_timers hjob)
  | request g r =>
    rw [hdoes] at hjob
    exact disciplined.asked_issued.2 g (List.mem_map.mpr ⟨(g, r), mem_requests hjob, rfl⟩)

/-- No event waits under a generation that the open page has not reached. -/
theorem Kept.owed_of_lt (h : Kept w l) {s : State} (shown : w.session.page = some s)
    {g : Generation} (hlt : s.generation < g) : l.owed w.session.navigations g = [] := by
  refine List.filter_eq_nil_iff.mpr fun t ht => ?_
  obtain ⟨page, hissued, _⟩ := h.page_le ht
  simp only [decide_eq_true_eq]
  rintro ⟨hgeneration, hpage⟩
  obtain rfl : page = w.session.navigations :=
    Option.some.inj ((pageOf?_eq hissued).symm.trans hpage)
  have hle := h.generation_le shown hissued
  rw [hgeneration] at hle
  exact absurd hle (Nat.not_le_of_lt hlt)

/-- The page that is opened next is owed nothing yet. -/
theorem Kept.owed_of_next (h : Kept w l) (g : Generation) :
    l.owed (w.session.navigations + 1) g = [] := by
  refine List.filter_eq_nil_iff.mpr fun t ht => ?_
  obtain ⟨page, hissued, hle⟩ := h.page_le ht
  simp only [decide_eq_true_eq]
  rintro ⟨_, hpage⟩
  -- a task works for a page that is open or was
  have hsame : page = w.session.navigations + 1 :=
    Option.some.inj ((pageOf?_eq hissued).symm.trans hpage)
  omega

/-- The oldest event that waits, and those behind it. -/
theorem waiting_next {e : Ending} (next : l.next? = some e) :
    l.waiting = e.task :: ({ l with taken := l.taken + 1 } : Ledger).waiting := by
  obtain ⟨hlt, hget⟩ := List.getElem?_eq_some_iff.mp next
  unfold Ledger.waiting
  rw [List.drop_eq_getElem_cons hlt, List.map_cons, hget]

/-! ## Sifted tasks -/

/-- The tasks that remain are of the live generation; those of the open page that will be stopped are
of an earlier one. -/
structure Sifted (w : World) (l : Ledger) (live : Generation) : Prop where
  remaining : ∀ t ∈ w.engine.remains, t.token.generation = live
  doomed : ∀ t ∈ w.engine.doomed, l.pageOf? t = some w.session.navigations →
    t.token.generation < live

/-- A doomed task works for the page that the ledger names, whatever is entered later. -/
theorem pageOf?_doomed (h : Kept w l) {t : Task} (ht : t ∈ w.engine.doomed) (page : Nat)
    (js : List Job) : (l.issue page js).pageOf? t = l.pageOf? t := by
  have hlt := h.engine.doomed_lt ht
  rw [Ledger.jobs, List.length_map] at hlt
  exact pageOf?_issue hlt page js

/-- A page that starts over is sifted: what remained before is of an earlier generation by now. -/
theorem Sifted.restart (h : Kept w l) {g : Generation} (sifted : Sifted w l g) {t : Session}
    {job : Job} (navigations : t.navigations = w.session.navigations)
    (token : job.token.generation = g + 1) (js : List Job) :
    Sifted ⟨t, { w.engine with commands := w.engine.commands ++ [.cancelPending, .start job] }⟩
      (l.issue w.session.navigations js) (g + 1) where
  remaining := by
    intro task htask
    rw [Engine.remains_restart h.engine] at htask
    rw [List.mem_singleton.mp htask]
    exact token
  doomed := by
    intro task htask hpage
    rw [Engine.doomed_restart h.engine] at htask
    rcases List.mem_append.mp htask with hold | hnew
    · -- doomed before: of an earlier generation even then
      rw [pageOf?_doomed h hold] at hpage
      exact Nat.lt_succ_of_lt (sifted.doomed task hold (navigations ▸ hpage))
    · -- doomed by this cancelling: what remained was of the generation that is over now
      exact Nat.lt_succ_of_le (Nat.le_of_eq (sifted.remaining task hnew))

/-- A page that asks the server under its generation is as sifted as before. -/
theorem Sifted.start (h : Kept w l) {g : Generation} (sifted : Sifted w l g) {t : Session} {job : Job}
    (navigations : t.navigations = w.session.navigations) (token : job.token.generation = g)
    (js : List Job) :
    Sifted ⟨t, { w.engine with commands := w.engine.commands ++ [.start job] }⟩
      (l.issue w.session.navigations js) g where
  remaining := by
    intro task htask
    rw [Engine.remains_start h.engine] at htask
    rcases List.mem_append.mp htask with hold | hnew
    · exact sifted.remaining task hold
    · rw [List.mem_singleton.mp hnew]
      exact token
  doomed := by
    intro task htask hpage
    rw [Engine.doomed_start h.engine] at htask
    rw [pageOf?_doomed h htask] at hpage
    exact sifted.doomed task htask (navigations ▸ hpage)

/-- A page that asks for nothing is as sifted as before. -/
theorem Sifted.quiet {g : Generation} (sifted : Sifted w l g) {t : Session}
    (navigations : t.navigations = w.session.navigations) :
    Sifted ⟨t, { w.engine with commands := w.engine.commands ++ [] }⟩
      (l.issue w.session.navigations []) g := by
  have hsame : l.issue w.session.navigations [] = l := by simp [Ledger.issue]
  rw [hsame, List.append_nil]
  refine ⟨sifted.remaining, ?_⟩
  rw [navigations]
  exact sifted.doomed

/-- **Every stride leaves the open page sifted.** -/
theorem Stride.sifted (h : Kept w l)
    (before : ∀ s, w.session.page = some s → Sifted w l s.generation) {v : World} {k : Ledger}
    (stride : Stride w l v k) {s : State} (shown : v.session.page = some s) :
    Sifted v k s.generation := by
  cases stride with
  | still page navigations =>
    have sifted := before s (page ▸ shown)
    exact ⟨sifted.remaining, navigations ▸ sifted.doomed⟩
  | obeyed =>
    have sifted := before s shown
    refine ⟨?_, fun t ht => sifted.doomed t (Engine.doomed_process h.engine ht)⟩
    rw [Engine.remains_process h.engine]
    exact sifted.remaining
  | ended answer found =>
    have sifted := before s shown
    exact ⟨fun t ht => sifted.remaining t (Engine.remains_complete _ _ _ ht),
      fun t ht => sifted.doomed t (Engine.doomed_complete _ _ _ ht)⟩
  | @typed p u _ _ _ shown' line move page navigations =>
    have sifted := before p shown'
    have hpage : u.consumeDirty.2 = s := Option.some.inj (page.symm.trans shown)
    have hgeneration : s.generation = u.generation := by rw [← hpage]; rfl
    rw [hgeneration]
    -- a line is ignored, or the page starts over under the next generation
    rcases step_of_line move line with ⟨rfl, rfl⟩ | ⟨generation, job, token, _, hcommands⟩
    · exact sifted.quiet navigations
    · rw [hcommands, generation]
      exact sifted.restart h navigations (token.trans generation) _
  | @heard p u _ _ _ events shown' waits next move page navigations =>
    have mounted := (h.page p shown').1
    have hpage : u.consumeDirty.2 = s := Option.some.inj (page.symm.trans shown)
    have hgeneration : s.generation = u.generation := by rw [← hpage]; rfl
    rw [hgeneration]
    -- the event is taken off the queue, which neither the tasks nor the commands can tell
    have kept := h.took waits
    have sifted : Sifted { w with engine := { w.engine with events := events } }
        { l with taken := l.taken + 1 } p.generation :=
      ⟨(before p shown').remaining, (before p shown').doomed⟩
    rcases step_of_event mounted move with
      ⟨_, rfl, rfl⟩ | ⟨_, generation, _, hquiet | ⟨job, hjob⟩⟩
    · exact sifted.quiet navigations
    · -- an answer: nothing is asked for
      rw [hquiet.2, generation]
      exact sifted.quiet navigations
    · -- the end of the quiet time: the request goes out under the same generation
      obtain ⟨token, _, hcommands⟩ := hjob
      rw [hcommands, generation]
      exact sifted.start kept navigations token _
  | @opened t page navigations =>
    refine ⟨?_, ?_⟩
    · rw [Engine.remains_told h.engine, remaining_closing h]
      exact fun _ ht => absurd ht List.not_mem_nil
    · -- what will be stopped works for pages that are closed
      intro t ht hpage
      obtain ⟨i, hi, hnext⟩ := Option.map_eq_some_iff.mp hpage
      have hle : i.page ≤ w.session.navigations := by
        rcases mem_issue (List.mem_of_getElem? hi) with hold | hnew
        · exact h.pages i hold
        · exact Nat.le_of_eq hnew
      rw [hnext, navigations] at hle
      exact absurd hle (Nat.not_succ_le_self _)
  | closed page => exact absurd (page.symm.trans shown) (by simp)

/-! ## Turns -/

/-- What can happen to what a page awaits, and to what its own tasks owe it, in a stride. -/
inductive Turn (haunted : Prop) : List Token → List Token → List Token → List Token → Prop where
  /-- Nothing but to the order of things. -/
  | kept {a o o' : List Token} (same : o.Perm o') : Turn haunted a o a o'
  /-- The page starts over, and so do its tasks. -/
  | anew {a o a' : List Token} : Turn haunted a o a' a'
  /-- The page takes up what one of its own tasks tells it. -/
  | answered {a a' : List Token} (τ : Token) (rest : List Token) (awaited : a = [τ]) :
      Turn haunted a (τ :: rest) a' (rest ++ a')
  /-- The page takes up what a task of an earlier page tells. -/
  | overtaken {a o a' : List Token} (foreign : haunted) : Turn haunted a o a' (o ++ a')
  /-- The page ignores what one of its own tasks tells it. -/
  | late {a : List Token} (τ : Token) (rest : List Token) (ignored : τ ∉ a) :
      Turn haunted a (τ :: rest) a rest

variable {haunted : Prop} {a o a' o' : List Token}

/-- **No turn takes away what is awaited.** -/
theorem Turn.subset (turn : Turn haunted a o a' o') (h : a ⊆ o) : a' ⊆ o' := by
  cases turn with
  | kept same => exact fun τ hτ => same.subset (h hτ)
  | anew => exact List.Subset.refl _
  | answered => exact List.subset_append_right _ _
  | overtaken => exact List.subset_append_right _ _
  | late τ rest ignored =>
    intro σ hσ
    rcases List.mem_cons.mp (h hσ) with rfl | hin
    · exact absurd hσ ignored
    · exact hin

/-- **Without foreign events no turn adds to what is awaited.** -/
theorem Turn.perm (turn : Turn haunted a o a' o') (own : ¬haunted) (h : o.Perm a) :
    o'.Perm a' := by
  cases turn with
  | kept same => exact same.symm.trans h
  | anew => exact .refl _
  | answered τ rest awaited =>
    rw [awaited] at h
    -- what was owed is just what was awaited, so that nothing else is left
    have hrest : rest = [] := (h.cons_inv).eq_nil
    rw [hrest]
    exact .refl _
  | overtaken foreign => exact absurd foreign own
  | late τ rest ignored => exact absurd (h.subset List.mem_cons_self) ignored

/-- An event of an earlier page waits under the live generation of the open one. -/
def Haunted (w : World) (l : Ledger) : Prop :=
  ∃ s t page, w.session.page = some s ∧ t ∈ l.waiting ∧ l.pageOf? t = some page ∧
    page < w.session.navigations ∧ t.token.generation = s.generation

/-- An event under the live generation is of the open page, or the page is haunted. -/
theorem Kept.own_or_haunted (h : Kept w l) {s : State} (shown : w.session.page = some s) {t : Task}
    (ht : t ∈ l.waiting) (live : t.token.generation = s.generation) :
    l.pageOf? t = some w.session.navigations ∨ Haunted w l := by
  obtain ⟨page, hissued, hle⟩ := h.page_le ht
  have hpage : l.pageOf? t = some page := pageOf?_eq hissued
  rcases Nat.lt_or_eq_of_le hle with hlt | rfl
  · exact .inr ⟨s, t, page, shown, ht, hpage, hlt, live⟩
  · exact .inl hpage

/-- The event of a task that ends waits behind all others. -/
theorem waiting_ended (h : Kept w l) (t : Task) (answer : Search.Request → Engine.Result) :
    ({ l with ended := l.ended ++ [⟨t, answer⟩] } : Ledger).waiting = l.waiting ++ [t] := by
  unfold Ledger.waiting
  rw [List.drop_append_of_le_length h.taken_le, List.map_append]
  rfl

/-- A task that ends still owes what it has to tell. -/
theorem own_ended (h : Kept w l) (numbered : w.engine.Numbered) {g : Generation}
    (sifted : Sifted w l g) {t : Task} (answer : Search.Request → Engine.Result)
    (found : (w.engine.running.find? fun u => u.id = t.id) = some t) :
    (w.own l g).Perm (World.own { w with engine := w.engine.complete t.id answer }
      { l with ended := l.ended ++ [⟨t, answer⟩] } g) := by
  have howed : ({ l with ended := l.ended ++ [⟨t, answer⟩] } : Ledger).owed
      w.session.navigations g = l.owed w.session.navigations g ++
        [t].filter fun t => t.token.generation = g ∧ l.pageOf? t = some w.session.navigations := by
    unfold Ledger.owed
    rw [waiting_ended h, List.filter_append]
    rfl
  have hrunning : t ∈ w.engine.running := List.mem_of_find?_eq_some found
  unfold own
  rw [howed]
  by_cases hcancel : .cancelPending ∈ w.engine.commands
  · -- the cancelling comes too late for the task, but the page has a later generation already
    have hnone : ([t].filter fun t => t.token.generation = g ∧
        l.pageOf? t = some w.session.navigations) = [] := by
      refine List.filter_eq_nil_iff.mpr fun u hu => ?_
      obtain rfl := List.mem_singleton.mp hu
      simp only [decide_eq_true_eq]
      rintro ⟨live, hpage⟩
      have hlt := sifted.doomed u (Engine.running_subset_doomed hcancel hrunning) hpage
      exact absurd live (Nat.ne_of_lt hlt)
    rw [hnone, List.append_nil, Engine.remains_complete_of_cancel hcancel answer found]
  · have hremains : t ∈ w.engine.remains := Engine.subset_remaining hcancel _ _ hrunning
    -- the engine has obeyed what closed an earlier page, so the task is of the open one
    obtain ⟨job, hissued⟩ := running_own h hcancel t hrunning
    have hpage : l.pageOf? t = some w.session.navigations := pageOf?_eq hissued
    have hone : ([t].filter fun t => t.token.generation = g ∧
        l.pageOf? t = some w.session.navigations) = [t] := by
      refine List.filter_eq_self.mpr fun u hu => ?_
      obtain rfl := List.mem_singleton.mp hu
      exact decide_eq_true ⟨sifted.remaining u hremains, hpage⟩
    rw [hone, List.map_append, List.append_assoc]
    exact ((numbered.remains_complete_perm hcancel answer found).map Task.token).append_left _

/-- What is owed after new commands: the events that wait, and the tasks that remain then. -/
theorem own_told (h : Kept w l) {t : Session} (navigations : t.navigations = w.session.navigations)
    (cs : List Engine.Command) (js : List Job) (g : Generation) :
    World.own ⟨t, { w.engine with commands := w.engine.commands ++ cs }⟩
      (l.issue w.session.navigations js) g =
      (l.owed w.session.navigations g).map Task.token ++
        (remaining cs w.engine.remains l.jobs.length).map Task.token := by
  unfold own
  rw [navigations, h.owed_issue, Engine.remains_told h.engine]

/-- The next event is the open page's own and live: it is the first that the page is told. -/
theorem own_next (w : World) {e : Ending} (next : l.next? = some e) (g : Generation)
    (mine : e.task.token.generation = g ∧ l.pageOf? e.task = some w.session.navigations) :
    w.own l g = e.task.token :: w.own { l with taken := l.taken + 1 } g := by
  unfold own Ledger.owed
  rw [waiting_next next, List.filter_cons_of_pos (by simpa using mine)]
  rfl

/-- The next event is of another page, or late: it is none that the open page is owed. -/
theorem own_next_foreign (w : World) {e : Ending} (next : l.next? = some e) (g : Generation)
    (other : ¬(e.task.token.generation = g ∧ l.pageOf? e.task = some w.session.navigations)) :
    w.own l g = w.own { l with taken := l.taken + 1 } g := by
  unfold own Ledger.owed
  rw [waiting_next next, List.filter_cons_of_neg (by simpa using other)]
  rfl

/-- What is owed once an event is taken up and new commands are given. -/
theorem own_heard (h : Kept w l) {event : Engine.Event} {events : List Engine.Event}
    (waits : w.engine.events = event :: events) {t : Session}
    (navigations : t.navigations = w.session.navigations) (cs : List Engine.Command)
    (js : List Job) (g : Generation) :
    World.own
      ⟨t, { w.engine with events := events, commands := w.engine.commands ++ cs }⟩
      (({ l with taken := l.taken + 1 } : Ledger).issue w.session.navigations js) g =
      (({ l with taken := l.taken + 1 } : Ledger).owed w.session.navigations g).map Task.token ++
        (remaining cs w.engine.remains l.jobs.length).map Task.token :=
  own_told (h.took waits) navigations cs js g

/-- A page awaits only what carries its live generation. -/
theorem generation_of_mem_awaited {s : State} {τ : Token} (h : τ ∈ s.awaited) :
    τ.generation = s.generation := by
  cases phase : s.phase with
  | idle =>
    rw [awaited_idle phase] at h
    exact absurd h List.not_mem_nil
  | debouncing =>
    rw [awaited_debouncing phase] at h
    rw [List.mem_singleton.mp h]
    rfl
  | awaitingResponse =>
    rw [awaited_awaitingResponse phase] at h
    rw [List.mem_singleton.mp h]
    rfl

/-- An event that is taken up turns what the open page awaits and is owed: it answers the page,
comes late, or is of an earlier page. -/
theorem turn_heard (h : Kept w l) {s u : State} {fs : List Effect} {t : Session} {e : Ending}
    {events : List Engine.Event} (shown : w.session.page = some s)
    (waits : w.engine.events = e.event :: events) (next : l.next? = some e)
    (move : State.Step s (Session.message e.event) u fs)
    (navigations : t.navigations = w.session.navigations) :
    Turn (Haunted w l) s.awaited (w.own l s.generation) u.awaited
      (World.own
        ⟨t, { w.engine with events := events, commands := w.engine.commands ++ commandsOf fs }⟩
        (({ l with taken := l.taken + 1 } : Ledger).issue w.session.navigations
          (jobs (commandsOf fs))) u.generation) := by
  have mounted := (h.page s shown).1
  -- what is left to be told once the event is off the queue
  generalize hrest : w.own { l with taken := l.taken + 1 } s.generation = rest
  rcases step_of_event mounted move with ⟨hignored, rfl, rfl⟩ | ⟨hawaited, generation, _, hnew⟩
  · -- the page ignores the event, and its queue is shorter by it if it was the page's own
    rw [own_heard h waits navigations]
    show Turn _ _ _ _ (w.own { l with taken := l.taken + 1 } u.generation)
    rw [hrest]
    by_cases mine : e.task.token.generation = u.generation ∧
        l.pageOf? e.task = some w.session.navigations
    · rw [own_next w next _ mine, hrest]
      exact .late _ _ (token_event e ▸ hignored)
    · rw [own_next_foreign w next _ mine, hrest]
      exact .kept (.refl _)
  · -- the page takes it up, and what it asks for then stands behind the rest
    have hmore : (({ l with taken := l.taken + 1 } : Ledger).owed w.session.navigations
        u.generation).map Task.token ++
        (remaining (commandsOf fs) w.engine.remains l.jobs.length).map Task.token =
          rest ++ u.awaited := by
      rw [generation, ← hrest]
      rcases hnew with ⟨hnone, hquiet⟩ | ⟨job, _, hjob, hcommands⟩
      · rw [hquiet, hnone, List.append_nil]
        rfl
      · rw [hcommands, hjob, own, List.append_assoc]
        exact congrArg _ List.map_append
    rw [own_heard h waits navigations, hmore]
    -- only what carries the live generation is awaited
    have live : e.task.token.generation = s.generation := by
      refine generation_of_mem_awaited ?_
      rw [hawaited, ← token_event e]
      exact List.mem_singleton_self _
    by_cases mine : l.pageOf? e.task = some w.session.navigations
    · rw [own_next w next _ ⟨live, mine⟩, hrest]
      exact .answered _ _ (by rw [hawaited, token_event])
    · rw [own_next_foreign w next _ fun both => mine both.2, hrest]
      have hwaits : e.task ∈ l.waiting := by
        rw [waiting_next next]
        exact List.mem_cons_self
      exact .overtaken ((h.own_or_haunted shown hwaits live).resolve_left mine)

theorem awaited_opened {s : State} (fresh : Session.Opened s) : s.awaited = [] := by
  obtain ⟨path, queryString, posts, settings, rfl⟩ := fresh
  rfl

/-- **Every stride turns what the open page awaits and is owed, or opens a page that is owed nothing.** -/
theorem Stride.turn (h : Kept w l) (numbered : w.engine.Numbered)
    (before : ∀ s, w.session.page = some s → Sifted w l s.generation) {v : World} {k : Ledger}
    (stride : Stride w l v k) {s : State} (shown : v.session.page = some s) :
    (v.session.navigations = w.session.navigations ∧ ∃ p, w.session.page = some p ∧
      Turn (Haunted w l) p.awaited (w.own l p.generation) s.awaited (v.own k s.generation)) ∨
    (s.awaited = [] ∧ v.own k s.generation = []) := by
  cases stride with
  | still page navigations =>
    refine .inl ⟨navigations, s, page ▸ shown, .kept ?_⟩
    unfold own
    rw [navigations]
  | obeyed =>
    refine .inl ⟨rfl, s, shown, .kept ?_⟩
    unfold own
    rw [Engine.remains_process h.engine]
  | ended answer found =>
    exact .inl ⟨rfl, s, shown, .kept (own_ended h numbered (before s shown) answer found)⟩
  | @typed p u _ _ _ shown' line move page navigations =>
    obtain rfl : u.consumeDirty.2 = s := Option.some.inj (page.symm.trans shown)
    refine .inl ⟨navigations, p, shown', ?_⟩
    show Turn _ _ _ u.awaited (World.own _ _ u.generation)
    rw [own_told h navigations]
    rcases step_of_line move line with ⟨rfl, rfl⟩ | ⟨generation, job, _, hjob, hcommands⟩
    · exact .kept (.refl _)
    · -- nothing of the next generation waits yet, and one task remains
      have hlater : p.generation < u.generation := by
        rw [generation]
        exact Nat.lt_succ_self _
      rw [h.owed_of_lt shown' hlater, hcommands, hjob]
      exact .anew
  | @heard p u _ _ _ _ shown' waits next move page navigations =>
    obtain rfl : u.consumeDirty.2 = s := Option.some.inj (page.symm.trans shown)
    have turn := turn_heard h shown' waits next move navigations
    exact .inl ⟨navigations, p, shown', turn⟩
  | @opened t page navigations =>
    refine .inr ⟨awaited_opened (page s shown), ?_⟩
    -- no event waits for the new page, and nothing of the old one remains
    have hnone := h.owed_of_next s.generation
    unfold own
    rw [navigations, h.owed_issue, hnone, Engine.remains_told h.engine, remaining_closing h]
    rfl
  | closed page => exact absurd (page.symm.trans shown) (by simp)

/-! ## The invariant -/

/-- The ledger stands against the world, and the open page is owed what it awaits. -/
structure Served (w : World) (l : Ledger) : Prop where
  kept : Kept w l
  numbered : w.engine.Numbered
  sifted : ∀ s, w.session.page = some s → Sifted w l s.generation
  owed : ∀ s, w.session.page = some s → s.awaited ⊆ w.own l s.generation

/-- Tasks stay numbered in the order in which they were started. -/
theorem Stride.numbered (h : w.engine.Numbered) {v : World} {k : Ledger}
    (stride : Stride w l v k) : v.engine.Numbered := by
  cases stride with
  | still => exact h
  | obeyed => exact h.process
  | ended answer found => exact h.complete _ answer
  | typed => exact ⟨h.ordered, h.below⟩
  | heard => exact ⟨h.ordered, h.below⟩
  | opened => exact ⟨h.ordered, h.below⟩
  | closed _ _ running started =>
    refine ⟨?_, ?_⟩
    · rw [running]
      exact h.ordered
    · rw [running, started]
      exact h.below

/-- **Every stride keeps the invariant.** -/
theorem Served.stride (h : Served w l) {v : World} {k : Ledger} (stride : Stride w l v k)
    (kept : Kept v k) : Served v k := by
  refine ⟨kept, stride.numbered h.numbered, ?_, ?_⟩
  · intro s shown
    exact stride.sifted h.kept h.sifted shown
  · intro s shown
    rcases stride.turn h.kept h.numbered h.sifted shown with ⟨_, p, hp, turn⟩ | ⟨hidle, _⟩
    · exact turn.subset (h.owed p hp)
    · -- a page that was just opened awaits nothing
      rw [hidle]
      exact List.nil_subset _

theorem Served.step (h : Served w l) (a : Action) : Served (w.step a).1 (w.record l a) :=
  h.stride (World.stride h.kept a) (h.kept.step a)

theorem served_start (bootstrap : Bootstrap) (settings : Search.Settings) (location : String) :
    Served (start bootstrap settings location).1 {} := by
  -- before that, no page is open and nothing is under way
  have hempty : Served ⟨Session.start bootstrap settings location, {}⟩ {} := by
    refine ⟨kept_empty bootstrap settings location, ⟨.nil, ?_⟩, ?_, ?_⟩
    · exact fun _ ht => absurd ht List.not_mem_nil
    · exact fun _ hs => absurd hs (by simp [Session.start])
    · exact fun _ hs => absurd hs (by simp [Session.start])
  refine hempty.stride ?_ (kept_start bootstrap settings location)
  obtain ⟨page, navigations, hcommands⟩ :=
    (Session.start bootstrap settings location).navigate_spec location
  unfold start
  rw [after_eq, hcommands]
  exact .opened page navigations

/-- **The open page is owed what it awaits, all through a session.** -/
theorem served_traced (bootstrap : Bootstrap) (settings : Search.Settings) (location : String)
    (as : List Action) :
    Served (traced bootstrap settings location as).1
      (traced bootstrap settings location as).2 := by
  -- on the steps from the last one back, for each acts on the world that the others lead to
  induction as using List.reverseRecOn with
  | nil => exact served_start bootstrap settings location
  | append_singleton as a ih =>
    rw [traced_concat]
    exact ih.step a

end World

end IdeaBoard
