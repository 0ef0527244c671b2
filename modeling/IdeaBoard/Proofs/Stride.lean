import IdeaBoard.Proofs.Freshness
import IdeaBoard.Proofs.Outstanding

/-!
# IdeaBoard — the strides of a session

In the quiet time a page waits for its timer, after that for the answer to its request. A line starts it
over; an event brings it on, or is none of those it waits for.

* **`awaited`** — what a page waits for.
* **`step_of_line`** / **`step_of_event`** — what a line and an event can do to a page, with the commands
  that the engine is given.
* **`Stride`** — what a step can do to the session, its engine and the ledger, said once; every step is
  a stride (`stride`).
-/

namespace IdeaBoard

open Search (State Effect Message Generation)
open Engine (Job Task Token jobs)

/-! ## Awaited -/

def Search.State.awaited (s : State) : List Token :=
  match s.phase with
  | .idle => []
  | .debouncing => [.timer s.generation]
  | .awaitingResponse => [.answer s.generation]

theorem awaited_idle {s : State} (phase : s.phase = .idle) : s.awaited = [] := by
  unfold Search.State.awaited
  rw [phase]

theorem awaited_debouncing {s : State} (phase : s.phase = .debouncing) :
    s.awaited = [.timer s.generation] := by
  unfold Search.State.awaited
  rw [phase]

theorem awaited_awaitingResponse {s : State} (phase : s.phase = .awaitingResponse) :
    s.awaited = [.answer s.generation] := by
  unfold Search.State.awaited
  rw [phase]

/-- A page takes up just those events that it waits for. -/
theorem ignores_message {s : State} (mounted : s.unmounted = false) (e : Engine.Event) :
    s.Ignores (Session.message e) ↔ e.token ∉ s.awaited := by
  have hgone : ¬s.unmounted = true := by simp [mounted]
  cases e with
  | debounceElapsed g =>
    show _ ∨ ¬(g = s.generation ∧ s.phase = .debouncing) ↔ Token.timer g ∉ s.awaited
    rw [or_iff_right hgone]
    cases phase : s.phase with
    | idle => simp [awaited_idle phase]
    | debouncing => simp [awaited_debouncing phase]
    | awaitingResponse => simp [awaited_awaitingResponse phase]
  | searchCompleted g result =>
    show _ ∨ ¬(g = s.generation ∧ s.phase = .awaitingResponse) ↔ Token.answer g ∉ s.awaited
    rw [or_iff_right hgone]
    cases phase : s.phase with
    | idle => simp [awaited_idle phase]
    | debouncing => simp [awaited_debouncing phase]
    | awaitingResponse => simp [awaited_awaitingResponse phase]

/-- A line starts the page over with a job of the next generation, or changes nothing. -/
theorem step_of_line {s u : State} {m : Message} {fs : List Effect} (move : State.Step s m u fs)
    (line : (∃ e, m = .edit e) ∨ m = .showMore) :
    (u = s ∧ fs = []) ∨
      (u.generation = s.generation + 1 ∧ ∃ job : Job, job.token.generation = u.generation ∧
        u.awaited = [job.token] ∧ commandsOf fs = [.cancelPending, .start job]) := by
  -- an edit waits for a new timer, a request for more for a new answer
  cases move with
  | ignored => exact .inl ⟨rfl, rfl⟩
  | edited => exact .inr ⟨rfl, _, rfl, rfl, rfl⟩
  | grown => exact .inr ⟨rfl, _, rfl, rfl, rfl⟩
  | asked => exact absurd line (by simp)
  | settled => exact absurd line (by simp)
  | closed => exact absurd line (by simp)

/-- The phase that follows once a page has what it waits for. -/
def Search.Phase.next : Search.Phase → Search.Phase
  | .debouncing => .awaitingResponse
  | .awaitingResponse => .idle
  | .idle => .idle

/-- A page that takes up an event has waited for it. It waits for the answer to its request then, which
it asks for under the same generation, or for nothing. -/
theorem step_of_event {s u : State} {fs : List Effect} {e : Engine.Event}
    (mounted : s.unmounted = false) (move : State.Step s (Session.message e) u fs) :
    (e.token ∉ s.awaited ∧ u = s ∧ fs = []) ∨
      (s.awaited = [e.token] ∧ u.generation = s.generation ∧ u.phase = s.phase.next ∧
        ((u.awaited = [] ∧ commandsOf fs = []) ∨
          ∃ job : Job, job.token.generation = s.generation ∧ u.awaited = [job.token] ∧
            commandsOf fs = [.start job])) := by
  generalize hm : Session.message e = m at move
  cases move with
  | ignored hignored =>
    rw [← hm] at hignored
    exact .inl ⟨(ignores_message mounted e).mp hignored, rfl, rfl⟩
  | asked _ phase =>
    -- such a message comes from a timer
    have htoken : e.token = .timer s.generation := by
      cases e with
      | debounceElapsed g => rw [Engine.Event.token, Message.debounceElapsed.inj hm]
      | searchCompleted => exact absurd hm (by simp [Session.message])
    rw [htoken, phase]
    exact .inr ⟨awaited_debouncing phase, rfl, rfl, .inr ⟨_, rfl, rfl, rfl⟩⟩
  | settled _ phase outcome =>
    -- such a message comes from a request
    have htoken : e.token = .answer s.generation := by
      cases e with
      | debounceElapsed => exact absurd hm (by simp [Session.message])
      | searchCompleted g => rw [Engine.Event.token, (Message.searchCompleted.inj hm).1]
    have hidle := State.phase_settle s outcome
    rw [htoken, phase]
    exact .inr ⟨awaited_awaitingResponse phase, State.generation_settle s outcome, hidle,
      .inl ⟨awaited_idle hidle, rfl⟩⟩
  | edited => exact absurd hm (by cases e <;> simp [Session.message])
  | grown => exact absurd hm (by cases e <;> simp [Session.message])
  | closed => exact absurd hm (by cases e <;> simp [Session.message])

namespace World

variable {w : World} {l : Ledger}

/-! ## Strides -/

/-- What a step can do to the session, to its engine and to the ledger. -/
inductive Stride (w : World) (l : Ledger) : World → Ledger → Prop where
  /-- Nothing happens to the page, nor to the engine. -/
  | still {t : Session} (page : t.page = w.session.page)
      (navigations : t.navigations = w.session.navigations) : Stride w l ⟨t, w.engine⟩ l
  /-- A command is obeyed. -/
  | obeyed : Stride w l { w with engine := w.engine.process } l
  /-- A task ends. -/
  | ended {t : Task} (answer : Search.Request → Engine.Result)
      (found : (w.engine.running.find? fun u => u.id = t.id) = some t) :
      Stride w l { w with engine := w.engine.complete t.id answer }
        { l with ended := l.ended ++ [⟨t, answer⟩] }
  /-- The page takes a message from a line. -/
  | typed {s u : State} {m : Message} {fs : List Effect} {t : Session}
      (shown : w.session.page = some s) (line : (∃ e, m = .edit e) ∨ m = .showMore)
      (move : State.Step s m u fs) (page : t.page = some u.consumeDirty.2)
      (navigations : t.navigations = w.session.navigations) :
      Stride w l ⟨t, { w.engine with commands := w.engine.commands ++ commandsOf fs }⟩
        (l.issue w.session.navigations (jobs (commandsOf fs)))
  /-- The page takes the message of the oldest event. -/
  | heard {s u : State} {fs : List Effect} {t : Session} {e : Ending}
      {events : List Engine.Event} (shown : w.session.page = some s)
      (waits : w.engine.events = e.event :: events) (next : l.next? = some e)
      (move : State.Step s (Session.message e.event) u fs)
      (page : t.page = some u.consumeDirty.2)
      (navigations : t.navigations = w.session.navigations) :
      Stride w l ⟨t, { w.engine with events := events, commands := w.engine.commands ++ commandsOf fs }⟩
        (({ l with taken := l.taken + 1 } : Ledger).issue w.session.navigations
          (jobs (commandsOf fs)))
  /-- The next page is opened. -/
  | opened {t : Session} (page : ∀ p, t.page = some p → Session.Opened p)
      (navigations : t.navigations = w.session.navigations + 1) :
      Stride w l
        ⟨t, { w.engine with commands := w.engine.commands ++ w.session.closing }⟩
        (l.issue w.session.navigations (jobs w.session.closing))
  /-- No page is open afterwards, and the tasks go on. -/
  | closed {v : World} {k : Ledger} (page : v.session.page = none)
      (navigations : v.session.navigations = w.session.navigations)
      (running : v.engine.running = w.engine.running)
      (started : v.engine.started = w.engine.started) : Stride w l v k

/-- What a session puts out reaches the engine as commands behind those that wait. -/
theorem after_eq (w : World) (r : Session × List Output) :
    (w.after r).1 =
      ⟨r.1, { w.engine with commands := w.engine.commands ++ commands r.2 }⟩ := by
  unfold World.after
  rw [told_eq]

/-- A line is typed to the page, opens the next, ends the session, or is still. -/
theorem stride_line (w : World) (l : Ledger) (text : String) :
    Stride w l (w.step (.line text)).1 (w.record l (.line text)) := by
  rw [record_eq_issue rfl rfl]
  cases hhandle : w.session.handle text with
  | none =>
    obtain ⟨hpage, hnavigations, _⟩ := w.session.unmount_spec
    have hstep : (w.step (.line text)).1 = (w.after w.session.unmount).1 := by
      simp only [World.step, hhandle]
      rfl
    rw [hstep, after_eq]
    exact .closed hpage hnavigations rfl rfl
  | some r =>
    have hstep : w.step (.line text) = w.after r := by simp only [World.step, hhandle]
    rw [hstep, after_eq]
    show Stride w l _ (l.issue _ (jobs (commands r.2)))
    have hquiet : l.issue w.session.navigations (jobs []) = l := by simp [Ledger.issue, jobs]
    -- a message, another location, or a line that is answered at most
    rcases Session.handle_cases hhandle with ⟨m, hparse, rfl⟩ | ⟨location, hparse, _⟩ |
      ⟨_, _, hsame, hnone⟩
    · cases shown : w.session.page with
      | none =>
        obtain ⟨hsame, _, hnone⟩ := Session.dispatch_closed shown m
        rw [hsame, hnone, hquiet, List.append_nil]
        exact .still rfl rfl
      | some s =>
        obtain ⟨page, navigations, hcommands⟩ := Session.dispatch_spec shown m
        rw [hcommands]
        exact .typed shown (Session.parse?_page hparse) (State.update_step s m) page navigations
    · obtain ⟨page, navigations, hcommands⟩ := Session.handle_navigate_spec hparse hhandle
      rw [hcommands]
      exact .opened page navigations
    · rw [hsame, hnone, hquiet, List.append_nil]
      exact .still rfl rfl

/-- The oldest event is heard by the page that is open. -/
theorem stride_poll (h : Kept w l) : Stride w l (w.step .poll).1 (w.record l .poll) := by
  cases hevents : w.engine.events with
  | nil =>
    rw [step_poll_nil hevents, record_poll_nil hevents]
    exact .still rfl rfl
  | cons event events =>
    obtain ⟨e, next, rfl, _⟩ := h.next hevents
    obtain ⟨hsession, _, hcommands⟩ := Session.receive_eq_dispatch w.session e.event
    rw [step_poll hevents, record_poll hevents, after_eq, hsession, hcommands]
    cases shown : w.session.page with
    | none =>
      have hsame := (Session.dispatch_closed shown (Session.message e.event)).1
      refine .closed ?_ ?_ rfl rfl
      · rw [hsame]
        exact shown
      · rw [hsame]
    | some s =>
      obtain ⟨page, navigations, htold⟩ :=
        Session.dispatch_spec shown (Session.message e.event)
      rw [htold]
      exact .heard shown hevents next (State.update_step s _) page navigations

/-- **Every step is a stride.** -/
theorem stride (h : Kept w l) (a : Action) : Stride w l (w.step a).1 (w.record l a) := by
  cases a with
  | line text => exact stride_line w l text
  | process =>
    have hrecord : w.record l .process = l := by
      simp [record, World.step, endings, takes, jobs]
    rw [hrecord]
    exact .obeyed
  | complete id answer =>
    cases hfound : w.engine.running.find? fun t => t.id = id with
    | none =>
      -- no task has the number, so nothing ends
      have hsame : w.engine.complete id answer = w.engine := by
        unfold Engine.complete
        rw [hfound]
      have hstep : (w.step (.complete id answer)).1 = w := by
        show ({ w with engine := w.engine.complete id answer } : World) = w
        rw [hsame]
      have hrecord : w.record l (.complete id answer) = l := by
        simp [record, World.step, endings, hfound, takes, jobs]
      rw [hstep, hrecord]
      exact .still rfl rfl
    | some t =>
      obtain rfl : t.id = id := by simpa using List.find?_some hfound
      have hrecord : w.record l (.complete t.id answer) =
          { l with ended := l.ended ++ [⟨t, answer⟩] } := by
        simp [record, World.step, endings, hfound, takes, jobs]
      rw [hrecord]
      exact .ended answer hfound
  | poll => exact stride_poll h

/-- Pages are numbered upwards. -/
theorem Stride.navigations {v : World} {k : Ledger} (stride : Stride w l v k) :
    w.session.navigations ≤ v.session.navigations := by
  cases stride with
  | still _ navigations => exact Nat.le_of_eq navigations.symm
  | obeyed => exact Nat.le_refl _
  | ended => exact Nat.le_refl _
  | typed _ _ _ _ navigations => exact Nat.le_of_eq navigations.symm
  | heard _ _ _ _ _ navigations => exact Nat.le_of_eq navigations.symm
  | opened _ navigations =>
    show _ ≤ Session.navigations _
    rw [navigations]
    exact Nat.le_succ _
  | closed _ navigations => exact Nat.le_of_eq navigations.symm

end World

end IdeaBoard
