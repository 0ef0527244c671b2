import IdeaBoard.Proofs.Ledger

/-!
# IdeaBoard — whose answer a page takes up

Every page numbers its requests from one, while the engine outlives the pages: an answer that waits
when a page is closed still waits when the next one is open. The ledger of a session says exactly when
a page takes up an answer to a question of its own.

* **`Settles`** — the page takes up the end of a request. Nothing else puts posts on show or records
  a failure (`shows_of_not_settles`).
* **`Fresh`** / **`Overtaken`** — the answer is to the page's own request under the number it waits
  for; the next event is the end of an earlier page's request under that very number.
* **`Kept.fresh_iff`** — what is taken up is fresh unless the page is overtaken.
* **`freshSession_iff`** — so a session is free of foreign answers just when no event is taken up by a
  page that is overtaken, and nothing but what is taken up gets on show.
-/

namespace IdeaBoard

open Search (State Effect Message Outcome Generation)
open Engine (Job)

namespace World

variable {w : World} {l : Ledger}

/-! ## Answers that are taken up -/

def message? (w : World) : Action → Option Message
  | .line text =>
    match Command.parse? text with
    | some (.page m) => some m
    | _ => none
  | .process => none
  | .complete _ _ => none
  | .poll => w.engine.events.head?.map Session.message

/-- In the step the open page takes up the end of a request: it puts the posts on show, or records
the failure. -/
def Settles (w : World) (a : Action) (s : State) (g : Generation) (o : Outcome) : Prop :=
  w.session.page = some s ∧ w.message? a = some (.searchCompleted g o) ∧ s.Accepts g

/-- The outcome answers the request that the open page itself has made under the number it waits for,
which asks for what the page is to show now. -/
def Fresh (w : World) (l : Ledger) (s : State) (o : Outcome) : Prop :=
  ∃ e, l.next? = some e ∧
    l.issued[e.task.id]? = some ⟨w.session.navigations, .request s.generation s.request⟩ ∧
    o = Session.outcome (e.answer s.request)

/-- The next event to be taken up is the end of a request of an earlier page, under the very number
that the open page waits for. -/
def Overtaken (w : World) (l : Ledger) : Prop :=
  ∃ s e page r, w.session.page = some s ∧ s.phase = .awaitingResponse ∧ l.next? = some e ∧
    l.issued[e.task.id]? = some ⟨page, .request s.generation r⟩ ∧ page < w.session.navigations

/-- A line gives the page the message that it is parsed to, and no other. -/
theorem message?_line (w : World) (text : String) (m : Message) :
    w.message? (.line text) = some m ↔ Command.parse? text = some (.page m) := by
  unfold message?
  simp only
  split
  · next m' hparse => rw [hparse, Option.some.injEq, Option.some.injEq, Command.page.injEq]
  · next hnot =>
    constructor
    · intro h
      exact absurd h (by simp)
    · intro h
      exact absurd h (hnot m)

/-- Only by taking up an event can a page learn of the end of a request. -/
theorem eq_poll_of_message? {a : Action} {g : Generation} {o : Outcome}
    (h : w.message? a = some (.searchCompleted g o)) : a = .poll := by
  cases a with
  | line text =>
    -- a line gives the page an edit, or asks it for more
    have hparse := (message?_line w text _).mp h
    rcases Session.parse?_page hparse with ⟨e, he⟩ | he <;> exact absurd he (by simp)
  | process => exact absurd h (by simp [message?])
  | complete => exact absurd h (by simp [message?])
  | poll => rfl

/-! ### What a step makes of the page -/

theorem step_line {text : String} {r : Session × List Output} (h : w.session.handle text = some r) :
    (w.step (.line text)).1.session = r.1 := by
  simp only [World.step, h]
  rfl

theorem step_leave {text : String} (h : w.session.handle text = none) :
    (w.step (.line text)).1.session = w.session.unmount.1 := by
  simp only [World.step, h]
  rfl

/-- A message that reaches the page moves it, and then it is drawn. -/
theorem page_of_message {a : Action} {s : State} {m : Message} (shown : w.session.page = some s)
    (hmessage : w.message? a = some m) :
    (w.step a).1.session.page = some (s.update m).1.consumeDirty.2 := by
  cases a with
  | line text =>
    have hparse := (message?_line w text m).mp hmessage
    rw [step_line (Session.handle_page hparse), Session.dispatch_page shown]
  | process => exact absurd hmessage (by simp [message?])
  | complete => exact absurd hmessage (by simp [message?])
  | poll =>
    -- the oldest event that waits is the one that is received
    obtain ⟨event, hhead, rfl⟩ := Option.map_eq_some_iff.mp hmessage
    obtain ⟨events, hevents⟩ := List.head?_eq_some_iff.mp hhead
    have hstep : (w.step .poll).1.session = (w.session.receive event).1 := by
      rw [step_poll hevents]
      rfl
    rw [hstep, (Session.receive_eq_dispatch _ event).1, Session.dispatch_page shown]

/-- Where no message reaches the page, it stays as it is or is closed. -/
theorem page_of_silence {a : Action} (hmessage : w.message? a = none) :
    (w.step a).1.session.page = w.session.page ∨ (w.step a).1.session.page = none ∨
      (w.step a).1.session.navigations = w.session.navigations + 1 := by
  cases a with
  | line text =>
    have hpage : ∀ m, Command.parse? text ≠ some (.page m) := by
      intro m hparse
      rw [(message?_line w text m).mpr hparse] at hmessage
      exact absurd hmessage (by simp)
    cases hhandle : w.session.handle text with
    | none =>
      rw [step_leave hhandle]
      exact .inr (.inl w.session.unmount_spec.1)
    | some r =>
      rw [step_line hhandle]
      -- the line is no message, so it leads elsewhere or changes nothing
      rcases Session.handle_cases hhandle with ⟨m, hparse, _⟩ | ⟨location, hparse, _⟩ |
        ⟨_, _, hsame, _⟩
      · exact absurd hparse (hpage m)
      · exact .inr (.inr (Session.handle_navigate_spec hparse hhandle).2.1)
      · rw [hsame]
        exact .inl rfl
  | process => exact .inl rfl
  | complete => exact .inl rfl
  | poll =>
    have hevents : w.engine.events = [] :=
      List.head?_eq_none_iff.mp (Option.map_eq_none_iff.mp hmessage)
    rw [step_poll_nil hevents]
    exact .inl rfl

/-- What the page is once it has taken up the end of a request: settled, and drawn. -/
theorem page_of_settles {a : Action} {s : State} {g : Generation} {o : Outcome}
    (h : w.Settles a s g o) : (w.step a).1.session.page = some (s.settle o).consumeDirty.2 := by
  obtain ⟨shown, hmessage, haccepts⟩ := h
  rw [page_of_message shown hmessage, State.update_of_accepts haccepts]

/-- **Nothing else puts posts on show or records a failure.** As long as the page is open, its posts
may be hidden, and an old failure is forgotten. -/
theorem shows_of_not_settles {a : Action} {s t : State} (shown : w.session.page = some s)
    (hnot : ∀ g o, ¬w.Settles a s g o) (stays : (w.step a).1.session.page = some t)
    (navigations : (w.step a).1.session.navigations = w.session.navigations) :
    (t.posts = s.posts ∨ t.posts = none) ∧ (t.lastError = s.lastError ∨ t.lastError = none) := by
  -- with no message the page is as it was; with one it makes a move that settles nothing
  cases hmessage : w.message? a with
  | none =>
    rcases page_of_silence hmessage with hsame | hclosed | hnext
    · rw [stays, shown] at hsame
      obtain rfl := Option.some.inj hsame
      exact ⟨.inl rfl, .inl rfl⟩
    · rw [stays] at hclosed
      exact absurd hclosed (by simp)
    · rw [navigations] at hnext
      exact absurd hnext (Nat.ne_of_lt (Nat.lt_succ_self _))
  | some m =>
    rw [page_of_message shown hmessage] at stays
    obtain rfl := Option.some.inj stays
    refine (State.update_step s m).shows ?_
    rintro g o rfl haccepts
    exact hnot g o ⟨shown, hmessage, haccepts⟩

/-! ### Where an answer comes from -/

/-- A job that is asked for is asked for by an effect. -/
theorem mem_jobs_commandsOf {es : List Effect} {job : Job}
    (h : job ∈ Engine.jobs (commandsOf es)) : ∃ e ∈ es, e.command? = some (.start job) := by
  obtain ⟨c, hc, hjob⟩ := List.mem_filterMap.mp h
  obtain ⟨e, he, hcommand⟩ := List.mem_filterMap.mp hc
  cases c with
  | start job' =>
    obtain rfl : job' = job := Option.some.inj hjob
    exact ⟨e, he, hcommand⟩
  | cancelPending => exact absurd hjob (by simp [Engine.Command.job?])

/-- A timer that was given to the engine is one that the effects started. -/
theorem mem_timers {es : List Effect} {g : Generation} {delay : UInt64}
    (h : .timer g delay ∈ Engine.jobs (commandsOf es)) : g ∈ Search.timers es := by
  obtain ⟨e, he, hcommand⟩ := mem_jobs_commandsOf h
  refine List.mem_filterMap.mpr ⟨e, he, ?_⟩
  -- of the effects only one that starts a timer is carried out as this command
  cases e with
  | scheduleSearch g' _ =>
    cases hcommand
    rfl
  | _ => cases hcommand

/-- A request that was given to the engine is one that the effects made. -/
theorem mem_requests {es : List Effect} {g : Generation} {r : Search.Request}
    (h : .request g r ∈ Engine.jobs (commandsOf es)) : (g, r) ∈ Search.requests es := by
  obtain ⟨e, he, hcommand⟩ := mem_jobs_commandsOf h
  refine List.mem_filterMap.mpr ⟨e, he, ?_⟩
  cases e with
  | searchPosts g' _ =>
    cases hcommand
    rfl
  | _ => cases hcommand

/-- A page that waits has asked under its number for what it is to show now, and for nothing else. -/
theorem Kept.request_eq (h : Kept w l) {s : State} (shown : w.session.page = some s)
    (phase : s.phase = .awaitingResponse) {n : Nat} {r : Search.Request}
    (hissued : l.issued[n]? = some ⟨w.session.navigations, .request s.generation r⟩) :
    r = s.request := by
  obtain ⟨_, done, es, disciplined, hjobs⟩ := h.page s shown
  have hjob : Job.request s.generation r ∈ l.jobsOf w.session.navigations := by
    refine List.mem_map.mpr ⟨_, List.mem_filter.mpr ⟨List.mem_of_getElem? hissued, ?_⟩, rfl⟩
    simp
  rw [hjobs] at hjob
  -- the page has made one request under its number, and that is for what it shows now
  have hrequest : (s.generation, r) ∈
      (Search.requests es).filter (fun p => p.1 = s.generation) :=
    List.mem_filter.mpr ⟨mem_requests hjob, by simp⟩
  rw [disciplined.requests_eq phase, List.mem_singleton] at hrequest
  exact (Prod.mk.inj hrequest).2

/-- Every ended task did a job of some page that is or was open. -/
theorem Kept.issuer (h : Kept w l) {e : Ending} (he : e ∈ l.ended) :
    ∃ page, l.issued[e.task.id]? = some ⟨page, e.task.job⟩ ∧ page ≤ w.session.navigations := by
  have hjob := h.ended e he
  rw [Ledger.jobs, List.getElem?_map] at hjob
  obtain ⟨⟨page, job⟩, hissued, hsame⟩ := Option.map_eq_some_iff.mp hjob
  obtain rfl : job = e.task.job := hsame
  exact ⟨page, hissued, h.pages _ (List.mem_of_getElem? hissued)⟩

/-- Where an outcome that is taken up comes from. -/
theorem Kept.source (h : Kept w l) {a : Action} {s : State} {g : Generation} {o : Outcome}
    (settles : w.Settles a s g o) :
    ∃ e page r, l.next? = some e ∧ l.issued[e.task.id]? = some ⟨page, .request s.generation r⟩ ∧
      o = Session.outcome (e.answer r) ∧ page ≤ w.session.navigations := by
  obtain ⟨shown, hmessage, _, rfl, _⟩ := settles
  obtain rfl := eq_poll_of_message? hmessage
  obtain ⟨event, hhead, hevent⟩ := Option.map_eq_some_iff.mp hmessage
  obtain ⟨events, hevents⟩ := List.head?_eq_some_iff.mp hhead
  obtain ⟨e, hnext, heq, _⟩ := h.next hevents
  obtain ⟨page, hissued, hpage⟩ := h.issuer (List.mem_of_getElem? hnext)
  rw [← heq] at hevent
  -- only a request leaves such an event
  unfold Ending.event at hevent
  cases hdone : e.task.job with
  | timer g delay =>
    rw [hdone] at hevent
    exact absurd hevent (by simp [Engine.Job.event, Session.message])
  | request g r =>
    rw [hdone] at hevent hissued
    obtain ⟨rfl, rfl⟩ := Message.searchCompleted.inj hevent
    exact ⟨e, page, r, hnext, hissued, rfl, hpage⟩

/-! ## Foreign answers -/

/-- An answer that is taken up is fresh, unless an earlier page is due it. -/
theorem Kept.fresh_iff (h : Kept w l) {a : Action} {s : State} {g : Generation} {o : Outcome}
    (settles : w.Settles a s g o) : Fresh w l s o ↔ ¬Overtaken w l := by
  have ⟨shown, _, _, _, phase⟩ := settles
  obtain ⟨e, page, r, hnext, hissued, houtcome, hpage⟩ := h.source settles
  constructor
  · -- the same ended task cannot belong to the open page and to an earlier one
    rintro ⟨e', hnext', hissued', _⟩ ⟨s'', e'', page'', r'', _, _, hnext'', hissued'', hearlier⟩
    obtain rfl : e' = e'' := Option.some.inj (hnext'.symm.trans hnext'')
    have hsame := Option.some.inj (hissued'.symm.trans hissued'')
    exact absurd (Issue.mk.inj hsame).1 (Nat.ne_of_gt hearlier)
  · intro hnot
    -- no earlier page has asked, and no later one is there
    have hown : page = w.session.navigations := by
      refine Nat.le_antisymm hpage (Nat.le_of_not_lt fun hearlier => hnot ?_)
      exact ⟨s, e, page, r, shown, phase, hnext, hissued, hearlier⟩
    rw [hown] at hissued
    obtain rfl := h.request_eq shown phase hissued
    exact ⟨e, hnext, hissued, houtcome⟩

/-- An earlier page's answer that carries the number waited for is taken up. -/
theorem Kept.settles_of_overtaken (h : Kept w l) (overtaken : Overtaken w l) :
    ∃ s g o, w.Settles .poll s g o := by
  obtain ⟨s, e, page, r, shown, phase, hnext, hissued, _⟩ := overtaken
  obtain ⟨_, hissuer, _⟩ := h.issuer (List.mem_of_getElem? hnext)
  rw [hissued] at hissuer
  have hrequest : .request s.generation r = e.task.job := (Issue.mk.inj (Option.some.inj hissuer)).2
  -- the first event that waits is the one of the next ended task
  have hhead : w.engine.events.head? = some e.event := by
    rw [h.events, List.head?_map, List.head?_drop]
    show l.next?.map Ending.event = _
    rw [hnext]
    rfl
  refine ⟨s, s.generation, Session.outcome (e.answer r), shown, ?_, (h.page s shown).1, rfl, phase⟩
  show w.engine.events.head?.map Session.message = _
  rw [hhead, Ending.event, ← hrequest]
  rfl

/-- No step of the session makes a page take up what is not the answer to the request it has made
itself under the number it waits for. -/
def FreshSession (bootstrap : Bootstrap) (settings : Search.Settings) (location : String)
    (as : List Action) : Prop :=
  ∀ before a after, as = before ++ a :: after → ∀ s g o,
    (traced bootstrap settings location before).1.Settles a s g o →
      Fresh (traced bootstrap settings location before).1
        (traced bootstrap settings location before).2 s o

/-- **A session is free of foreign answers just when it never takes up an event while the next one is
the end of a request of an earlier page under the very number that the open page waits for.** It is
enough to look at the ends of requests that are taken up: such a step settles the page with that
outcome, and no other step puts posts on show or records a failure. -/
theorem freshSession_iff (bootstrap : Bootstrap) (settings : Search.Settings) (location : String)
    (as : List Action) :
    (FreshSession bootstrap settings location as ↔
      ∀ before after, as = before ++ .poll :: after →
        ¬Overtaken (traced bootstrap settings location before).1
          (traced bootstrap settings location before).2) ∧
    ∀ before a after s, as = before ++ a :: after →
      let w := (traced bootstrap settings location before).1
      let u := (w.step a).1
      w.session.page = some s →
        (∀ g o, w.Settles a s g o → u.session.page = some (s.settle o).consumeDirty.2) ∧
        ∀ t, (∀ g o, ¬w.Settles a s g o) → u.session.page = some t →
          u.session.navigations = w.session.navigations →
          (t.posts = s.posts ∨ t.posts = none) ∧
            (t.lastError = s.lastError ∨ t.lastError = none) := by
  refine ⟨⟨?overtaken, ?fresh⟩, ?shown⟩
  case overtaken =>
    intro hfresh before after has overtaken
    have hkept := kept_traced bootstrap settings location before
    obtain ⟨s, g, o, settles⟩ := hkept.settles_of_overtaken overtaken
    exact (hkept.fresh_iff settles).mp (hfresh before .poll after has s g o settles) overtaken
  case fresh =>
    intro hnever before a after has s g o settles
    have hkept := kept_traced bootstrap settings location before
    obtain rfl := eq_poll_of_message? settles.2.1
    exact (hkept.fresh_iff settles).mpr (hnever before after has)
  case shown =>
    intro before a after s _ w u shown
    exact ⟨fun g o settles => page_of_settles settles,
      fun t hnot stays navigations => shows_of_not_settles shown hnot stays navigations⟩

def echo (r : Search.Request) : Engine.Result := .ok [⟨.string r.query⟩]

/-- The reader asks a first page for more and leaves it once the answer waits, and asks a second page
for more. -/
def leftBehind : List Action :=
  [.line "more", .process, .process, .complete 0 echo, .line "go /?query=b", .line "more"]

/-- **The second page puts the answer to the first on show**, for each asks under number one; the
answer to its own request comes too late. -/
theorem foreign_answer :
    ¬FreshSession {} {} "/?query=a" (leftBehind ++ [.poll]) ∧
    (traced {} {} "/?query=a" (leftBehind ++
      [.poll, .process, .process, .process, .complete 1 echo, .poll])).1.session.page.map
        (fun s => (s.filter.query, s.phase, s.posts)) =
      some ("b", .idle, some [⟨.string "a"⟩]) := by
  refine ⟨?_, by decide +kernel⟩
  intro hfresh
  -- the second page waits for its own answer, under number one
  have hpage : (traced {} {} "/?query=a" leftBehind).1.session.page.map
      (fun s => (s.unmounted, s.generation, s.phase)) = some (false, 1, .awaitingResponse) := by
    decide +kernel
  obtain ⟨s, shown, hstate⟩ := Option.map_eq_some_iff.mp hpage
  obtain ⟨mounted, hrest⟩ := Prod.mk.inj hstate
  obtain ⟨generation, phase⟩ := Prod.mk.inj hrest
  have hmessage : (traced {} {} "/?query=a" leftBehind).1.message? .poll =
      some (.searchCompleted 1 (.ok [⟨.string "a"⟩])) := by rfl
  have settles : (traced {} {} "/?query=a" leftBehind).1.Settles .poll s 1
      (.ok [⟨.string "a"⟩]) := ⟨shown, hmessage, mounted, generation.symm, phase⟩
  obtain ⟨e, hnext, hissued, _⟩ := hfresh leftBehind .poll [] rfl s 1 _ settles
  have hfirst : (traced {} {} "/?query=a" leftBehind).2.next?.map (fun e => e.task.id) = some 0 := by
    decide +kernel
  rw [hnext] at hfirst
  have hid : e.task.id = 0 := Option.some.inj hfirst
  rw [hid] at hissued
  -- the answer belongs to the first page, and the second is open
  have hissuer : (traced {} {} "/?query=a" leftBehind).2.issued[0]?.map Issue.page = some 1 := by
    decide +kernel
  have hopen : (traced {} {} "/?query=a" leftBehind).1.session.navigations = 2 := by decide +kernel
  rw [hissued, hopen] at hissuer
  have hsame : 2 = 1 := Option.some.inj hissuer
  exact absurd hsame (by decide)

end World

end IdeaBoard
