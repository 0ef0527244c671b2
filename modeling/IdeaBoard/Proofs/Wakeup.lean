import IdeaBoard.Proofs.Awaited

/-!
# IdeaBoard — no page waits in vain

A session waits until its page is at rest before it ends, so the timer or the answer that the page waits
for must never be lost; and a page at rest should have nothing under way. The first holds of every
session. The second fails where a task of an earlier page ends before the engine has obeyed the
cancelling that closed that page: its event can carry the number that the open page waits for.

* **`OneToken`** — just what the open page awaits is on its way to it.
* **`Served.oneToken_iff`** — that is so when the page is not `Haunted` by an event of an earlier one, and
  its own tasks owe it just what it awaits (`Exact`). A page that is never haunted stays `Exact`
  (`Stride.exact`, `exact_traced`).
* **`Native`** — nothing that is left of earlier pages can come back; it holds from a `Quiet` engine on
  (`native_traced`).
* **`CanReach`** — what the engine and the session come to without a line of input, such as to rest
  (`canReach_settled`).
* **`one_token_iff`** — what this says of every session; `ghost_timer` is a session with two timers on
  their way to one page.
-/

namespace IdeaBoard

open Search (State Effect Message Generation)
open Engine (Job Task Token jobs)

namespace World

variable {w : World} {l : Ledger}

/-! ## On its way -/

/-- Just what the open page awaits is on its way to it. -/
def OneToken (w : World) : Prop :=
  ∀ s, w.session.page = some s → w.engine.outstanding s.generation = s.awaited

/-- The tasks of the open page itself owe it just what it awaits. -/
def Exact (w : World) (l : Ledger) : Prop :=
  ∀ s, w.session.page = some s → (w.own l s.generation).Perm s.awaited

/-- The events that wait are those of the ended tasks that wait. -/
theorem Kept.map_token_events (h : Kept w l) :
    w.engine.events.map Engine.Event.token = l.waiting.map Task.token := by
  rw [h.events, Ledger.waiting, List.map_map, List.map_map]
  exact List.map_congr_left fun e _ => token_event e

theorem Kept.outstanding_eq (h : Kept w l) (live : Generation) :
    w.engine.outstanding live =
      (l.waiting.filter fun t => t.token.generation = live).map Task.token ++
        w.engine.remains.map Task.token := by
  rw [Engine.outstanding_eq, h.map_token_events, List.filter_map]
  rfl

/-- Of the ended tasks of the live generation those of the open page are owed to it. -/
theorem owed_eq (l : Ledger) (page : Nat) (g : Generation) :
    l.owed page g =
      (l.waiting.filter fun t => t.token.generation = g).filter fun t => l.pageOf? t = some page := by
  unfold Ledger.owed
  rw [List.filter_filter]
  exact List.filter_congr fun t _ => by simp [and_comm]

/-- What the page's own tasks owe it is among all that is on its way. -/
theorem Kept.own_sublist (h : Kept w l) (g : Generation) :
    (w.own l g).Sublist (w.engine.outstanding g) := by
  rw [h.outstanding_eq, World.own, owed_eq]
  exact (List.filter_sublist.map Task.token).append_right _

/-- Nothing else is on its way to a page that is not haunted. -/
theorem Kept.outstanding_of_not_haunted (h : Kept w l) {s : State}
    (shown : w.session.page = some s) (hnot : ¬Haunted w l) :
    w.engine.outstanding s.generation = w.own l s.generation := by
  rw [h.outstanding_eq, World.own, Ledger.owed]
  congr 2
  refine List.filter_congr fun t ht => ?_
  by_cases live : t.token.generation = s.generation
  · have hpage := (h.own_or_haunted shown ht live).resolve_right hnot
    simp [live, hpage]
  · simp [live]

/-- More is on its way to a page that is haunted. -/
theorem Kept.length_own_lt (h : Kept w l) {s : State} (shown : w.session.page = some s)
    (haunted : Haunted w l) :
    (w.own l s.generation).length < (w.engine.outstanding s.generation).length := by
  obtain ⟨p, t, page, shown', ht, hpage, hlt, live⟩ := haunted
  obtain rfl := Option.some.inj (shown'.symm.trans shown)
  have hlive : t ∈ l.waiting.filter fun t => t.token.generation = p.generation :=
    List.mem_filter.mpr ⟨ht, decide_eq_true live⟩
  have hforeign : ¬l.pageOf? t = some w.session.navigations := by
    rw [hpage]
    exact fun hsame => Nat.ne_of_lt hlt (Option.some.inj hsame)
  -- the event that haunts the page is live, but not owed to it
  have hfewer : (l.owed w.session.navigations p.generation).length <
      (l.waiting.filter fun t => t.token.generation = p.generation).length := by
    rw [owed_eq, List.length_filter_lt_length_iff_exists]
    exact ⟨t, hlive, by simpa using hforeign⟩
  simp only [h.outstanding_eq, World.own, List.length_append, List.length_map]
  exact Nat.add_lt_add_right hfewer _

/-- A page waits for one thing at a time. -/
theorem length_awaited_le (s : State) : s.awaited.length ≤ 1 := by
  unfold Search.State.awaited
  split <;> simp

/-- What a page awaits is one token at most, so its order does not matter. -/
theorem eq_awaited_of_perm {s : State} {o : List Token} (h : o.Perm s.awaited) : o = s.awaited := by
  have hle := length_awaited_le s
  match hawaited : s.awaited with
  | [] =>
    rw [hawaited] at h
    exact h.eq_nil
  | [τ] =>
    rw [hawaited] at h
    exact List.perm_singleton.mp h
  | _ :: _ :: _ =>
    rw [hawaited] at hle
    exact absurd hle (by simp)

/-- **Just one token is on its way when no event of an earlier page haunts the open one, and its own
tasks owe it no more than it awaits.** -/
theorem Served.oneToken_iff (h : Served w l) : OneToken w ↔ ¬Haunted w l ∧ Exact w l := by
  constructor
  · intro one
    have hnot : ¬Haunted w l := by
      intro haunted
      have ⟨s, _, _, shown, _⟩ := haunted
      have hmore := h.kept.length_own_lt shown haunted
      have hle := length_awaited_le s
      rw [one s shown] at hmore
      -- so the page's own tasks owe it nothing, and it awaits nothing
      have hown : w.own l s.generation = [] := List.eq_nil_of_length_eq_zero (by omega)
      have hawaited : s.awaited = [] := List.subset_nil.mp (hown ▸ h.owed s shown)
      rw [hawaited] at hmore
      exact absurd hmore (Nat.not_lt_zero _)
    refine ⟨hnot, fun s shown => ?_⟩
    rw [← h.kept.outstanding_of_not_haunted shown hnot, one s shown]
  · rintro ⟨hnot, exact⟩ s shown
    rw [h.kept.outstanding_of_not_haunted shown hnot]
    exact eq_awaited_of_perm (exact s shown)

/-! ## Exactness -/

/-- As long as no event of an earlier page haunts a page, its tasks owe it just what it awaits. -/
theorem Stride.exact (h : Served w l) {v : World} {k : Ledger} (stride : Stride w l v k)
    (before : v.session.navigations = w.session.navigations → ¬Haunted w l ∧ Exact w l) :
    Exact v k := by
  intro s shown
  rcases stride.turn h.kept h.numbered h.sifted shown with ⟨hsame, p, hp, turn⟩ | ⟨hidle, hnone⟩
  · obtain ⟨hnot, exact⟩ := before hsame
    exact turn.perm hnot (exact p hp)
  · rw [hidle, hnone]

/-! ## Quiet engines -/

/-- No event and no job waits, and no task is under way. Cancellings may wait, which have nothing to
stop then. -/
def Quiet (e : Engine) : Prop := e.events = [] ∧ e.running = [] ∧ jobs e.commands = []

/-- All that can still leave an event works for the open page. -/
structure Native (w : World) (l : Ledger) : Prop where
  waiting : ∀ t ∈ l.waiting, l.pageOf? t = some w.session.navigations
  doomed : ∀ t ∈ w.engine.doomed, l.pageOf? t = some w.session.navigations

/-- Where nothing of earlier pages is left, no page is haunted. -/
theorem not_haunted_of_native (native : ∀ s, w.session.page = some s → Native w l) :
    ¬Haunted w l := by
  rintro ⟨s, t, page, shown, ht, hpage, hlt, _⟩
  rw [(native s shown).waiting t ht] at hpage
  exact Nat.ne_of_gt hlt (Option.some.inj hpage)

/-- Tasks that remain work for the open page. -/
theorem pageOf?_remains (h : Kept w l) {t : Task} (ht : t ∈ w.engine.remains) :
    l.pageOf? t = some w.session.navigations := by
  obtain ⟨job, hissued⟩ := h.own t ht
  exact pageOf?_eq hissued

theorem Native.running (native : Native w l) (h : Kept w l) {t : Task}
    (ht : t ∈ w.engine.running) : l.pageOf? t = some w.session.navigations := by
  -- a task under way is either to be stopped or remains
  by_cases hcancel : .cancelPending ∈ w.engine.commands
  · exact native.doomed t (Engine.running_subset_doomed hcancel ht)
  · exact pageOf?_remains h (Engine.subset_remaining hcancel _ _ ht)

/-- Commands of the open page bring in no task of another. -/
theorem Native.told (native : Native w l) (h : Kept w l) {t : Session}
    (navigations : t.navigations = w.session.navigations) (cs : List Engine.Command) :
    Native ⟨t, { w.engine with commands := w.engine.commands ++ cs }⟩
      (l.issue w.session.navigations (jobs cs)) where
  waiting := by
    intro u hu
    rw [pageOf?_issue (h.waiting_lt hu), navigations]
    exact native.waiting u hu
  doomed := by
    intro u hu
    rw [navigations]
    rw [Engine.doomed_told h.engine] at hu
    rcases List.mem_append.mp hu with hold | hnew
    · rw [pageOf?_doomed h hold]
      exact native.doomed u hold
    · -- what the new commands doom remained before, or is their own
      rcases Engine.mem_stopped hnew with hremains | ⟨hle, hlt⟩
      · obtain ⟨job, hissued⟩ := h.own u hremains
        exact pageOf?_eq (getElem?_issue hissued _ _)
      · rw [Ledger.jobs, List.length_map] at hle hlt
        obtain ⟨job, hissued⟩ := getElem?_issue_new l w.session.navigations hle hlt
        exact pageOf?_eq hissued

/-- Nothing of an earlier page comes back. -/
theorem Stride.native (h : Kept w l) {v : World} {k : Ledger} (stride : Stride w l v k)
    (same : v.session.navigations = w.session.navigations) {s : State}
    (shown : v.session.page = some s) (before : ∀ s, w.session.page = some s → Native w l) :
    Native v k := by
  -- the page stays open, so no stride but an ended task and a taken event touches what waits
  cases stride with
  | still page navigations =>
    have native := before s (page ▸ shown)
    exact ⟨navigations ▸ native.waiting, navigations ▸ native.doomed⟩
  | obeyed =>
    have native := before s shown
    exact ⟨native.waiting, fun t ht => native.doomed t (Engine.doomed_process h.engine ht)⟩
  | @ended t answer found =>
    have native := before s shown
    refine ⟨fun u hu => ?_, fun u hu => native.doomed u (Engine.doomed_complete _ _ _ hu)⟩
    rw [waiting_ended h] at hu
    rcases List.mem_append.mp hu with hold | hnew
    · exact native.waiting u hold
    · rw [List.mem_singleton.mp hnew]
      exact native.running h (List.mem_of_find?_eq_some found)
  | typed shown' _ _ _ navigations => exact (before _ shown').told h navigations _
  | @heard _ _ _ _ e events shown' waits next _ _ navigations =>
    have native := before _ shown'
    have taken : Native { w with engine := { w.engine with events := events } }
        { l with taken := l.taken + 1 } := by
      refine ⟨fun t ht => native.waiting t ?_, native.doomed⟩
      rw [waiting_next next]
      exact List.mem_cons_of_mem _ ht
    exact taken.told (h.took waits) navigations _
  | opened _ navigations => exact absurd (navigations.symm.trans same) (Nat.succ_ne_self _)
  | closed page => exact absurd (page.symm.trans shown) (by simp)

theorem Quiet.waiting_eq_nil (quiet : Quiet w.engine) (h : Kept w l) : l.waiting = [] := by
  have hevents := h.events
  rw [quiet.1] at hevents
  unfold Ledger.waiting
  rw [List.map_eq_nil_iff.mp hevents.symm]
  rfl

/-- Nothing remains of a quiet engine, and nothing is to be stopped. -/
theorem Quiet.nothing {e : Engine} (quiet : Quiet e) : e.remains = [] ∧ e.doomed = [] := by
  obtain ⟨_, hrunning, hjobs⟩ := quiet
  -- there is no number for a task to have
  have hnone : ∀ t : Task, ¬(t ∈ e.running ∨
      (e.started ≤ t.id ∧ t.id < e.started + (jobs e.commands).length)) := by
    rw [hrunning, hjobs]
    rintro t (hin | ⟨hle, hlt⟩)
    · exact absurd hin List.not_mem_nil
    · exact absurd hlt (Nat.not_lt_of_le hle)
  constructor
  · exact List.eq_nil_iff_forall_not_mem.mpr fun t ht => hnone t (Engine.mem_remaining ht)
  · exact List.eq_nil_iff_forall_not_mem.mpr fun t ht => hnone t (Engine.mem_stopped ht)

/-- A quiet engine has nothing left of any page. -/
theorem Quiet.native (quiet : Quiet w.engine) (h : Kept w l) : Native w l where
  waiting := by
    rw [quiet.waiting_eq_nil h]
    exact fun _ ht => absurd ht List.not_mem_nil
  doomed := by
    rw [quiet.nothing.2]
    exact fun _ ht => absurd ht List.not_mem_nil

/-- The open page is owed nothing by a quiet engine, and awaits nothing. -/
theorem Quiet.exact (quiet : Quiet w.engine) (h : Served w l) : Exact w l := by
  intro s shown
  have hown : w.own l s.generation = [] := by
    rw [World.own, Ledger.owed, quiet.waiting_eq_nil h.kept, quiet.nothing.1]
    rfl
  have hawaited : s.awaited = [] := List.subset_nil.mp (hown ▸ h.owed s shown)
  rw [hown, hawaited]

/-! ## Coming to rest -/

/-- Steps that come about without a line of input, where the server answers like this. -/
def Unaided (answer : Search.Request → Engine.Result) : Action → Prop
  | .line _ => False
  | .process => True
  | .complete _ given => given = answer
  | .poll => True

/-- Without a line of input the world can come to this. -/
def CanReach (answer : Search.Request → Engine.Result) (r : World × Ledger)
    (P : World × Ledger → Prop) : Prop :=
  ∃ as : List Action, (∀ a ∈ as, Unaided answer a) ∧ P (as.foldl advance r)

variable {answer : Search.Request → Engine.Result} {r : World × Ledger}
  {P Q : World × Ledger → Prop}

theorem CanReach.here (h : P r) : CanReach answer r P :=
  ⟨[], fun _ ha => absurd ha List.not_mem_nil, h⟩

theorem CanReach.next (a : Action) (unaided : Unaided answer a)
    (h : CanReach answer (advance r a) P) : CanReach answer r P := by
  obtain ⟨as, hall, hP⟩ := h
  refine ⟨a :: as, fun b hb => ?_, hP⟩
  rcases List.mem_cons.mp hb with rfl | hin
  · exact unaided
  · exact hall b hin

theorem CanReach.trans (h : CanReach answer r P) (onward : ∀ q, P q → CanReach answer q Q) :
    CanReach answer r Q := by
  obtain ⟨as, hall, hP⟩ := h
  obtain ⟨bs, hall', hQ⟩ := onward _ hP
  refine ⟨as ++ bs, fun b hb => ?_, ?_⟩
  · rcases List.mem_append.mp hb with hin | hin
    · exact hall b hin
    · exact hall' b hin
  · rw [List.foldl_append]
    exact hQ

/-- The engine can obey all commands that wait, while nothing else happens. -/
theorem canReach_obeyed (answer : Search.Request → Engine.Result) (h : Served r.1 r.2) :
    CanReach answer r fun q => Served q.1 q.2 ∧ q.1.session = r.1.session ∧
      q.1.engine.commands = [] ∧ q.1.engine.remains = r.1.engine.remains := by
  generalize hcommands : r.1.engine.commands = cs
  -- on the commands that wait, one obeyed after the other
  induction cs generalizing r with
  | nil => exact .here ⟨h, rfl, hcommands, rfl⟩
  | cons c cs ih =>
    have hrest : (advance r .process).1.engine.commands = cs := Engine.commands_process hcommands
    refine .next .process trivial ((ih (h.step .process) hrest).trans fun q hq => .here ?_)
    obtain ⟨served, hsession, hnone, hremains⟩ := hq
    refine ⟨served, hsession, hnone, hremains.trans ?_⟩
    exact Engine.remains_process h.kept.engine

/-- What the open page awaits can come to wait as an event. -/
theorem canReach_delivered (answer : Search.Request → Engine.Result) (h : Served r.1 r.2)
    {s : State} (shown : r.1.session.page = some s) {τ : Token} (hτ : τ ∈ s.awaited) :
    CanReach answer r fun q => Served q.1 q.2 ∧ q.1.session.page = some s ∧
      τ ∈ q.1.engine.events.map Engine.Event.token := by
  rcases List.mem_append.mp (h.owed s shown hτ) with howed | hremains
  · -- it waits already
    obtain ⟨t, ht, rfl⟩ := List.mem_map.mp howed
    refine .here ⟨h, shown, ?_⟩
    rw [h.kept.map_token_events]
    exact List.mem_map_of_mem (List.mem_filter.mp ht).1
  · -- once all commands are obeyed, it is a task under way, which can end
    obtain ⟨t, ht, rfl⟩ := List.mem_map.mp hremains
    refine (canReach_obeyed answer h).trans fun q hq => ?_
    obtain ⟨served, hsession, hnone, hsame⟩ := hq
    have hrunning : t ∈ q.1.engine.running := by
      have hall : q.1.engine.remains = q.1.engine.running := by
        rw [Engine.remains, hnone]
        rfl
      rw [← hall, hsame]
      exact ht
    refine .next (.complete t.id answer) rfl (.here ⟨served.step _, ?_, ?_⟩)
    · show q.1.session.page = some s
      rw [hsession]
      exact shown
    · show t.token ∈ (q.1.engine.complete t.id answer).events.map Engine.Event.token
      rw [events_complete, endings_complete, served.kept.engine.find?_running hrunning]
      rw [List.map_append]
      exact List.mem_append_right _ (List.mem_singleton.mpr (Engine.token_event t.job answer).symm)

theorem events_poll {event : Engine.Event} {events : List Engine.Event}
    (hevents : w.engine.events = event :: events) : (w.step .poll).1.engine.events = events := by
  rw [step_poll hevents, after_eq]

/-- What waits as an event can be taken up, whatever waits before it. -/
theorem canReach_taken (answer : Search.Request → Engine.Result) (h : Served r.1 r.2) {s : State}
    (shown : r.1.session.page = some s) {τ : Token} (hτ : τ ∈ s.awaited)
    (waits : τ ∈ r.1.engine.events.map Engine.Event.token) :
    CanReach answer r fun q => Served q.1 q.2 ∧
      ∃ u, q.1.session.page = some u ∧ u.phase = s.phase.next := by
  generalize hevents : r.1.engine.events = events at waits
  -- on the events that wait, the oldest first
  induction events generalizing r s with
  | nil => exact absurd waits List.not_mem_nil
  | cons event events ih =>
    have hmessage : r.1.message? .poll = some (Session.message event) := by
      show r.1.engine.events.head?.map Session.message = _
      rw [hevents]
      rfl
    have hpage := page_of_message shown hmessage
    have mounted := (h.kept.page s shown).1
    refine .next .poll trivial ?_
    rcases step_of_event mounted (State.update_step s (Session.message event)) with
      ⟨hignored, hsame, _⟩ | ⟨_, _, hphase, _⟩
    · -- another event: the page stays as it is
      have hlater : τ ∈ events.map Engine.Event.token := by
        rcases List.mem_cons.mp waits with rfl | hin
        · exact absurd hτ hignored
        · exact hin
      rw [hsame] at hpage
      exact ih (s := s.consumeDirty.2) (h.step .poll) hpage hτ (events_poll hevents) hlater
    · exact .here ⟨h.step .poll, _, hpage, hphase⟩

/-- A page that waits can come to have what it waits for. -/
theorem canReach_next (answer : Search.Request → Engine.Result) (h : Served r.1 r.2) {s : State}
    (shown : r.1.session.page = some s) (awaits : s.phase ≠ .idle) :
    CanReach answer r fun q => Served q.1 q.2 ∧
      ∃ u, q.1.session.page = some u ∧ u.phase = s.phase.next := by
  have ⟨τ, hτ⟩ : ∃ τ, τ ∈ s.awaited := by
    cases phase : s.phase with
    | idle => exact absurd phase awaits
    | debouncing => exact ⟨_, awaited_debouncing phase ▸ List.mem_cons_self⟩
    | awaitingResponse => exact ⟨_, awaited_awaitingResponse phase ▸ List.mem_cons_self⟩
  refine (canReach_delivered answer h shown hτ).trans fun q hq => ?_
  obtain ⟨served, shown', waits⟩ := hq
  exact canReach_taken answer served shown' hτ waits

/-- **Without a line of input the session can always come to rest.** -/
theorem canReach_settled (answer : Search.Request → Engine.Result) (h : Served r.1 r.2) :
    CanReach answer r fun q => q.1.session.isSettled := by
  have hidle : ∀ (q : World × Ledger) (s : State), q.1.session.page = some s → s.phase = .idle →
      CanReach answer q fun q => q.1.session.isSettled := by
    intro q s shown phase
    refine .here ?_
    simp [Session.isSettled, Session.phase, shown, phase]
  have hawaiting : ∀ (q : World × Ledger) (s : State), Served q.1 q.2 →
      q.1.session.page = some s → s.phase = .awaitingResponse →
      CanReach answer q fun q => q.1.session.isSettled := by
    intro q s served shown phase
    refine (canReach_next answer served shown (by simp [phase])).trans ?_
    rintro q ⟨_, u, shown, hnext⟩
    rw [phase] at hnext
    exact hidle q u shown hnext
  -- two waits at most: for the timer, and then for the answer
  cases shown : r.1.session.page with
  | none =>
    refine .here ?_
    simp [Session.isSettled, Session.phase, shown]
  | some s =>
    cases phase : s.phase with
    | idle => exact hidle r s shown phase
    | awaitingResponse => exact hawaiting r s h shown phase
    | debouncing =>
      refine (canReach_next answer h shown (by simp [phase])).trans ?_
      rintro q ⟨served, u, shown, hnext⟩
      rw [phase] at hnext
      exact hawaiting q u served shown hnext

/-! ## Sessions -/

section Sessions

variable (bootstrap : Bootstrap) (settings : Search.Settings) (location : String)

/-- A session starts with a quiet engine. -/
theorem quiet_start : Quiet (traced bootstrap settings location []).1.engine := by
  have hquiet : commands ((Session.start bootstrap settings location).navigate location).2 = [] :=
    (Session.navigate_spec _ location).2.2
  show Quiet (start bootstrap settings location).1.engine
  unfold start
  rw [after_eq, hquiet]
  exact ⟨rfl, rfl, rfl⟩

theorem navigations_le (as bs : List Action) :
    (traced bootstrap settings location as).1.session.navigations ≤
      (traced bootstrap settings location (as ++ bs)).1.session.navigations := by
  induction bs using List.reverseRecOn with
  | nil => exact Nat.le_of_eq (by rw [List.append_nil])
  | append_singleton bs b ih =>
    rw [← List.append_assoc, traced_concat]
    exact Nat.le_trans ih (stride (kept_traced _ _ _ _) b).navigations

/-- A page that was never haunted has always been owed just what it awaited. -/
theorem exact_traced {n : Nat} (as : List Action)
    (never : ∀ bs, bs <+: as →
      (traced bootstrap settings location bs).1.session.navigations = n →
      ¬Haunted (traced bootstrap settings location bs).1 (traced bootstrap settings location bs).2)
    (page : (traced bootstrap settings location as).1.session.navigations = n) :
    Exact (traced bootstrap settings location as).1
      (traced bootstrap settings location as).2 := by
  induction as using List.reverseRecOn with
  | nil =>
    exact (quiet_start bootstrap settings location).exact (served_traced _ _ _ [])
  | append_singleton as a ih =>
    have hserved := served_traced bootstrap settings location as
    have hprefix : as <+: as ++ [a] := List.prefix_append as [a]
    rw [traced_concat] at page ⊢
    refine (stride hserved.kept a).exact hserved fun same => ?_
    -- the same page was open before the last step, and was not haunted then
    have hpage := same.symm.trans page
    exact ⟨never as hprefix hpage, ih (fun bs hbs => never bs (hbs.trans hprefix)) hpage⟩

/-- From a quiet engine on, nothing of an earlier page comes back while the same page is open. -/
theorem native_traced (as bs : List Action)
    (quiet : Quiet (traced bootstrap settings location as).1.engine)
    (same : (traced bootstrap settings location (as ++ bs)).1.session.navigations =
      (traced bootstrap settings location as).1.session.navigations) :
    Exact (traced bootstrap settings location (as ++ bs)).1
        (traced bootstrap settings location (as ++ bs)).2 ∧
      ∀ s, (traced bootstrap settings location (as ++ bs)).1.session.page = some s →
        Native (traced bootstrap settings location (as ++ bs)).1
          (traced bootstrap settings location (as ++ bs)).2 := by
  induction bs using List.reverseRecOn with
  | nil =>
    have hserved := served_traced bootstrap settings location as
    rw [List.append_nil]
    exact ⟨quiet.exact hserved, fun _ _ => quiet.native hserved.kept⟩
  | append_singleton bs b ih =>
    have hserved := served_traced bootstrap settings location (as ++ bs)
    have hstride := stride hserved.kept b
    have hle := navigations_le bootstrap settings location as bs
    rw [← List.append_assoc, traced_concat] at same ⊢
    have hge := hstride.navigations
    -- the number of navigations is the same all the way
    have hbefore : (traced bootstrap settings location (as ++ bs)).1.session.navigations =
        (traced bootstrap settings location as).1.session.navigations :=
      Nat.le_antisymm (Nat.le_trans hge (Nat.le_of_eq same)) hle
    obtain ⟨hexact, hnative⟩ := ih hbefore
    have hsame := same.trans hbefore.symm
    refine ⟨?_, fun s shown => hstride.native hserved.kept hsame shown hnative⟩
    exact hstride.exact hserved fun _ => ⟨not_haunted_of_native hnative, hexact⟩

/-- **No page waits in vain: what it awaits, its timer in the quiet time and the answer to its request
after that, is always on its way, and without a line of input the session can always come to rest. Over
the whole life of a page nothing else is on its way, and nothing at all once it is idle, just when no
event of an earlier page ever waits under its live generation. That never happens from the time on at
which the engine has nothing of an earlier page left.** -/
theorem one_token_iff (as : List Action) :
    (∀ s, (traced bootstrap settings location as).1.session.page = some s →
      s.awaited ⊆ (traced bootstrap settings location as).1.engine.outstanding s.generation) ∧
    (∀ answer, CanReach answer (traced bootstrap settings location as)
      fun r => r.1.session.isSettled) ∧
    (∀ n,
      (∀ bs, bs <+: as → (traced bootstrap settings location bs).1.session.navigations = n →
        OneToken (traced bootstrap settings location bs).1) ↔
      ∀ bs, bs <+: as → (traced bootstrap settings location bs).1.session.navigations = n →
        ¬Haunted (traced bootstrap settings location bs).1
          (traced bootstrap settings location bs).2) ∧
    (∀ bs, bs <+: as → Quiet (traced bootstrap settings location bs).1.engine →
      (traced bootstrap settings location as).1.session.navigations =
        (traced bootstrap settings location bs).1.session.navigations →
      OneToken (traced bootstrap settings location as).1) := by
  have hserved := served_traced bootstrap settings location
  refine ⟨?never_lost, fun answer => canReach_settled answer (hserved as), ?life, ?quiet⟩
  case never_lost =>
    intro s shown τ hτ
    have hown := (hserved as).owed s shown hτ
    exact ((hserved as).kept.own_sublist _).subset hown
  case life =>
    intro n
    constructor
    · intro one bs hbs page
      exact ((hserved bs).oneToken_iff.mp (one bs hbs page)).1
    · intro never bs hbs page
      refine (hserved bs).oneToken_iff.mpr ⟨never bs hbs page, ?_⟩
      exact exact_traced _ _ _ bs (fun cs hcs => never cs (hcs.trans hbs)) page
  case quiet =>
    rintro bs ⟨cs, rfl⟩ quiet same
    obtain ⟨hexact, hnative⟩ := native_traced bootstrap settings location bs cs quiet same
    exact (hserved _).oneToken_iff.mpr ⟨not_haunted_of_native hnative, hexact⟩

end Sessions

/-- The reader changes the view of a first page and leaves it while its timer runs. -/
def leftRunning : List Action := [.line "view x", .process, .process, .line "go /?query=b"]

/-- The second page changes its view, and the timer of the first comes to its end before the engine has
obeyed the cancelling that closed it. -/
def ghost : List Action := [.line "view y", .complete 0 echo]

/-- The second page takes up the event of the first one's timer, asks the server and is answered. -/
def misled : List Action :=
  [.poll, .process, .process, .process, .process, .complete 2 echo, .poll]

/-- **The timer of the first page wakes the second**, for both run under number one: no event waits
when the second page is opened, and yet two timers are on their way to it, and one still is when it has
come to rest. -/
theorem ghost_timer :
    (traced {} {} "/?query=a" leftRunning).1.session.page =
      some (.mount "/" "query=b" [] {}) ∧
    (traced {} {} "/?query=a" leftRunning).1.engine.events.isEmpty ∧
    (traced {} {} "/?query=a" (leftRunning ++ ghost)).1.session.page.map
      (fun s => (s.phase, s.generation)) = some (.debouncing, 1) ∧
    (traced {} {} "/?query=a" (leftRunning ++ ghost)).1.engine.outstanding 1 =
      [.timer 1, .timer 1] ∧
    ¬OneToken (traced {} {} "/?query=a" (leftRunning ++ ghost)).1 ∧
    (traced {} {} "/?query=a" (leftRunning ++ ghost ++ misled)).1.session.isSettled ∧
    (traced {} {} "/?query=a" (leftRunning ++ ghost ++ misled)).1.engine.outstanding 1 =
      [.timer 1] ∧
    ¬OneToken (traced {} {} "/?query=a" (leftRunning ++ ghost ++ misled)).1 := by
  have hghost : (traced {} {} "/?query=a" (leftRunning ++ ghost)).1.session.page.map
      (fun s => (s.phase, s.generation)) = some (.debouncing, 1) := by decide +kernel
  have htwo : (traced {} {} "/?query=a" (leftRunning ++ ghost)).1.engine.outstanding 1 =
      [.timer 1, .timer 1] := by decide +kernel
  have hrest : (traced {} {} "/?query=a" (leftRunning ++ ghost ++ misled)).1.session.page.map
      (fun s => (s.phase, s.generation)) = some (.idle, 1) := by decide +kernel
  have hone : (traced {} {} "/?query=a" (leftRunning ++ ghost ++ misled)).1.engine.outstanding 1 =
      [.timer 1] := by decide +kernel
  refine ⟨by decide +kernel, by decide +kernel, hghost, htwo, ?_, by decide +kernel, hone, ?_⟩
  · intro one
    obtain ⟨s, shown, hstate⟩ := Option.map_eq_some_iff.mp hghost
    obtain ⟨phase, generation⟩ := Prod.mk.inj hstate
    have hsame := one s shown
    rw [generation, htwo, awaited_debouncing phase, generation] at hsame
    exact absurd hsame (by decide)
  · intro one
    obtain ⟨s, shown, hstate⟩ := Option.map_eq_some_iff.mp hrest
    obtain ⟨phase, generation⟩ := Prod.mk.inj hstate
    have hsame := one s shown
    rw [generation, hone, awaited_idle phase] at hsame
    exact absurd hsame (by decide)

/-- Where the engine obeys the cancelling in time, the second page has just its own timer, and is at
rest with nothing on its way. -/
theorem one_token_obeyed :
    let obeyed := leftRunning ++ [.process]
    let edited := [.line "view y", .process, .process]
    let answered := [.complete 1 echo, .poll, .process, .complete 2 echo, .poll]
    Quiet (traced {} {} "/?query=a" obeyed).1.engine ∧
    OneToken (traced {} {} "/?query=a" (obeyed ++ edited)).1 ∧
    (traced {} {} "/?query=a" (obeyed ++ edited)).1.engine.outstanding 1 = [.timer 1] ∧
    OneToken (traced {} {} "/?query=a" (obeyed ++ (edited ++ answered))).1 ∧
    (traced {} {} "/?query=a" (obeyed ++ (edited ++ answered))).1.engine.outstanding 1 = [] := by
  intro obeyed edited answered
  have hquiet : Quiet (traced {} {} "/?query=a" obeyed).1.engine :=
    ⟨List.isEmpty_iff.mp (by decide +kernel), by decide +kernel, by decide +kernel⟩
  refine ⟨hquiet, ?_, by decide +kernel, ?_, by decide +kernel⟩
  · exact (one_token_iff {} {} "/?query=a" (obeyed ++ edited)).2.2.2 obeyed
      (List.prefix_append _ _) hquiet (by decide +kernel)
  · exact (one_token_iff {} {} "/?query=a" (obeyed ++ (edited ++ answered))).2.2.2 obeyed
      (List.prefix_append _ _) hquiet (by decide +kernel)

end World

end IdeaBoard
