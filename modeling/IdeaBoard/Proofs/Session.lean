import IdeaBoard.World
import IdeaBoard.Proofs.Search.Run

/-!
# IdeaBoard — what a session does to its page and tells its engine

A session prints and logs a good deal; what matters to the reader are the lines that it prints, and what
matters to the engine are its commands.

* **`dispatch_eq` / `unmount_eq` / `openPage_eq` / `navigate_eq`** — what each of these makes of the
  session as a whole, with the lines that it prints and the commands that it gives.
* **`Move`** — all that a session can do to its page: nothing happens to the page, or it takes a message,
  or it gives way to the next, or it is closed for good.
* **`handle_move` / `receive_move`** — a line and an event each make one of these moves.
-/

namespace IdeaBoard

open Search (State Effect Message)

/-! ## What is put out -/

/-- The command that carries out an effect, where the engine has a part in it. -/
def Search.Effect.command? : Effect → Option Engine.Command
  | .cancelPending => some .cancelPending
  | .replaceLocation _ => none
  | .scheduleSearch g delayMs => some (.start (.timer g delayMs))
  | .searchPosts g r => some (.start (.request g r))

def commandsOf (es : List Effect) : List Engine.Command := es.filterMap Effect.command?

def Output.command? : Output → Option Engine.Command
  | .engine c => some c
  | .print _ => none
  | .log _ => none

def commands (out : List Output) : List Engine.Command := out.filterMap Output.command?

def Output.text? : Output → Option String
  | .print text => some text
  | .log _ => none
  | .engine _ => none

def texts (out : List Output) : List String := out.filterMap Output.text?

@[simp] theorem commands_nil : commands [] = [] := rfl

@[simp] theorem texts_nil : texts [] = [] := rfl

@[simp] theorem commands_append (out rest : List Output) :
    commands (out ++ rest) = commands out ++ commands rest := List.filterMap_append

@[simp] theorem texts_append (out rest : List Output) : texts (out ++ rest) = texts out ++ texts rest :=
  List.filterMap_append

@[simp] theorem commands_log (r : Log.Record) (out : List Output) :
    commands (.log r :: out) = commands out := rfl

@[simp] theorem texts_log (r : Log.Record) (out : List Output) : texts (.log r :: out) = texts out :=
  rfl

@[simp] theorem commands_printed (lines : List String) : commands (Session.printed lines) = [] := by
  induction lines with
  | nil => rfl
  | cons line lines ih => exact ih

@[simp] theorem texts_printed (lines : List String) : texts (Session.printed lines) = lines := by
  induction lines with
  | nil => rfl
  | cons line lines ih =>
    show line :: texts (Session.printed lines) = line :: lines
    rw [ih]

/-- The engine is told the commands of an output, in order. -/
theorem told_eq (e : Engine) (out : List Output) :
    World.told e out = { e with commands := e.commands ++ commands out } := by
  induction out generalizing e with
  | nil => simp [World.told]
  | cons o out ih =>
    cases o with
    | print text => exact ih e
    | log record => exact ih e
    | engine c =>
      rw [World.told, ih]
      simp [Engine.send, commands, Output.command?]

namespace Session

/-! ## Effects, messages and navigation -/

/-- **Effects change nothing but the current location; what they ask for reaches the engine in the same
order, and nothing is printed.** -/
theorem performAll_eq (s : Session) (es : List Effect) :
    (s.performAll es).1 =
        { s with history := (Search.locations es).foldl History.replace s.history } ∧
      texts (s.performAll es).2 = [] ∧ commands (s.performAll es).2 = commandsOf es := by
  induction es generalizing s with
  | nil => exact ⟨rfl, rfl, rfl⟩
  | cons e es ih =>
    obtain ⟨hsession, htexts, hcommands⟩ := ih (s.perform e).1
    have hstep : (s.performAll (e :: es)).1 = ((s.perform e).1.performAll es).1 := rfl
    have hout : (s.performAll (e :: es)).2 =
        (s.perform e).2 ++ ((s.perform e).1.performAll es).2 := rfl
    rw [hstep, hout, texts_append, commands_append, hsession, htexts, hcommands]
    -- a location goes into the history; the other effects are commands, or nothing
    cases e <;> exact ⟨rfl, rfl, rfl⟩

/-- With no page open, a message comes to nothing. -/
theorem dispatch_closed {s : Session} (closed : s.page = none) (m : Message) :
    (s.dispatch m).1 = s ∧ texts (s.dispatch m).2 = [] ∧ commands (s.dispatch m).2 = [] := by
  unfold dispatch
  rw [closed]
  exact ⟨rfl, rfl, rfl⟩

/-- **What a message makes of a session with an open page**: the page takes it up and is drawn if it is
due for it, and the locations that it asks for replace the current one. -/
theorem dispatch_eq {s : Session} {p : State} (shown : s.page = some p) (m : Message) :
    (s.dispatch m).1 =
        { s with
          page := some (p.update m).1.consumeDirty.2
          history := (Search.locations (p.update m).2).foldl History.replace s.history } ∧
      texts (s.dispatch m).2 =
        (if (p.update m).1.dirty then Screen.search (p.update m).1.view else []) ∧
      commands (s.dispatch m).2 = commandsOf (p.update m).2 := by
  obtain ⟨hsession, htexts, hcommands⟩ := s.performAll_eq (p.update m).2
  -- what is drawn does not depend on whether it still has to be
  have hview : Screen.search (p.update m).1.consumeDirty.2.view =
      Screen.search (p.update m).1.view := rfl
  unfold dispatch
  rw [shown]
  simp only
  rw [hsession, hview, texts_append, commands_append, htexts, hcommands]
  refine ⟨rfl, ?_, ?_⟩
  · show texts (if (p.update m).1.dirty then _ else []) = _
    cases (p.update m).1.dirty <;> simp
  · show _ ++ commands (if (p.update m).1.dirty then _ else []) = _
    cases (p.update m).1.dirty <;> simp

/-- The commands with which a session closes its page. -/
def closing (s : Session) : List Engine.Command :=
  match s.page with
  | none => []
  | some p => commandsOf (p.update .unmounted).2

/-- **Closing a page leaves none open and changes nothing else**, gives the commands of its last message,
and prints nothing. -/
theorem unmount_eq (s : Session) :
    s.unmount.1 = { s with page := none } ∧ texts s.unmount.2 = [] ∧
      commands s.unmount.2 = s.closing := by
  unfold unmount closing
  cases hpage : s.page with
  | none =>
    have hsame : s = { s with page := none } := by rw [← hpage]
    exact ⟨hsame, rfl, rfl⟩
  | some p =>
    obtain ⟨hsession, hrest⟩ := ({ s with page := none } : Session).performAll_eq (p.update .unmounted).2
    -- the last message of a page asks for no location
    have hquiet : Search.locations (p.update .unmounted).2 = [] := by
      have move := State.update_step p .unmounted
      generalize p.update .unmounted = r at move
      obtain ⟨u, fs⟩ := r
      cases move with
      | ignored => rfl
      | closed => rfl
    rw [hquiet] at hsession
    exact ⟨hsession, hrest⟩

def AtHome (path : String) : Prop := ∃ d, Router.site.resolve path = .ok d ∧ d.page = .home

def LeadsHome (location : String) : Prop := AtHome (Location.split location).1

/-- The list page that a location leads to, where it leads to one, as it is mounted. -/
@[irreducible]
def listPage? (bootstrap : Bootstrap) (settings : Search.Settings) (location : String) :
    Option State :=
  let (path, query) := Location.split location
  match Router.site.resolve path with
  | .error _ => none
  | .ok d =>
    if d.page = .home then
      some (State.mount (if path.isEmpty then "/" else path) query bootstrap.initialPosts settings)
    else none

/-- The lines that are printed for a location before those of a list page. -/
def frame (bootstrap : Bootstrap) (location : String) : List String :=
  match Router.site.resolve (Location.split location).1 with
  | .error _ => Screen.notFound location
  | .ok d => Screen.page d bootstrap

def pageLines (page : Option State) : List String :=
  match page with
  | some p => Screen.search p.view
  | none => []

/-- A list page is opened by the locations that lead home, as it is mounted there. -/
theorem listPage?_eq_some_iff {bootstrap : Bootstrap} {settings : Search.Settings}
    {location : String} {p : State} :
    listPage? bootstrap settings location = some p ↔
      LeadsHome location ∧
        p = State.mount
          (if (Location.split location).1.isEmpty then "/" else (Location.split location).1)
          (Location.split location).2 bootstrap.initialPosts settings := by
  unfold listPage? LeadsHome AtHome
  simp only
  cases hresolve : Router.site.resolve (Location.split location).1 with
  | error e => simp
  | ok d =>
    by_cases hhome : d.page = .home
    · simpa [hhome] using eq_comm
    · simp [hhome]

theorem isSome_listPage? (bootstrap : Bootstrap) (settings : Search.Settings) (location : String) :
    (listPage? bootstrap settings location).isSome ↔ LeadsHome location := by
  rw [Option.isSome_iff_exists]
  constructor
  · rintro ⟨p, hp⟩
    exact (listPage?_eq_some_iff.mp hp).1
  · intro hhome
    exact ⟨_, listPage?_eq_some_iff.mpr ⟨hhome, rfl⟩⟩

/-- Where no page is open, a location opens the list page that it leads to, and prints its frame
first. -/
theorem openPage_eq {s : Session} (closed : s.page = none) (location : String) :
    (s.openPage location).1 = { s with page := listPage? s.bootstrap s.settings location } ∧
      texts (s.openPage location).2 =
        frame s.bootstrap location ++ pageLines (listPage? s.bootstrap s.settings location) ∧
      commands (s.openPage location).2 = [] := by
  have hsame : s = { s with page := none } := by rw [← closed]
  unfold openPage listPage? frame
  simp only
  cases hresolve : Router.site.resolve (Location.split location).1 with
  | error e => exact ⟨hsame, by simp [note, pageLines], by simp [note]⟩
  | ok d =>
    simp only
    -- the destination is the list page, or one that has no state
    split
    · exact ⟨rfl, by simp [note, pageLines], by simp [note]⟩
    · exact ⟨hsame, by simp [note, pageLines], by simp [note]⟩

/-- **What a navigation makes of a session**: the page that the location leads to is the one that is
open, the location stands in the history as it was put there, the frame and the page are drawn, and the
page before is closed. -/
theorem navigate_eq (s : Session) (location : String) :
    (s.navigate location).1 =
        { s with
          page := listPage? s.bootstrap s.settings location
          navigations := s.navigations + 1 } ∧
      texts (s.navigate location).2 =
        frame s.bootstrap location ++ pageLines (listPage? s.bootstrap s.settings location) ∧
      commands (s.navigate location).2 = s.closing := by
  obtain ⟨hclosed, hquiet, hcommands⟩ := s.unmount_eq
  obtain ⟨hopened, hdrawn, hsilent⟩ :=
    openPage_eq (s := { s with page := none, navigations := s.navigations + 1 }) rfl location
  unfold navigate
  simp only [hclosed]
  refine ⟨hopened, ?_, ?_⟩
  · rw [texts_append, hquiet, List.nil_append]
    exact hdrawn
  · rw [commands_append, hcommands, hsilent, List.append_nil]

/-! ## Moves -/

/-- A page as it is opened. -/
def Opened (p : State) : Prop :=
  ∃ path queryString posts settings, p = State.mount path queryString posts settings

/-- What a session can do to its page, with the commands that it gives. -/
inductive Move (s : Session) : Session → List Engine.Command → Prop where
  /-- Nothing happens to the page. -/
  | still {t : Session} (page : t.page = s.page) (navigations : t.navigations = s.navigations) :
      Move s t []
  /-- The page takes a message. -/
  | updated {t : Session} {p : State} {m : Message} (shown : s.page = some p) (stays : m ≠ .unmounted)
      (page : t.page = some (p.update m).1.consumeDirty.2)
      (navigations : t.navigations = s.navigations) : Move s t (commandsOf (p.update m).2)
  /-- The page gives way to the next, which need not be a list page. -/
  | turned {t : Session} (page : ∀ p, t.page = some p → Opened p)
      (navigations : t.navigations = s.navigations + 1) : Move s t s.closing
  /-- The page is closed for good. -/
  | left {t : Session} (page : t.page = none) (navigations : t.navigations = s.navigations) :
      Move s t s.closing

/-- What a message makes of the page that is open, and the commands that it gives. -/
theorem dispatch_spec {s : Session} {p : State} (shown : s.page = some p) (m : Message) :
    (s.dispatch m).1.page = some (p.update m).1.consumeDirty.2 ∧
      (s.dispatch m).1.navigations = s.navigations ∧
      commands (s.dispatch m).2 = commandsOf (p.update m).2 := by
  obtain ⟨hsession, _, hcommands⟩ := dispatch_eq shown m
  rw [hsession]
  exact ⟨rfl, rfl, hcommands⟩

/-- The page after a message, drawn. -/
theorem dispatch_page {s : Session} {p : State} (shown : s.page = some p) (m : Message) :
    (s.dispatch m).1.page = some (p.update m).1.consumeDirty.2 := (dispatch_spec shown m).1

/-- A message is for the page, where there is one. -/
theorem dispatch_move (s : Session) {m : Message} (stays : m ≠ .unmounted) :
    Move s (s.dispatch m).1 (commands (s.dispatch m).2) := by
  cases hpage : s.page with
  | none =>
    obtain ⟨hsame, _, hquiet⟩ := dispatch_closed hpage m
    rw [hsame, hquiet]
    exact .still rfl rfl
  | some p =>
    obtain ⟨page, navigations, hcommands⟩ := dispatch_spec hpage m
    rw [hcommands]
    exact .updated hpage stays page navigations

/-- Closing a page leaves none open, and gives the commands of its last message. -/
theorem unmount_spec (s : Session) :
    s.unmount.1.page = none ∧ s.unmount.1.navigations = s.navigations ∧
      commands s.unmount.2 = s.closing := by
  obtain ⟨hsession, _, hcommands⟩ := s.unmount_eq
  rw [hsession]
  exact ⟨rfl, rfl, hcommands⟩

/-- Going somewhere closes the page that is open, and opens the next under the next number. -/
theorem navigate_spec (s : Session) (location : String) :
    (∀ p, (s.navigate location).1.page = some p → Opened p) ∧
      (s.navigate location).1.navigations = s.navigations + 1 ∧
      commands (s.navigate location).2 = s.closing := by
  obtain ⟨hsession, _, hcommands⟩ := s.navigate_eq location
  rw [hsession]
  refine ⟨?_, rfl, hcommands⟩
  intro p hp
  obtain ⟨_, rfl⟩ := listPage?_eq_some_iff.mp hp
  exact ⟨_, _, _, _, rfl⟩

/-- Going somewhere turns the page. -/
theorem navigate_move (s : Session) (location : String) :
    Move s (s.navigate location).1 (commands (s.navigate location).2) := by
  obtain ⟨hpage, hnavigations, hcommands⟩ := s.navigate_spec location
  rw [hcommands]
  exact .turned hpage hnavigations

/-! ## Lines and events -/

/-- A line gives a page an edit or asks it for more; no line closes it by a message. -/
theorem parse?_page {line : String} {m : Message} (h : Command.parse? line = some (.page m)) :
    (∃ e, m = .edit e) ∨ m = .showMore := by
  obtain ⟨verb, _, hverb⟩ := Option.bind_eq_some_iff.mp h
  unfold Command.of? at hverb
  -- the first verbs edit, one asks for more, the others are no messages
  cases verb with
  | search => exact .inl ⟨_, by simpa using hverb.symm⟩
  | clear => exact .inl ⟨_, by simpa using hverb.symm⟩
  | view => exact .inl ⟨_, by simpa using hverb.symm⟩
  | tag =>
    obtain ⟨_, hsome⟩ := Option.ite_none_left_eq_some.mp hverb
    exact .inl ⟨_, by simpa using hsome.symm⟩
  | tags => exact .inl ⟨_, by simpa using hverb.symm⟩
  | more => exact .inr (by simpa using hverb.symm)
  | go =>
    obtain ⟨_, hsome⟩ := Option.ite_none_left_eq_some.mp hverb
    exact absurd hsome (by simp)
  | whereAmI => exact absurd hverb (by simp)
  | help => exact absurd hverb (by simp)
  | quit => exact absurd hverb (by simp)

theorem handle_page {s : Session} {line : String} {m : Message}
    (h : Command.parse? line = some (.page m)) : s.handle line = some (s.dispatch m) := by
  unfold handle
  rw [h]

theorem handle_navigate {s : Session} {line l : String}
    (h : Command.parse? line = some (.navigate l)) :
    s.handle line = some (({ s with history := s.history.push l } : Session).navigate l) := by
  unfold handle
  rw [h]

/-- A line that leads to another location closes the page, and opens the next. -/
theorem handle_navigate_spec {s : Session} {line l : String} {r : Session × List Output}
    (parse : Command.parse? line = some (.navigate l)) (h : s.handle line = some r) :
    (∀ p, r.1.page = some p → Opened p) ∧ r.1.navigations = s.navigations + 1 ∧
      commands r.2 = s.closing := by
  rw [handle_navigate parse] at h
  obtain rfl := Option.some.inj h
  exact navigate_spec { s with history := s.history.push l } l

/-- Any other line leaves the session as it is, or ends it. -/
theorem handle_other {s : Session} {line : String} {r : Session × List Output}
    (page : ∀ m, Command.parse? line ≠ some (.page m))
    (navigate : ∀ l, Command.parse? line ≠ some (.navigate l)) (h : s.handle line = some r) :
    r.1 = s ∧ commands r.2 = [] := by
  unfold handle at h
  split at h
  · next m hparse => exact absurd hparse (page m)
  · next l hparse => exact absurd hparse (navigate l)
  · obtain rfl := Option.some.inj h
    exact ⟨rfl, rfl⟩
  · obtain rfl := Option.some.inj h
    exact ⟨rfl, rfl⟩
  · exact absurd h (by simp)
  · split at h
    · obtain rfl := Option.some.inj h
      exact ⟨rfl, rfl⟩
    · obtain rfl := Option.some.inj h
      exact ⟨rfl, rfl⟩

/-- A line gives the page a message, or leads to another location, or changes nothing. -/
theorem handle_cases {s : Session} {line : String} {r : Session × List Output}
    (h : s.handle line = some r) :
    (∃ m, Command.parse? line = some (.page m) ∧ r = s.dispatch m) ∨
      (∃ l, Command.parse? line = some (.navigate l) ∧
        r = ({ s with history := s.history.push l } : Session).navigate l) ∨
      ((∀ m, Command.parse? line ≠ some (.page m)) ∧
        (∀ l, Command.parse? line ≠ some (.navigate l)) ∧ r.1 = s ∧ commands r.2 = []) := by
  by_cases hpage : ∃ m, Command.parse? line = some (.page m)
  · obtain ⟨m, hparse⟩ := hpage
    rw [handle_page hparse] at h
    exact .inl ⟨m, hparse, (Option.some.inj h).symm⟩
  -- of the other commands one may lead to another location, and the rest change nothing
  by_cases hnavigate : ∃ l, Command.parse? line = some (.navigate l)
  · obtain ⟨l, hparse⟩ := hnavigate
    rw [handle_navigate hparse] at h
    exact .inr (.inl ⟨l, hparse, (Option.some.inj h).symm⟩)
  · have notPage : ∀ m, Command.parse? line ≠ some (.page m) := fun m hm => hpage ⟨m, hm⟩
    have notNavigate : ∀ l, Command.parse? line ≠ some (.navigate l) := fun l hl => hnavigate ⟨l, hl⟩
    exact .inr (.inr ⟨notPage, notNavigate, handle_other notPage notNavigate h⟩)

/-- Every line makes one of the moves. -/
theorem handle_move {s : Session} {line : String} {r : Session × List Output}
    (h : s.handle line = some r) : Move s r.1 (commands r.2) := by
  rcases handle_cases h with ⟨m, hparse, rfl⟩ | ⟨l, hparse, _⟩ | ⟨_, _, hsame, hquiet⟩
  · -- the page is never told by a line that it goes away
    refine dispatch_move s ?_
    rcases parse?_page hparse with ⟨e, rfl⟩ | rfl <;> simp
  · obtain ⟨hpage, hnavigations, hcommands⟩ := handle_navigate_spec hparse h
    rw [hcommands]
    exact .turned hpage hnavigations
  · rw [hsame, hquiet]
    exact .still rfl rfl

/-- The outcome of a result, as a page is told it. -/
def outcome (result : Engine.Result) : Search.Outcome := result.mapError Client.Failure.text

def message : Engine.Event → Message
  | .debounceElapsed g => .debounceElapsed g
  | .searchCompleted g result => .searchCompleted g (outcome result)

theorem message_ne_unmounted (e : Engine.Event) : message e ≠ .unmounted := by
  cases e <;> simp [message]

/-- An event reaches the page as its message, whatever is logged besides. -/
theorem receive_eq_dispatch (s : Session) (e : Engine.Event) :
    (s.receive e).1 = (s.dispatch (message e)).1 ∧
      texts (s.receive e).2 = texts (s.dispatch (message e)).2 ∧
      commands (s.receive e).2 = commands (s.dispatch (message e)).2 := by
  cases e with
  | debounceElapsed g => exact ⟨rfl, rfl, rfl⟩
  | searchCompleted g result => cases result <;> exact ⟨rfl, rfl, rfl⟩

/-- Every event makes one of the moves. -/
theorem receive_move (s : Session) (e : Engine.Event) :
    Move s (s.receive e).1 (commands (s.receive e).2) := by
  obtain ⟨hsession, _, hcommands⟩ := receive_eq_dispatch s e
  rw [hsession, hcommands]
  exact dispatch_move s (message_ne_unmounted e)

end Session

end IdeaBoard
