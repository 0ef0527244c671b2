import IdeaBoard.Proofs.Rounds
import IdeaBoard.Proofs.Search.Drawn

/-!
# IdeaBoard — the screen follows the page

A session prints the lines of its list page as it opens it, and again after every message for which the
page is due to be drawn. What was printed last stands on the screen.

* **`screen`** — the lines of a list page that were printed last, over some rounds.
* **`shown_play`** — they are what the page has shown of itself (`Shown`), after every play.
* **`screen_lags_iff`** — they are the lines of the page as it is, but while the page waits for an answer
  that its timer asked for.
-/

namespace IdeaBoard.Session

open Search (State Message)
open Search.State (Reached Shown)

/-! ## What was printed last -/

/-- The lines that a round prints for a list page: on a visit those behind the frame, on a message all
that it prints. -/
def Round.drawing (r : Round) : List String :=
  match r.input.visit? with
  | some l => (texts r.out).drop (frame r.before.bootstrap l).length
  | none => if r.input.message?.isSome then texts r.out else []

/-- The lines of a list page that were printed last, where `first` were printed before the rounds. -/
def screen (first : List String) (rounds : List Round) : List String :=
  rounds.foldl (fun lines r => if r.drawing.isEmpty then lines else r.drawing) first

@[simp] theorem screen_nil (first : List String) : screen first [] = first := rfl

/-- A round that prints no lines of a page leaves the screen as it was. -/
theorem screen_concat (first : List String) (rounds : List Round) (r : Round) :
    screen first (rounds ++ [r]) =
      if r.drawing.isEmpty then screen first rounds else r.drawing := by
  rw [screen, List.foldl_append]
  rfl

theorem drawing_message {r : Round} {m : Message} (message : r.input.message? = some m)
    (visit : r.input.visit? = none) : r.drawing = texts r.out := by
  simp [Round.drawing, message, visit]

theorem drawing_other {r : Round} (message : r.input.message? = none)
    (visit : r.input.visit? = none) : r.drawing = [] := by
  simp [Round.drawing, message, visit]

theorem drawing_visit {r : Round} {l : String} {lines : List String}
    (visit : r.input.visit? = some l)
    (printed : texts r.out = frame r.before.bootstrap l ++ lines) : r.drawing = lines := by
  simp [Round.drawing, visit, printed]

/-! ## After every round -/

/-- A page that a location opens, with its lines. -/
theorem shown_opened {bootstrap : Bootstrap} {settings : Search.Settings} {location : String}
    {p : State} (opened : listPage? bootstrap settings location = some p) :
    Shown (Screen.search p.view) p := by
  obtain ⟨_, rfl⟩ := listPage?_eq_some_iff.mp opened
  exact Search.State.shown_mount _ _ _ _

/-- **Every round leaves the lines of the page on the screen, as far as it has shown itself.** -/
theorem shown_hears {first : List String} {rounds : List Round} {s t : Session} {x : Input}
    {out : List Output} (h : ∀ p, s.page = some p → Shown (screen first rounds) p)
    (hears : Hears s x t out) :
    ∀ p, t.page = some p → Shown (screen first (rounds ++ [⟨s, x, t, out⟩])) p := by
  intro q hq
  rw [screen_concat]
  -- a message of the open page, one that finds no page, a visit, or a line that does neither
  cases hears with
  | @taken p m _ shown message visit stays lines =>
    obtain rfl := Option.some.inj hq
    have hstep := (h p shown).step stays (Search.State.update_step p m)
    rw [drawing_message message visit, lines]
    -- what is drawn is never empty, so that a drawing takes the place of the one before
    cases hdirty : (p.update m).1.dirty with
    | true =>
      rw [hdirty, if_pos rfl] at hstep
      simpa [Screen.search_ne_nil] using hstep
    | false =>
      rw [hdirty, if_neg Bool.false_ne_true] at hstep
      exact hstep
  | dropped closed message visit lines => exact absurd (closed.symm.trans hq) (by simp)
  | @visited l _ message visit lines =>
    -- a new page is drawn at once, in place of the one before
    have hopened : listPage? s.bootstrap s.settings l = some q := hq
    rw [drawing_visit visit lines, hopened]
    simpa [pageLines, Screen.search_ne_nil] using shown_opened hopened
  | answered message visit =>
    rw [drawing_other message visit]
    exact h q hq

/-- After every play the screen has the lines that the open page has shown of itself. -/
theorem shown_play (bootstrap : Bootstrap) (settings : Search.Settings) (location : String)
    (inputs : List Input) :
    let opening := (start bootstrap settings location).navigate location
    let first := (texts opening.2).drop (frame bootstrap location).length
    ∀ p, (opening.1.play inputs).1.page = some p →
      Shown (screen first (opening.1.play inputs).2) p := by
  intro opening first
  obtain ⟨hsession, hlines, _⟩ := navigate_eq (start bootstrap settings location) location
  -- over the rounds of the play: what is on the screen is shown by the page that is open
  refine play_induction
    (P := fun rounds s => ∀ p, s.page = some p → Shown (screen first rounds) p) ?_ ?_
  · intro p hp
    rw [hsession] at hp
    have hopened : listPage? bootstrap settings location = some p := hp
    have hprinted : texts opening.2 = frame bootstrap location ++
        pageLines (listPage? bootstrap settings location) := hlines
    have hfirst : first = Screen.search p.view := by
      simp only [first, hprinted, List.drop_left, hopened]
      rfl
    rw [screen_nil, hfirst]
    exact shown_opened hopened
  · intro rounds t u x out _ h hears
    exact shown_hears h hears

/-- **The lines of a page change without its being due to be drawn just when its own timer runs out. So
in every session the lines printed last are those of the page, but that it is shown to wait for the
typing to settle while it waits for an answer that its timer asked for; they are the lines of the page as
it is just where it does not.** -/
theorem screen_lags_iff (bootstrap : Bootstrap) (settings : Search.Settings) (location : String)
    (inputs : List Input) :
    let opening := (start bootstrap settings location).navigate location
    let first := (texts opening.2).drop (frame bootstrap location).length
    let lines := screen first (opening.1.play inputs).2
    (∀ {s : State} {m : Message}, Reached s → s.unmounted = false → m ≠ .unmounted →
      ((Screen.search (s.update m).1.view ≠ Screen.search s.view ∧ (s.update m).1.dirty = false) ↔
        (s.phase = .debouncing ∧ m = .debounceElapsed s.generation) ∧ s.dirty = false)) ∧
    ∀ p, (opening.1.play inputs).1.page = some p →
      lines = Screen.search { p.view with phase := p.shownPhase } ∧
        (lines = Screen.search p.view ↔
          ¬(p.phase = .awaitingResponse ∧ p.filter.limit = none)) := by
  intro opening first lines
  refine ⟨fun reached mounted stays => Search.State.unseen_iff reached mounted stays, ?_⟩
  intro p hp
  have hshown : Shown lines p := shown_play bootstrap settings location inputs p hp
  exact ⟨hshown.lines_eq, hshown.current_iff⟩

/-- A list that grows is drawn at once, and an answer to a timer is drawn when it arrives. -/
theorem screen_lags_answered :
    let inputs : List Input := [.line "view recent", .event (.debounceElapsed 1),
      .event (.searchCompleted 1 (.ok [])), .line "more"]
    let opening := (start {} {} "/").navigate "/"
    let first := (texts opening.2).drop (frame {} "/").length
    let s := (opening.1.play inputs).1
    screen first (opening.1.play inputs).2 =
        ["view: recent | tags: any | showing 0", "... loading (waiting for server)"] ∧
      ∃ p, s.page = some p ∧ screen first (opening.1.play inputs).2 = Screen.search p.view := by
  intro inputs opening first s
  have hlines : screen first (opening.1.play inputs).2 =
      ["view: recent | tags: any | showing 0", "... loading (waiting for server)"] := by
    decide +kernel
  have hpage : s.page.map (fun p => p.filter.limit.isSome) = some true := by decide +kernel
  obtain ⟨p, hp, hlimit⟩ := Option.map_eq_some_iff.mp hpage
  obtain ⟨_, hcurrent⟩ := (screen_lags_iff {} {} "/" inputs).2 p hp
  refine ⟨hlines, p, hp, hcurrent.mpr ?_⟩
  rintro ⟨_, hnone⟩
  rw [hnone] at hlimit
  exact absurd hlimit (by decide)

/-- **A page whose timer has run out waits for the server, is not due to be drawn, and goes on being shown
to wait for the typing to settle.** -/
theorem screen_lags_timer :
    let s := ((Search.State.mount "/" "" [] {}).update (.edit (.setView "x"))).1.consumeDirty.2
    let m : Message := .debounceElapsed 1
    let opening := (start {} {} "/").navigate "/"
    let first := (texts opening.2).drop (frame {} "/").length
    let inputs : List Input := [.line "view x", .event (.debounceElapsed 1)]
    (Reached s ∧ s.unmounted = false ∧ m ≠ .unmounted ∧
      Screen.search (s.update m).1.view ≠ Screen.search s.view ∧ (s.update m).1.dirty = false) ∧
    screen first (opening.1.play inputs).2 =
        ["view: x | tags: any | showing 0", "... loading (waiting for typing to settle)"] ∧
      (opening.1.play inputs).1.page.map (fun p => Screen.search p.view) =
        some ["view: x | tags: any | showing 0", "... loading (waiting for server)"] := by
  intro s m opening first inputs
  have reached : Reached s := .drawn (.updated (.mounted "/" "" [] {}) _)
  refine ⟨⟨reached, by decide +kernel, by simp [m], by decide +kernel, by decide +kernel⟩, ?_, ?_⟩
  · decide +kernel
  · decide +kernel

end IdeaBoard.Session
