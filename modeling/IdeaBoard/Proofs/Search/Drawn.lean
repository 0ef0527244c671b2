import IdeaBoard.Screen
import IdeaBoard.Proofs.Search.Run

/-!
# IdeaBoard — when a list page is due to be drawn

A page is drawn again when it says so. It says so on every change that can be seen but one: when its own
timer runs out it asks the server, and goes on showing that it waits for the typing to settle.

* **`search_phase_iff`** — while something is under way, the lines of a page show what it waits for.
* **`Poised`** — the invariant of the pages that can be reached (`Reached`): they load while they wait,
  and a timer only runs for a list without a limit of its own.
* **`Step.drawn`** — a move makes the page due, or changes none of its lines, or it is the one above.
* **`unseen_iff`** — the changes that go unseen.
-/

namespace IdeaBoard.Screen

open IdeaBoard.Search (Phase View)

/-! ## What the lines tell -/

/-- The line of loading tells the phases apart. -/
theorem loadingLine_injective {a b : Phase} (h : loadingLine a = loadingLine b) : a = b := by
  cases a <;> cases b <;> first | rfl | exact absurd h (by decide)

/-- While something is under way, the lines tell what is waited for. -/
theorem search_phase_iff {v : View} (loading : v.loading = true) (a b : Phase) :
    search { v with phase := a } = search { v with phase := b } ↔ a = b := by
  constructor
  · intro h
    -- the lines in front of the one that tells are the same, and so are those behind it
    simp only [search, loading, if_true, List.append_assoc] at h
    have hrest := List.append_cancel_left h
    exact loadingLine_injective (List.cons.inj hrest).1
  · rintro rfl
    rfl

theorem search_ne_nil (v : View) : search v ≠ [] := by
  simp [search]

end IdeaBoard.Screen

namespace IdeaBoard.Search.State

open IdeaBoard.Screen (search search_phase_iff)

/-! ## The pages that can be reached -/

/-- The pages that messages and drawing lead to. -/
inductive Reached : State → Prop where
  | mounted (path queryString : String) (posts : List Post) (settings : Settings) :
    Reached (mount path queryString posts settings)
  | updated {s : State} (h : Reached s) (m : Message) : Reached (s.update m).1
  | drawn {s : State} (h : Reached s) : Reached s.consumeDirty.2

/-- The page loads while it waits, and waits for a timer only with no limit of its own. -/
structure Poised (s : State) : Prop where
  loading_iff : s.loading = true ↔ s.phase ≠ .idle
  limit_eq : s.phase = .debouncing → s.filter.limit = none

variable {s u : State} {m : Message} {fs : List Effect}

/-- Every move keeps the page poised. -/
theorem Poised.step (h : s.Poised) (move : Step s m u fs) : u.Poised := by
  cases move with
  | ignored => exact h
  | edited => exact ⟨by simp, fun _ => rfl⟩
  | grown => exact ⟨by simp, by simp⟩
  | asked mounted phase =>
    -- the page loaded while it waited for the timer
    have hloading : s.loading = true := h.loading_iff.mpr (by simp [phase])
    exact ⟨by simp [beginRequest, hloading], by simp⟩
  | settled _ _ outcome => cases outcome <;> exact ⟨by simp [settle, commit, fail], by simp⟩
  | closed => exact ⟨by simp, by simp⟩

/-- Every page that can be reached is poised. -/
theorem Reached.poised (h : s.Reached) : s.Poised := by
  induction h with
  | mounted path queryString posts settings =>
    have hphase : (mount path queryString posts settings).phase = .idle := rfl
    exact ⟨by simp [mount], fun h => absurd (hphase.symm.trans h) (by decide)⟩
  | updated _ m ih => exact ih.step (update_step _ m)
  | drawn _ ih => exact ⟨ih.loading_iff, ih.limit_eq⟩

/-! ## What goes unseen -/

def OwnTimer (s : State) (m : Message) : Prop :=
  s.phase = .debouncing ∧ m = .debounceElapsed s.generation

/-- **A move makes the page due to be drawn, or it changes nothing, or it is the end of the page's own
timer, which changes what is waited for and nothing else.** -/
theorem Step.drawn (move : Step s m u fs) (stays : m ≠ .unmounted) :
    (u.dirty = true ∧ ¬s.OwnTimer m) ∨ (u = s ∧ (s.unmounted = true ∨ ¬s.OwnTimer m)) ∨
      (s.OwnTimer m ∧ u = { s with phase := .awaitingResponse }) := by
  cases move with
  | ignored h =>
    refine .inr (.inl ⟨rfl, h.imp_right ?_⟩)
    rintro hreason ⟨phase, rfl⟩
    exact hreason ⟨rfl, phase⟩
  | edited => exact .inl ⟨rfl, fun own => absurd own.2 (by simp)⟩
  | grown => exact .inl ⟨rfl, fun own => absurd own.2 (by simp)⟩
  | asked _ phase => exact .inr (.inr ⟨⟨phase, rfl⟩, rfl⟩)
  | settled _ _ outcome =>
    cases outcome <;> exact .inl ⟨rfl, fun own => absurd own.2 (by simp)⟩
  | closed => exact absurd rfl stays

/-- The lines before and after the end of the page's own timer. -/
theorem search_ownTimer (poised : s.Poised) (phase : s.phase = .debouncing) :
    search ({ s with phase := .awaitingResponse } : State).view ≠ search s.view := by
  have hloading : s.view.loading = true := poised.loading_iff.mpr (by simp [phase])
  have hview : s.view = { s.view with phase := .debouncing } := by
    rw [← phase]
    rfl
  have hdiffer := search_phase_iff hloading .awaitingResponse .debouncing
  rw [hview]
  exact fun h => absurd (hdiffer.mp h) (by decide)

/-- **The lines of a page change without its being due to be drawn just when its own timer runs out.** -/
theorem unseen_iff (reached : s.Reached) (mounted : s.unmounted = false) (stays : m ≠ .unmounted) :
    (search (s.update m).1.view ≠ search s.view ∧ (s.update m).1.dirty = false) ↔
      s.OwnTimer m ∧ s.dirty = false := by
  -- due to be drawn, the same page, or the one change that is not drawn
  rcases (update_step s m).drawn stays with ⟨hdirty, hnot⟩ | ⟨hsame, hnot⟩ | ⟨hown, hu⟩
  · simp [hdirty, hnot]
  · have hother : ¬s.OwnTimer m := hnot.resolve_left (by simp [mounted])
    simp [hsame, hother]
  · have hlines := search_ownTimer reached.poised hown.1
    rw [hu]
    exact ⟨fun h => ⟨hown, h.2⟩, fun h => ⟨hlines, h.2⟩⟩

/-! ## What is on the screen -/

/-- What a page that has been drawn shows that it waits for: a list without a limit of its own was asked
for when a timer ran out, and that was not drawn. -/
def shownPhase (s : State) : Phase :=
  if s.phase = .awaitingResponse ∧ s.filter.limit = none then .debouncing else s.phase

/-- The lines are those on the screen of a page that has been drawn. -/
structure Shown (lines : List String) (s : State) : Prop where
  poised : s.Poised
  clean : s.dirty = false
  lines_eq : lines = search { s.view with phase := s.shownPhase }

/-- A page that is mounted is drawn as it is. -/
theorem shown_mount (path queryString : String) (posts : List Post) (settings : Settings) :
    Shown (search (mount path queryString posts settings).view)
      (mount path queryString posts settings) where
  poised := (Reached.mounted path queryString posts settings).poised
  clean := rfl
  lines_eq := rfl

/-- A page that is due shows what it waits for. -/
theorem shownPhase_of_dirty (clean : s.dirty = false) (move : Step s m u fs)
    (dirty : u.dirty = true) : u.shownPhase = u.phase := by
  -- the two moves that draw nothing leave a clean page clean
  cases move with
  | ignored => exact absurd (dirty.symm.trans clean) (by decide)
  | edited => rfl
  | grown => simp [shownPhase]
  | asked => exact absurd (dirty.symm.trans clean) (by decide)
  | settled _ _ outcome => cases outcome <;> rfl
  | closed => rfl

/-- **A message leaves on the screen what is drawn for it, if anything is, and else what was there.** -/
theorem Shown.step {lines : List String} (h : Shown lines s) (stays : m ≠ .unmounted)
    (move : Step s m u fs) :
    Shown (if u.dirty then search u.view else lines) u.consumeDirty.2 := by
  have hpoised := h.poised.step move
  refine ⟨⟨hpoised.loading_iff, hpoised.limit_eq⟩, rfl, ?_⟩
  cases hdirty : u.dirty with
  | true =>
    have hphase := shownPhase_of_dirty h.clean move hdirty
    show search u.view = search { u.view with phase := u.shownPhase }
    rw [hphase]
    rfl
  | false =>
    show lines = search { u.view with phase := u.shownPhase }
    rcases move.drawn stays with ⟨hdue, _⟩ | ⟨rfl, _⟩ | ⟨hown, rfl⟩
    · exact absurd (hdue.symm.trans hdirty) (by decide)
    · exact h.lines_eq
    · -- the timer was started by an edit, which took the limit away
      have hlimit := h.poised.limit_eq hown.1
      have hbefore : s.shownPhase = .debouncing := by simp [shownPhase, hown.1]
      have hafter : ({ s with phase := .awaitingResponse } : State).shownPhase = .debouncing := by
        simp [shownPhase, hlimit]
      rw [h.lines_eq, hbefore, hafter]
      rfl

/-- **The screen shows the page as it is just where the page does not wait for an answer that its timer
asked for.** -/
theorem Shown.current_iff {lines : List String} (h : Shown lines s) :
    lines = search s.view ↔ ¬(s.phase = .awaitingResponse ∧ s.filter.limit = none) := by
  rw [h.lines_eq]
  constructor
  · rintro hsame ⟨phase, limit⟩
    have hloading : s.view.loading = true := h.poised.loading_iff.mpr (by simp [phase])
    -- the lines tell the phase, so that is shown as it is
    have hphase : s.shownPhase = s.phase := (search_phase_iff hloading _ _).mp hsame
    rw [shownPhase, if_pos ⟨phase, limit⟩, phase] at hphase
    exact absurd hphase (by decide)
  · intro hnot
    rw [shownPhase, if_neg hnot]
    rfl

end IdeaBoard.Search.State
