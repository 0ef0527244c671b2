import IdeaBoard.Proofs.Session

/-!
# IdeaBoard — sessions, round by round

A session takes lines of input and events of the engine, in any order. In every round a message reaches
the page, or finds none; or the reader goes to another location; or nothing happens to the session at
all.

* **`Hears`** — these four, each with what it makes of the session as a whole and the lines that are
  printed. `hear_cases`: every round is one of them.
* **`play`** / **`play_induction`** — a session over many rounds; a statement about the rounds so far
  and the session they lead to holds after every play if it holds at the start and every round keeps
  it.
-/

namespace IdeaBoard

open Search (State Message)

namespace Session

/-! ## One round -/

/-- What a session takes up in a round: a line of input, or an event of the engine. -/
inductive Input where
  | line (text : String)
  | event (e : Engine.Event)

def Input.message? : Input → Option Message
  | .line text =>
    match Command.parse? text with
    | some (.page m) => some m
    | _ => none
  | .event e => some (message e)

def Input.visit? : Input → Option String
  | .line text =>
    match Command.parse? text with
    | some (.navigate l) => some l
    | _ => none
  | .event _ => none

def Input.leaves : Input → Bool
  | .line text =>
    match Command.parse? text with
    | some .quit => true
    | _ => false
  | .event _ => false

/-- Takes up an input; none where it asks to leave. -/
def hear (s : Session) : Input → Option (Session × List Output)
  | .line text => s.handle text
  | .event e => some (s.receive e)

/-- What a session makes of an input, with what it puts out. -/
inductive Hears (s : Session) (x : Input) : Session → List Output → Prop where
  /-- The page takes a message, and is drawn if it is due for it. -/
  | taken {p : State} {m : Message} {out : List Output} (shown : s.page = some p)
      (message : x.message? = some m) (visit : x.visit? = none) (stays : m ≠ .unmounted)
      (lines : texts out = if (p.update m).1.dirty then Screen.search (p.update m).1.view else []) :
      Hears s x
        { s with
          page := some (p.update m).1.consumeDirty.2
          history := (Search.locations (p.update m).2).foldl History.replace s.history } out
  /-- There is no page to take the message. -/
  | dropped {m : Message} {out : List Output} (closed : s.page = none)
      (message : x.message? = some m) (visit : x.visit? = none) (lines : texts out = []) :
      Hears s x s out
  /-- The reader goes to another location. -/
  | visited {l : String} {out : List Output} (message : x.message? = none)
      (visit : x.visit? = some l)
      (lines : texts out =
        frame s.bootstrap l ++ pageLines (listPage? s.bootstrap s.settings l)) :
      Hears s x
        { s with
          history := s.history.push l
          page := listPage? s.bootstrap s.settings l
          navigations := s.navigations + 1 } out
  /-- The input is answered at most, and changes nothing. -/
  | answered {out : List Output} (message : x.message? = none) (visit : x.visit? = none) :
      Hears s x s out

/-- No input tells the page that it goes away. -/
theorem message?_ne_unmounted {x : Input} {m : Message} (h : x.message? = some m) :
    m ≠ .unmounted := by
  cases x with
  | line text =>
    unfold Input.message? at h
    simp only at h
    split at h
    · next n hparse =>
      obtain rfl := Option.some.inj h
      rcases parse?_page hparse with ⟨e, rfl⟩ | rfl <;> simp
    · exact absurd h (by simp)
  | event e =>
    obtain rfl := Option.some.inj h
    exact message_ne_unmounted e

/-- A message that is dispatched, with the lines of the round those of the dispatch. -/
theorem hears_dispatch {s : Session} {x : Input} {m : Message} {out : List Output}
    (message : x.message? = some m) (visit : x.visit? = none)
    (lines : texts out = texts (s.dispatch m).2) : Hears s x (s.dispatch m).1 out := by
  -- whether a page is open decides if the message is taken or dropped
  cases hpage : s.page with
  | none =>
    obtain ⟨hsame, hquiet, _⟩ := dispatch_closed hpage m
    rw [hsame]
    exact .dropped hpage message visit (lines.trans hquiet)
  | some p =>
    obtain ⟨hsession, hlines, _⟩ := dispatch_eq hpage m
    rw [hsession]
    exact .taken hpage message visit (message?_ne_unmounted message) (lines.trans hlines)

/-- **Every round is one of these.** -/
theorem hear_cases {s t : Session} {x : Input} {out : List Output} (h : s.hear x = some (t, out)) :
    Hears s x t out := by
  cases x with
  | event e =>
    -- an event is dispatched as its message, whatever is logged
    have hreceive : s.receive e = (t, out) := Option.some.inj h
    obtain ⟨hsession, hlines, _⟩ := receive_eq_dispatch s e
    have hears := hears_dispatch (x := .event e) rfl rfl hlines
    rwa [← hsession, hreceive] at hears
  | line text =>
    have hhandle : s.handle text = some (t, out) := h
    -- a message for the page, another location, or neither
    rcases handle_cases hhandle with ⟨m, hparse, hr⟩ | ⟨l, hparse, hr⟩ | ⟨hpage, hnavigate, hsame, _⟩
    · have hears := hears_dispatch (s := s) (x := .line text) (m := m)
        (by simp [Input.message?, hparse]) (by simp [Input.visit?, hparse]) rfl
      rwa [← hr] at hears
    · obtain ⟨hsession, hlines, _⟩ := navigate_eq { s with history := s.history.push l } l
      rw [← hr] at hsession hlines
      rw [show t = _ from hsession]
      exact .visited (by simp [Input.message?, hparse]) (by simp [Input.visit?, hparse]) hlines
    · obtain rfl : t = s := hsame
      -- by `hpage` and `hnavigate` only the last case of either is left
      exact .answered (by simp only [Input.message?]) (by simp only [Input.visit?])

/-- Only an input that asks to leave is not taken up. -/
theorem hear_eq_none_iff (s : Session) (x : Input) : s.hear x = none ↔ x.leaves = true := by
  cases x with
  | event e => simp [hear, Input.leaves]
  | line text =>
    simp only [hear, Input.leaves, handle]
    cases hparse : Command.parse? text with
    | none =>
      simp only
      split <;> simp
    | some c => cases c <;> simp

/-! ## Many rounds -/

structure Round where
  before : Session
  input : Input
  after : Session
  out : List Output

/-- The session after some inputs, and the rounds that led to it. An input that asks to leave ends the
session, whatever follows. -/
def play (s : Session) : List Input → Session × List Round
  | [] => (s, [])
  | x :: xs =>
    match s.hear x with
    | none => (s, [])
    | some (t, out) => ((t.play xs).1, ⟨s, x, t, out⟩ :: (t.play xs).2)

/-- A session takes up its inputs one by one, none left out, up to the first that asks to leave. -/
theorem map_input_play (s : Session) (xs : List Input) :
    (s.play xs).2.map Round.input = xs.takeWhile fun x => !x.leaves := by
  induction xs generalizing s with
  | nil => rfl
  | cons x xs ih =>
    have hleaves := s.hear_eq_none_iff x
    rw [play]
    -- the session ends here, and nothing behind is taken up
    cases hhear : s.hear x with
    | none =>
      rw [List.takeWhile_cons_of_neg (by simp [hleaves.mp hhear])]
      rfl
    | some r =>
      have hstays : ¬x.leaves = true := fun h => absurd (hleaves.mpr h) (by simp [hhear])
      rw [List.takeWhile_cons_of_pos (by simpa using hstays)]
      exact congrArg (x :: ·) (ih r.1)

/-- **A statement that holds at the start, and that every round keeps, holds after every play.** `P` may
look at the rounds so far and the session they lead to. -/
theorem play_induction {P : List Round → Session → Prop} {s : Session} (start : P [] s)
    {xs : List Input}
    (step : ∀ (rounds : List Round) (t u : Session) (x : Input) (out : List Output),
      x ∈ xs → P rounds t → Hears t x u out → P (rounds ++ [⟨t, x, u, out⟩]) u) :
    P (s.play xs).2 (s.play xs).1 := by
  -- the rounds that led to `s` stand in front, so that they can grow
  suffices h : ∀ (ys : List Input) (rounds : List Round) (t : Session), (∀ y ∈ ys, y ∈ xs) →
      P rounds t → P (rounds ++ (t.play ys).2) (t.play ys).1 from
    h xs [] s (fun y hy => hy) start
  intro ys
  induction ys with
  | nil =>
    intro rounds t _ hP
    rw [play, List.append_nil]
    exact hP
  | cons y ys ih =>
    intro rounds t hin hP
    rw [play]
    cases hhear : t.hear y with
    | none =>
      rw [List.append_nil]
      exact hP
    | some r =>
      obtain ⟨u, out⟩ := r
      have hnext := step rounds t u y out (hin y List.mem_cons_self) hP (hear_cases hhear)
      have hrest := ih _ u (fun z hz => hin z (List.mem_cons_of_mem _ hz)) hnext
      rwa [List.append_assoc] at hrest

end Session

end IdeaBoard
