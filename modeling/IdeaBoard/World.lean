import IdeaBoard.Session

/-!
# IdeaBoard — a session and its engine

The session hands its commands to the engine, which works beside it: lines of input, commands
obeyed, tasks that end and events taken up can follow each other in any order. The world moves by
such small steps only.
-/

namespace IdeaBoard

structure World where
  session : Session
  engine : Engine := {}

namespace World

/-- A small step. -/
inductive Action where
  /-- A line of input is handled. -/
  | line (text : String)
  /-- The engine obeys the oldest command that waits. -/
  | process
  /-- A task comes to its end; a request is answered like this. -/
  | complete (task : Nat) (answer : Search.Request → Engine.Result)
  /-- The session takes up the oldest event that waits. -/
  | poll

def told (e : Engine) : List Output → Engine
  | [] => e
  | .engine c :: out => told (e.send c) out
  | _ :: out => told e out

def after (w : World) (r : Session × List Output) : World × List Output :=
  (⟨r.1, told w.engine r.2⟩, r.2)

def leave (w : World) : World × List Output := w.after w.session.unmount

/-- The world after a small step, and the outputs of the session during it. -/
def step (w : World) : Action → World × List Output
  | .line text =>
    match w.session.handle text with
    | some r => w.after r
    | none => w.leave
  | .process => ({ w with engine := w.engine.process }, [])
  | .complete task answer => ({ w with engine := w.engine.complete task answer }, [])
  | .poll =>
    match w.engine.take with
    | (none, _) => (w, [])
    | (some event, engine) => { w with engine := engine }.after (w.session.receive event)

/-- The world before the first line: the first page is open. -/
def start (bootstrap : Bootstrap) (settings : Search.Settings) (location : String) :
    World × List Output :=
  after ⟨.start bootstrap settings location, {}⟩
    ((Session.start bootstrap settings location).navigate location)

/-! ### Waiting -/

/-- Waits for what the page waits for, its timer or its answer, and takes it up. -/
def await (w : World) (answer : Search.Request → Engine.Result) : World × List Output :=
  let engine := w.engine.processAll
  let task := match w.session.phase with
    | .idle => none
    | .debouncing => engine.oldest? Engine.Job.isTimer
    | .awaitingResponse => engine.oldest? fun job => !job.isTimer
  match task with
  | none => (w, [])
  | some t => step { w with engine := engine.complete t.id answer } .poll

/-- Waits until nothing is awaited any more: at most a timer and then an answer. -/
def settle (w : World) (answer : Search.Request → Engine.Result) : World × List Output :=
  let (w, timer) := w.await answer
  let (w, reply) := w.await answer
  (w, timer ++ reply)

end World

end IdeaBoard
