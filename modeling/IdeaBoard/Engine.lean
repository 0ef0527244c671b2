import IdeaBoard.Client.Failure
import IdeaBoard.Search.State

/-!
# IdeaBoard — the engine

The engine runs timers and requests beside the page. Commands wait in a queue; each is obeyed by
starting a task or by stopping all tasks that are still under way; a task that comes to its end
leaves one event, which waits until it is taken. Before each command the handles of ended tasks
are forgotten.
-/

namespace IdeaBoard

namespace Engine

open Search (Generation)

abbrev Result := Except Client.Failure (List Post)

/-- What a task does: it waits, or asks the server. -/
inductive Job where
  | timer (generation : Generation) (delayMs : UInt64)
  | request (generation : Generation) (request : Search.Request)
deriving DecidableEq

inductive Command where
  | start (job : Job)
  /-- Stop all tasks that are still under way. -/
  | cancelPending
deriving DecidableEq

/-- What a task leaves at its end. -/
inductive Event where
  | debounceElapsed (generation : Generation)
  | searchCompleted (generation : Generation) (result : Result)

/-- A task: its number in the order of starting, and what it does. -/
structure Task where
  id : Nat
  job : Job
deriving DecidableEq

def Job.isTimer : Job → Bool
  | .timer _ _ => true
  | .request _ _ => false

/-- The event at the end of a job, for a server that answers requests like this. -/
def Job.event (answer : Search.Request → Result) : Job → Event
  | .timer g _ => .debounceElapsed g
  | .request g r => .searchCompleted g (answer r)

end Engine

structure Engine where
  /-- The commands that wait, oldest first. -/
  commands : List Engine.Command := []
  /-- The numbers of the tasks that the next cancelling stops. -/
  handles : List Nat := []
  /-- The tasks under way, oldest first. -/
  running : List Engine.Task := []
  /-- The events that wait, oldest first. -/
  events : List Engine.Event := []
  /-- How many tasks have been started. -/
  started : Nat := 0

namespace Engine

def send (e : Engine) (c : Command) : Engine := { e with commands := e.commands ++ [c] }

/-- Forgets the handles of ended tasks. -/
def prune (e : Engine) : Engine :=
  { e with handles := e.handles.filter fun id => e.running.any fun t => t.id = id }

/-- Starts a task, or stops all tasks with a handle. -/
def obey (e : Engine) : Command → Engine
  | .start job =>
    { e with
      handles := e.handles ++ [e.started]
      running := e.running ++ [⟨e.started, job⟩]
      started := e.started + 1 }
  -- what has no handle is not reached
  | .cancelPending =>
    { e with handles := [], running := e.running.filter fun t => t.id ∉ e.handles }

/-- Obeys the oldest command that waits. -/
def process (e : Engine) : Engine :=
  match e.commands with
  | [] => e
  -- the handles are pruned whatever the command is
  | c :: cs => ({ e with commands := cs }.prune).obey c

def processAll (e : Engine) : Engine := e.commands.foldl (fun e _ => e.process) e

/-- A task comes to its end; nothing happens if it is no longer under way. -/
def complete (e : Engine) (id : Nat) (answer : Search.Request → Result) : Engine :=
  match e.running.find? fun t => t.id = id with
  | none => e
  | some t =>
    { e with
      running := e.running.filter fun t => t.id ≠ id
      events := e.events ++ [t.job.event answer] }

def take (e : Engine) : Option Event × Engine :=
  match e.events with
  | [] => (none, e)
  | event :: events => (some event, { e with events := events })

/-- The oldest task under way whose job is one of these. -/
def oldest? (e : Engine) (p : Job → Bool) : Option Task := e.running.find? fun t => p t.job

end Engine

end IdeaBoard
