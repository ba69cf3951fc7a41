import DesignTables.Pool.Basic

/-!
How a phase is worked off, step by step.

A feeder puts the tasks in order into a queue that has room for as many of them as there are
workers. A worker takes the first task of the queue, does it and sends what came of it, and it goes
when the queue is empty and nothing more is fed. The coordinator receives in the order of sending.
Which of the possible steps comes next is left open, so the reachable states cover every order in
which workers may run.
-/
namespace DesignTables.Pool

/-- What a worker is at. -/
inductive Worker where
  | waiting
  | busy (task : Nat)
  | gone
deriving DecidableEq, Repr

/-- The task that a worker holds. -/
def Worker.task? : Worker → Option Nat
  | busy task => some task
  | waiting | gone => none

/-- A task that was done, with its result unless it failed. -/
structure Finished (β : Type) where
  task : Nat
  result : Option β
deriving DecidableEq, Repr

/-- How far a phase is. -/
structure State (β : Type) where
  /-- The tasks that are still to be fed. -/
  unfed : List Nat
  queue : List Nat
  workers : List Worker
  /-- What was sent and is not received yet. -/
  sent : List (Finished β)
  received : List (Finished β)
deriving DecidableEq, Repr

namespace State

variable {β : Type}

/-- Before the first step of a phase with some tasks, for a wanted number of workers. -/
def start (workers tasks : Nat) : State β :=
  ⟨List.range tasks, [], List.replicate (startedWorkers workers tasks) .waiting, [], []⟩

/-- The tasks that workers hold. -/
def held (state : State β) : List Nat := state.workers.filterMap Worker.task?

/-- Whether the coordinator has nothing more to wait for. -/
def isOver (state : State β) : Bool := state.workers.all (· == .gone) && state.sent.isEmpty

/-- What was received for a task. -/
def resultOf? (state : State β) (task : Nat) : Option β :=
  (state.received.find? (·.task == task)).bind (·.result)

/-- What a phase with some tasks comes to: the results in the order of the tasks, or the failed task
that was received first. -/
def outcome (state : State β) (phase : Phase) (tasks : Nat) : Except WorkerFailure (List β) :=
  match state.received.find? (·.result.isNone) with
  | some failed => .error ⟨phase, failed.task⟩
  | none =>
    match collect ((List.range tasks).map state.resultOf?) with
    | .ok results => .ok results
    | .error task => .error ⟨phase, task⟩

end State

/-- One step of a phase in which `work` does the task at a position. -/
inductive Step {β : Type} (work : Nat → Option β) : State β → State β → Prop where
  /-- The feeder puts the next task into the queue if there is room. -/
  | feed {state : State β} {task : Nat} {rest : List Nat}
      (next : state.unfed = task :: rest)
      (room : state.queue.length < state.workers.length) :
      Step work state { state with unfed := rest, queue := state.queue ++ [task] }
  /-- A waiting worker takes the first task of the queue. -/
  | take {state : State β} {worker task : Nat} {rest : List Nat}
      (waiting : state.workers[worker]? = some .waiting)
      (next : state.queue = task :: rest) :
      Step work state
        { state with queue := rest, workers := state.workers.set worker (.busy task) }
  /-- A worker has done its task and sends what came of it. -/
  | finish {state : State β} {worker task : Nat}
      (busy : state.workers[worker]? = some (.busy task)) :
      Step work state
        { state with
          workers := state.workers.set worker .waiting
          sent := state.sent ++ [⟨task, work task⟩] }
  /-- A waiting worker goes when no task is left to take. -/
  | leave {state : State β} {worker : Nat}
      (waiting : state.workers[worker]? = some .waiting)
      (fed : state.unfed = []) (drained : state.queue = []) :
      Step work state { state with workers := state.workers.set worker .gone }
  /-- The coordinator receives what was sent first. -/
  | receive {state : State β} {finished : Finished β} {rest : List (Finished β)}
      (next : state.sent = finished :: rest) :
      Step work state { state with sent := rest, received := state.received ++ [finished] }

/-- The states that a phase can get into. -/
inductive Reachable {β : Type} (work : Nat → Option β) (workers tasks : Nat) : State β → Prop where
  | start : Reachable work workers tasks (State.start workers tasks)
  | step {state next : State β} (before : Reachable work workers tasks state)
      (step : Step work state next) : Reachable work workers tasks next

end DesignTables.Pool
