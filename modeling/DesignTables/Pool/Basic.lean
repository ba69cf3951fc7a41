import DesignTables.Number.Integer

/-!
A phase of work spread over a pool of workers.

Workers finish in any order, and results are given back in the order of the tasks, so what comes
out does not depend on the number of workers. A task that fails fails the whole phase, after the
others have ended.
-/
namespace DesignTables

/-- The phases whose work is spread over workers. -/
inductive Phase where
  | ingest | references | validate
deriving DecidableEq, Repr

/-- The name of a phase. -/
def Phase.name : Phase → String
  | ingest => "ingest"
  | references => "references"
  | validate => "validate"

/-- A task of a phase that failed. -/
structure WorkerFailure where
  phase : Phase
  /-- The position of the task. -/
  task : Nat
deriving DecidableEq, Repr

/-- The wording of a failure. -/
def WorkerFailure.message (failure : WorkerFailure) : String :=
  failure.phase.name ++ " worker panicked on task " ++ writeNat failure.task

namespace Pool

/-- The number of workers that are started for some tasks: no more than there are tasks, and at
least one when there is any. -/
def startedWorkers (workers tasks : Nat) : Nat := min (max workers 1) tasks

/-- The results of all tasks in order, or the first task that failed. -/
def collect {β : Type} : List (Option β) → Except Nat (List β)
  | [] => .ok []
  | none :: _ => .error 0
  | some result :: rest =>
    match collect rest with
    | .ok results => .ok (result :: results)
    | .error task => .error (task + 1)

/-- Does the work of every task of a phase. -/
def run {α β : Type} (phase : Phase) (tasks : List α) (work : α → Option β) :
    Except WorkerFailure (List β) :=
  match collect (tasks.map work) with
  | .ok results => .ok results
  | .error task => .error ⟨phase, task⟩

/-- What an observer of a phase is told. -/
structure Progress where
  /-- The number of tasks, told at the start. -/
  total : Nat
  /-- The number of finished tasks told last; nothing when there was no task. -/
  lastCompleted : Option Nat
  /-- How often the end was told. -/
  finished : Nat
deriving DecidableEq, Repr

/-- What an observer of a phase with some tasks is told: also of a failing phase the end. -/
def progress (tasks : Nat) : Progress := ⟨tasks, if tasks = 0 then none else some tasks, 1⟩

end Pool

end DesignTables
