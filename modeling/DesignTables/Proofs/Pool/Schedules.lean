import DesignTables.Pool.Schedule
import Mathlib.Data.List.Nodup
import Mathlib.Data.List.Pairwise
import Mathlib.Data.List.Perm.Basic
import Mathlib.Logic.ExistsUnique

/-!
# What every schedule of a phase comes to

A step moves one task to the next of five places, or lets a worker go. So no task is lost, doubled
or left behind, every schedule ends after the same number of steps, and what a phase comes to
depends on the work alone: not on the number of workers and not on which step came next.
-/
namespace DesignTables.Pool

/-- The work of a phase on the task at a position. -/
def workAt {α β : Type} (tasks : List α) (work : α → Option β) (task : Nat) : Option β :=
  tasks[task]?.bind work

theorem map_workAt_range {α β : Type} (tasks : List α) (work : α → Option β) :
    (List.range tasks.length).map (workAt tasks work) = tasks.map work := by
  apply List.ext_getElem
  · simp
  · intro task _ inside
    rw [List.length_map] at inside
    simp [workAt, inside]

theorem collect_map_some {β : Type} (results : List β) :
    collect (results.map some) = .ok results := by
  induction results with
  | nil => rfl
  | cons result results ih => rw [List.map_cons, collect, ih]

/-- What is shown of a list when one of its members is replaced. -/
theorem filterMap_set_perm {α γ : Type} {xs : List α} {i : Nat} {before : α} (f : α → Option γ)
    (h : xs[i]? = some before) (after : α) :
    ((f before).toList ++ (xs.set i after).filterMap f).Perm
      ((f after).toList ++ xs.filterMap f) := by
  have shown : ∀ x (rest : List α), (x :: rest).filterMap f = (f x).toList ++ rest.filterMap f := by
    intro x rest
    rw [List.filterMap_cons]
    cases f x <;> rfl
  induction xs generalizing i with
  | nil => cases h
  | cons x xs ih =>
    cases i with
    | zero =>
      obtain rfl := Option.some.inj h
      rw [List.set_cons_zero, shown, shown]
      exact List.perm_append_comm_assoc _ _ _
    | succ i =>
      rw [List.set_cons_succ, shown, shown]
      refine (List.perm_append_comm_assoc _ _ _).trans ?_
      exact ((ih h).append_left _).trans (List.perm_append_comm_assoc _ _ _)

/-- A worker that is not gone. -/
def Worker.present? : Worker → Option Worker
  | .gone => none
  | worker => some worker

/-- Where a task can be. -/
inductive Place where
  | unfed
  | queue
  | worker
  | sent
  | received
deriving DecidableEq, Repr

/-- The places in the order in which a task comes to them. -/
def Place.all : List Place := [.unfed, .queue, .worker, .sent, .received]

theorem Place.mem_all (place : Place) : place ∈ all := by
  cases place <;> decide

namespace State

variable {β : Type}

/-- The tasks at a place. -/
def tasksAt (state : State β) : Place → List Nat
  | .unfed => state.unfed
  | .queue => state.queue
  | .worker => state.held
  | .sent => state.sent.map (·.task)
  | .received => state.received.map (·.task)

/-- The tasks at all places. -/
def tasks (state : State β) : List Nat := Place.all.flatMap state.tasksAt

/-- What was executed, in the order of the executions: results are received in the order in which
they are sent. -/
def executed (state : State β) : List (Finished β) := state.received ++ state.sent

/-- The number of workers that are not gone. -/
def present (state : State β) : Nat := (state.workers.filterMap Worker.present?).length

/-- The number of steps that are still to be made: four for a task that is not fed yet, one less at
each place that it comes to, and one for every worker that is to go. -/
def remaining (state : State β) : Nat :=
  4 * state.unfed.length + 3 * state.queue.length + 2 * state.held.length + state.sent.length +
    state.present

theorem tasks_eq (state : State β) : state.tasks =
    state.unfed ++ (state.queue ++ (state.held ++
      (state.sent.map (·.task) ++ state.received.map (·.task)))) := by
  simp [tasks, Place.all, tasksAt]

/-- A task that occurs once is at one place, and once there. -/
theorem place_of_nodup {state : State β} (nodup : state.tasks.Nodup) :
    (∀ task, task ∈ state.tasks ↔ ∃! place, task ∈ state.tasksAt place) ∧
      ∀ place, (state.tasksAt place).Nodup := by
  obtain ⟨once, apart⟩ := List.nodup_flatMap.1 nodup
  refine ⟨fun task => ?_, fun place => once place place.mem_all⟩
  constructor
  · intro mem
    obtain ⟨place, -, mem⟩ := List.mem_flatMap.1 mem
    refine ⟨place, mem, fun other mem' => ?_⟩
    by_contra different
    have symmetric : Std.Symm (Function.onFun List.Disjoint state.tasksAt) :=
      ⟨fun _ _ disjoint => List.disjoint_symm disjoint⟩
    exact apart.forall other.mem_all place.mem_all different mem' mem
  · rintro ⟨place, mem, -⟩
    exact List.mem_flatMap.2 ⟨place, place.mem_all, mem⟩

end State

section

variable {β : Type} {work : Nat → Option β} {state next : State β}

/-- A step moves tasks and neither loses nor makes one. -/
theorem Step.tasks_perm (step : Step work state next) : next.tasks.Perm state.tasks := by
  rw [State.tasks_eq, State.tasks_eq]
  cases step with
  | @feed task rest first room =>
    rw [first, List.append_assoc, List.cons_append]
    exact (List.perm_middle.append_left _).trans List.perm_middle
  | @take worker task rest waiting first =>
    have moved := filterMap_set_perm Worker.task? waiting (.busy task)
    rw [first]
    refine List.Perm.append_left _ ?_
    refine List.Perm.trans ?_ List.perm_middle
    exact (moved.append_right _).append_left _
  | @finish worker task busy =>
    have moved := filterMap_set_perm Worker.task? busy .waiting
    refine List.Perm.append_left _ (List.Perm.append_left _ ?_)
    rw [List.map_append, List.append_assoc]
    refine List.Perm.trans ?_ (moved.append_right _)
    exact (List.perm_middle.append_left _).trans List.perm_middle
  | @leave worker waiting fed drained =>
    have moved := filterMap_set_perm Worker.task? waiting .gone
    exact ((moved.append_right _).append_left _).append_left _
  | @receive finished rest first =>
    rw [first, List.map_append]
    refine List.Perm.append_left _ (List.Perm.append_left _ (List.Perm.append_left _ ?_))
    exact (List.perm_append_singleton _ _).append_left _ |>.trans List.perm_middle

/-- A step executes nothing, or the task that some worker holds. -/
theorem Step.executed_cases (step : Step work state next) :
    next.executed = state.executed ∨
      ∃ task ∈ state.held, next.executed = state.executed ++ [⟨task, work task⟩] := by
  cases step with
  | feed | take | leave => exact .inl rfl
  | @finish worker task busy =>
    exact .inr ⟨task, List.mem_filterMap.2 ⟨_, List.mem_of_getElem? busy, rfl⟩,
      (List.append_assoc ..).symm⟩
  | @receive finished rest first =>
    refine .inl ?_
    rw [State.executed, State.executed, first, List.append_assoc]
    rfl

/-- Every step is one of those that are still to be made. -/
theorem Step.remaining_eq (step : Step work state next) : next.remaining + 1 = state.remaining := by
  cases step with
  | @feed task rest first room =>
    simp only [State.remaining, State.held, State.present, first, List.length_append,
      List.length_cons, List.length_nil]
    omega
  | @take worker task rest waiting first =>
    have moved := (filterMap_set_perm Worker.task? waiting (.busy task)).length_eq
    have stays := (filterMap_set_perm Worker.present? waiting (.busy task)).length_eq
    simp [Worker.task?, Worker.present?] at moved stays
    simp only [State.remaining, State.held, State.present, first, List.length_cons]
    omega
  | @finish worker task busy =>
    have moved := (filterMap_set_perm Worker.task? busy .waiting).length_eq
    have stays := (filterMap_set_perm Worker.present? busy .waiting).length_eq
    simp [Worker.task?, Worker.present?] at moved stays
    simp only [State.remaining, State.held, State.present, List.length_append, List.length_cons,
      List.length_nil]
    omega
  | @leave worker waiting fed drained =>
    have moved := (filterMap_set_perm Worker.task? waiting .gone).length_eq
    have goes := (filterMap_set_perm Worker.present? waiting .gone).length_eq
    simp [Worker.task?, Worker.present?] at moved goes
    simp only [State.remaining, State.held, State.present]
    omega
  | @receive finished rest first =>
    simp only [State.remaining, State.held, State.present, first, List.length_cons]
    omega

/-- Unless everything is over, some step can be made. -/
theorem exists_step (h : state.isOver = false) : ∃ next, Step work state next := by
  cases sent : state.sent with
  | cons finished rest => exact ⟨_, .receive sent⟩
  | nil =>
    have some : ∃ worker ∈ state.workers, worker ≠ .gone := by
      simpa [State.isOver, sent] using h
    obtain ⟨worker, mem, present⟩ := some
    obtain ⟨place, found⟩ := List.mem_iff_getElem?.1 mem
    cases worker with
    | gone => exact absurd rfl present
    | busy task => exact ⟨_, .finish found⟩
    | waiting =>
      cases queue : state.queue with
      | cons task rest => exact ⟨_, .take found queue⟩
      | nil =>
        cases unfed : state.unfed with
        | nil => exact ⟨_, .leave found unfed queue⟩
        | cons task rest =>
          have room : state.queue.length < state.workers.length := by
            rw [queue]
            exact List.length_pos_of_mem mem
          exact ⟨_, .feed unfed room⟩

end

/-- What holds of the states of a phase with some tasks. -/
structure Orderly {β : Type} (work : Nat → Option β) (workers count : Nat) (state : State β) :
    Prop where
  tasks : state.tasks.Perm (List.range count)
  executed : ∀ finished ∈ state.executed, finished.result = work finished.task
  workers : state.workers.length = startedWorkers workers count
  /-- A worker goes only when there is nothing left to take. -/
  gone : .gone ∈ state.workers → state.unfed = [] ∧ state.queue = []

section

variable {β : Type} {work : Nat → Option β} {workers count : Nat} {state next : State β}

theorem orderly_start : Orderly work workers count (State.start workers count) where
  tasks := by
    have held : (List.replicate (startedWorkers workers count) Worker.waiting).filterMap
        Worker.task? = [] := List.filterMap_replicate_of_none rfl
    rw [State.tasks_eq]
    simp [State.start, State.held, held]
  executed := by simp [State.executed, State.start]
  workers := List.length_replicate
  gone mem := by
    have same := List.eq_of_mem_replicate mem
    cases same

theorem Orderly.step (h : Orderly work workers count state) (step : Step work state next) :
    Orderly work workers count next where
  tasks := step.tasks_perm.trans h.tasks
  executed := by
    intro finished mem
    rcases step.executed_cases with same | ⟨task, -, more⟩
    · exact h.executed finished (same ▸ mem)
    · rw [more] at mem
      rcases List.mem_append.1 mem with mem | mem
      · exact h.executed finished mem
      · rw [List.mem_singleton] at mem
        rw [mem]
  workers := by
    cases step with
    | feed | receive => exact h.workers
    | take | finish | leave => exact List.length_set.trans h.workers
  gone := by
    have known {place : Nat} (worker : Worker) (present : .gone ≠ worker)
        (mem : .gone ∈ state.workers.set place worker) : .gone ∈ state.workers :=
      (List.mem_or_eq_of_mem_set mem).resolve_right present
    intro mem
    cases step with
    | feed first => exact absurd ((h.gone mem).1.symm.trans first) (List.cons_ne_nil _ _).symm
    | take _ first =>
      have drained := (h.gone (known (.busy _) nofun mem)).2
      exact absurd (drained.symm.trans first) (List.cons_ne_nil _ _).symm
    | finish => exact h.gone (known .waiting nofun mem)
    | leave _ fed drained => exact ⟨fed, drained⟩
    | receive => exact h.gone mem

theorem Reachable.orderly (h : Reachable work workers count state) :
    Orderly work workers count state := by
  induction h with
  | start => exact orderly_start
  | step _ step ih => exact ih.step step

theorem Orderly.nodup_tasks (h : Orderly work workers count state) : state.tasks.Nodup :=
  h.tasks.nodup_iff.2 List.nodup_range

/-- At the end every task was received. -/
theorem Orderly.received_perm (h : Orderly work workers count state) (ended : state.isOver = true) :
    state.sent = [] ∧ (state.received.map (·.task)).Perm (List.range count) := by
  rw [State.isOver, Bool.and_eq_true, List.all_eq_true, List.isEmpty_iff] at ended
  obtain ⟨all, sent⟩ := ended
  have left : ∀ worker ∈ state.workers, worker = .gone := fun worker mem => by
    simpa using all worker mem
  have held : state.held = [] := by
    rw [State.held, List.filterMap_eq_nil_iff]
    intro worker mem
    rw [left worker mem]
    rfl
  have places := h.tasks
  rw [State.tasks_eq, held, sent, List.nil_append, List.map_nil, List.nil_append] at places
  refine ⟨sent, ?_⟩
  cases given : state.workers with
  | cons worker rest =>
    have mem : worker ∈ state.workers := by rw [given]; exact List.mem_cons_self
    obtain ⟨unfed, queue⟩ := h.gone (left worker mem ▸ mem)
    rwa [unfed, queue, List.nil_append, List.nil_append] at places
  | nil =>
    -- No worker is started only when there is no task.
    have none : count = 0 := by
      have count := h.workers
      rw [given, startedWorkers, List.length_nil] at count
      omega
    subst none
    have empty := List.perm_nil.1 places
    rw [List.append_eq_nil_iff, List.append_eq_nil_iff] at empty
    rw [empty.2.2]
    exact .refl _

/-- At the end the result of every task is there. -/
theorem Orderly.resultOf?_eq (h : Orderly work workers count state) (ended : state.isOver = true)
    {task : Nat} (inside : task < count) : state.resultOf? task = work task := by
  obtain ⟨sent, received⟩ := h.received_perm ended
  have mem := received.mem_iff.2 (List.mem_range.2 inside)
  obtain ⟨finished, known, same⟩ := List.mem_map.1 mem
  rw [State.resultOf?]
  cases found : state.received.find? (·.task == task) with
  | none => exact absurd (beq_iff_eq.2 same) (List.find?_eq_none.1 found finished known)
  | some first =>
    have own : first.task = task := by simpa using List.find?_some found
    have result := h.executed first
      (List.mem_append_left _ (List.mem_of_find?_eq_some found))
    rw [Option.bind_some, result, own]

/-- What was received last was executed for a task of the phase. -/
theorem Orderly.result_of_mem (h : Orderly work workers count state) (ended : state.isOver = true)
    {finished : Finished β} (mem : finished ∈ state.received) :
    finished.task < count ∧ finished.result = work finished.task :=
  ⟨List.mem_range.1 ((h.received_perm ended).2.mem_iff.1 (List.mem_map_of_mem mem)),
    h.executed finished (List.mem_append_left _ mem)⟩

/-- A phase in which no task fails comes to the results in the order of the tasks. -/
theorem Orderly.outcome_of_succeeds (h : Orderly work workers count state)
    (ended : state.isOver = true) (phase : Phase) {results : List β}
    (succeeds : (List.range count).map work = results.map some) :
    state.outcome phase count = .ok results := by
  have none : state.received.find? (·.result.isNone) = none := by
    rw [List.find?_eq_none]
    intro finished mem failed
    obtain ⟨inside, result⟩ := h.result_of_mem ended mem
    have known : work finished.task ∈ results.map some :=
      succeeds ▸ List.mem_map_of_mem (List.mem_range.2 inside)
    obtain ⟨value, -, same⟩ := List.mem_map.1 known
    rw [result, ← same] at failed
    cases failed
  have all : (List.range count).map state.resultOf? = results.map some := by
    rw [← succeeds]
    exact List.map_congr_left fun task mem => h.resultOf?_eq ended (List.mem_range.1 mem)
  rw [State.outcome, none, all, collect_map_some]

/-- A phase in which some task fails comes to the failure of a task that failed. -/
theorem Orderly.outcome_of_fails (h : Orderly work workers count state)
    (ended : state.isOver = true) (phase : Phase) {failing : Nat} (inside : failing < count)
    (fails : work failing = none) :
    ∃ task < count, work task = none ∧ state.outcome phase count = .error ⟨phase, task⟩ := by
  cases found : state.received.find? (·.result.isNone) with
  | some failed =>
    obtain ⟨inside', result⟩ := h.result_of_mem ended (List.mem_of_find?_eq_some found)
    have failure : failed.result.isNone = true := by simpa using List.find?_some found
    refine ⟨failed.task, inside', ?_, by rw [State.outcome, found]⟩
    rw [← result, Option.isNone_iff_eq_none.1 failure]
  | none =>
    obtain ⟨finished, mem, same⟩ := List.mem_map.1
      ((h.received_perm ended).2.mem_iff.2 (List.mem_range.2 inside))
    have result := (h.result_of_mem ended mem).2
    rw [same, fails] at result
    exact absurd (Option.isNone_iff_eq_none.2 result) (List.find?_eq_none.1 found finished mem)

end

section

variable {α β : Type} {tasks : List α} {work : α → Option β} {workers : Nat} {state : State β}

/-- In every state of a phase each task is at one place. Until the coordinator has nothing more to
wait for, some step can be made; every step leaves one less to make and executes at most one task,
which a worker holds. At the end each task was executed once; the outcome is the list of the results
in the order of the tasks when none fails, as it is without workers, and else the failure of a task
that failed. -/
theorem keeps_tasks (h : Reachable (workAt tasks work) workers tasks.length state) :
    ((∀ task, task < tasks.length ↔ ∃! place, task ∈ state.tasksAt place) ∧
      ∀ place, (state.tasksAt place).Nodup) ∧
    ((state.isOver = false → ∃ next, Step (workAt tasks work) state next) ∧
      ∀ next, Step (workAt tasks work) state next → next.remaining + 1 = state.remaining ∧
        (next.executed = state.executed ∨ ∃ task ∈ state.held,
          next.executed = state.executed ++ [⟨task, workAt tasks work task⟩])) ∧
    (state.isOver = true →
      (state.executed.map (·.task)).Perm (List.range tasks.length) ∧
      (∀ finished ∈ state.executed, finished.result = workAt tasks work finished.task) ∧
      ∀ phase,
        (∀ results, tasks.map work = results.map some →
          state.outcome phase tasks.length = .ok results ∧ run phase tasks work = .ok results) ∧
        ((∃ task ∈ tasks, work task = none) → ∃ position task, tasks[position]? = some task ∧
          work task = none ∧ state.outcome phase tasks.length = .error ⟨phase, position⟩)) := by
  have orderly := h.orderly
  obtain ⟨place, once⟩ := State.place_of_nodup orderly.nodup_tasks
  refine ⟨⟨fun task => ?_, once⟩, ⟨exists_step, fun next step => ?_⟩, fun ended => ?_⟩
  · rw [← place, orderly.tasks.mem_iff, List.mem_range]
  · exact ⟨step.remaining_eq, step.executed_cases⟩
  obtain ⟨sent, received⟩ := orderly.received_perm ended
  refine ⟨?_, orderly.executed, fun phase => ⟨fun results succeeds => ?_, fun some => ?_⟩⟩
  · rw [State.executed, sent, List.append_nil]
    exact received
  · refine ⟨orderly.outcome_of_succeeds ended phase ?_, ?_⟩
    · rw [map_workAt_range, succeeds]
    · rw [run, succeeds, collect_map_some]
  · obtain ⟨task, mem, fails⟩ := some
    obtain ⟨position, inside, rfl⟩ := List.getElem_of_mem mem
    have failing : workAt tasks work position = none := by
      rw [workAt, List.getElem?_eq_getElem inside, Option.bind_some, fails]
    obtain ⟨first, inside', none, outcome⟩ := orderly.outcome_of_fails ended phase inside failing
    refine ⟨first, tasks[first], List.getElem?_eq_getElem inside', ?_, outcome⟩
    rwa [workAt, List.getElem?_eq_getElem inside', Option.bind_some] at none

end

/-- The end of a phase in which the second of two tasks is done first. -/
def crossed {β : Type} (work : Nat → Option β) : State β :=
  ⟨[], [], [.gone, .gone], [], [⟨1, work 1⟩, ⟨0, work 0⟩]⟩

theorem reachable_crossed {β : Type} (work : Nat → Option β) :
    Reachable work 2 2 (crossed work) := by
  have fed : Reachable work 2 2 ⟨[], [0, 1], [.waiting, .waiting], [], []⟩ :=
    .step (.step .start (.feed rfl Nat.two_pos)) (.feed rfl Nat.one_lt_two)
  have taken : Reachable work 2 2 ⟨[], [], [.busy 0, .busy 1], [], []⟩ :=
    .step (.step fed (@Step.take _ _ _ 0 _ _ rfl rfl)) (@Step.take _ _ _ 1 _ _ rfl rfl)
  have sent : Reachable work 2 2 ⟨[], [], [.waiting, .waiting], [⟨1, work 1⟩, ⟨0, work 0⟩], []⟩ :=
    .step (.step taken (@Step.finish _ _ _ 1 _ rfl)) (@Step.finish _ _ _ 0 _ rfl)
  have received : Reachable work 2 2
      ⟨[], [], [.waiting, .waiting], [], [⟨1, work 1⟩, ⟨0, work 0⟩]⟩ :=
    .step (.step sent (.receive rfl)) (.receive rfl)
  exact .step (.step received (@Step.leave _ _ _ 0 rfl rfl rfl)) (@Step.leave _ _ _ 1 rfl rfl rfl)

/-- Doubles a number, and fails on 4. -/
def doubled (n : Nat) : Option Nat := if n = 4 then none else some (2 * n)

/-- The results of 3 and 5 come in the order of the tasks, and 4 fails the phase. -/
theorem keeps_tasks_crossed :
    (Reachable (workAt [3, 5] doubled) 2 2 (crossed (workAt [3, 5] doubled)) ∧
      (crossed (workAt [3, 5] doubled)).isOver = true ∧
      (crossed (workAt [3, 5] doubled)).outcome .ingest 2 = .ok [6, 10]) ∧
    (Reachable (workAt [4, 5] doubled) 2 2 (crossed (workAt [4, 5] doubled)) ∧
      (crossed (workAt [4, 5] doubled)).isOver = true ∧
      ∃ position task, [4, 5][position]? = some task ∧ doubled task = none ∧
        (crossed (workAt [4, 5] doubled)).outcome .ingest 2 = .error ⟨.ingest, position⟩) := by
  refine ⟨⟨reachable_crossed _, rfl, ?_⟩, ⟨reachable_crossed _, rfl, ?_⟩⟩
  · have ends := (@keeps_tasks _ _ [3, 5] doubled 2 _ (reachable_crossed _)).2.2 rfl
    exact ((ends.2.2 .ingest).1 [6, 10] rfl).1
  · have ends := (@keeps_tasks _ _ [4, 5] doubled 2 _ (reachable_crossed _)).2.2 rfl
    exact (ends.2.2 .ingest).2 ⟨4, by decide, rfl⟩

end DesignTables.Pool
