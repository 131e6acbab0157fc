import SuitApi.Library.Ledger
import SuitApi.Library.Runs
import SuitApi.Scheduler

/-! # The scheduler's GPU bookkeeping

The status column of `gpu_devices` and the assignment columns of `tasks` are two
records of who owns which GPU.  While the scheduler is their only writer they
stay views of one ownership ledger: a launch is a claim, a finish notification a
drop, and every other exit of `_schedule_one` leaves the ledger alone.
-/

namespace SuitApi.Bookkeeping

/-- The GPU row exists and is marked allocated. -/
def Allocated (db : Database) (slot : NodeId × Int) : Prop :=
  ∃ gpu, db.gpus.get slot = some gpu ∧ gpu.status = .allocated

abbrev Owners := Ledger.Owners (NodeId × Int) TaskId

/-- The database records the ledger `owners`. -/
abbrev Records (db : Database) (owners : Owners) : Prop :=
  Ledger.Represents (Allocated db) (fun t slot => db.Holds t slot.1 slot.2) owners

/-- The invariant of the scheduler's two tables. -/
structure Booked (db : Database) : Prop where
  ledger : ∃ owners, Records db owners
  nodup : ∀ t task, db.tasks.get t = some task → task.gpuIndices.Nodup
  queuedFree : ∀ t task, db.tasks.get t = some task → task.status = .queued → task.gpuIndices = []

/-! ## Runs -/

/-- Steps of the scheduler, and of everybody else as far as they leave GPU rows
    and assignments alone and queue only tasks they have just created. -/
inductive Op where
  | schedule (env : Scheduler.Env)
  | finished (env : Scheduler.Env) (t : TaskId)
  | create (task : Task)
  | rewrite (change : Task → Task)
  | surroundings (nodes : Table Node.id) (queues : Queues)

/-- `new` as far as another writer may go. -/
def restricted (old new : Task) : Task :=
  { new with
    id := old.id
    assignedNodeId := old.assignedNodeId
    assignedGpuIndices := old.assignedGpuIndices
    status := if new.status = .queued then old.status else new.status }

theorem restricted_id (old new : Task) : (restricted old new).id = old.id := rfl

def exec : Op → Store → Store
  | .schedule env, s => (Scheduler.scheduleOne env s).store
  | .finished env t, s => Scheduler.handleTaskFinished env s t
  | .create task, s =>
      match s.db.tasks.insert? { task with assignedNodeId := none, assignedGpuIndices := none } with
      | some tasks => { s with db := { s.db with tasks } }
      | none => s
  | .rewrite change, s =>
      { s with
        db := { s.db with
          tasks := s.db.tasks.updateWhere (fun _ => true) (fun task => restricted task (change task))
            fun task => restricted_id task (change task) } }
  | .surroundings nodes queues, s => { db := { s.db with nodes }, queues }

/-! ## Steps that leave the ledger alone -/

/-- The row keeps its assignment and is not put into the queue. -/
def KeepsAssignment (f : Task → Task) : Prop :=
  ∀ task, (f task).assignedNodeId = task.assignedNodeId ∧
    (f task).assignedGpuIndices = task.assignedGpuIndices ∧
    ((f task).status = .queued → task.status = .queued)

theorem keepsAssignment_id : KeepsAssignment id := fun _ => ⟨rfl, rfl, id⟩

theorem keepsAssignment_markFailed (exc : String) : KeepsAssignment (Scheduler.markFailed exc) :=
  fun _ => ⟨rfl, rfl, fun h => by cases h⟩

theorem keepsAssignment_restricted (change : Task → Task) :
    KeepsAssignment fun task => restricted task (change task) := by
  intro task
  refine ⟨rfl, rfl, fun queued => ?_⟩
  simp only [restricted] at queued
  split at queued
  · exact queued
  · contradiction

theorem lists_congr {f : Task → Task} (keeps : KeepsAssignment f) (task : Task) (node : NodeId)
    (index : Int) : (f task).Lists node index ↔ task.Lists node index := by
  obtain ⟨sameNode, sameIndices, _⟩ := keeps task
  rw [Task.Lists, Task.Lists, Task.gpuIndices, Task.gpuIndices, sameNode, sameIndices]

theorem Booked.rewrite {db db' : Database} (h : Booked db)
    (gpus : ∀ slot, db'.gpus.get slot = db.gpus.get slot)
    (tasks : ∀ t, ∃ f, KeepsAssignment f ∧ db'.tasks.get t = (db.tasks.get t).map f) :
    Booked db' := by
  have holds : ∀ t node index, db'.Holds t node index ↔ db.Holds t node index := by
    intro t node index
    obtain ⟨f, keeps, row⟩ := tasks t
    constructor
    · rintro ⟨task', found, listed⟩
      rw [row] at found
      obtain ⟨task, before, rfl⟩ := Option.map_eq_some_iff.mp found
      exact ⟨task, before, (lists_congr keeps task node index).mp listed⟩
    · rintro ⟨task, found, listed⟩
      exact ⟨f task, by rw [row, found, Option.map_some], (lists_congr keeps task node index).mpr listed⟩
  refine ⟨?_, ?_, ?_⟩
  · obtain ⟨owners, records⟩ := h.ledger
    exact ⟨owners, records.congr (fun slot => by rw [Allocated, Allocated, gpus])
      fun t slot => holds t slot.1 slot.2⟩
  · intro t task' found
    obtain ⟨f, keeps, row⟩ := tasks t
    rw [row] at found
    obtain ⟨task, before, rfl⟩ := Option.map_eq_some_iff.mp found
    rw [Task.gpuIndices, (keeps task).2.1]
    exact h.nodup t task before
  · intro t task' found queued
    obtain ⟨f, keeps, row⟩ := tasks t
    rw [row] at found
    obtain ⟨task, before, rfl⟩ := Option.map_eq_some_iff.mp found
    rw [Task.gpuIndices, (keeps task).2.1]
    exact h.queuedFree t task before ((keeps task).2.2 queued)

/-! ## Claims and drops -/

theorem holds_iff {db : Database} {t : TaskId} {task : Task} (found : db.tasks.get t = some task)
    (node : NodeId) (index : Int) : db.Holds t node index ↔ task.Lists node index :=
  ⟨fun ⟨_, here, listed⟩ => by rw [found] at here; cases here; exact listed,
    fun listed => ⟨task, found, listed⟩⟩

/-- A launch claims the selected GPUs for a task that held nothing. -/
theorem Booked.launch {db db' : Database} (h : Booked db) {nodes : List Node} {a : Allocation}
    (selected : GpuAllocator.Selected db nodes a) {task : Task}
    (found : db.tasks.get task.id = some task) (queued : task.status = .queued)
    (id : ContainerId) (now : Time) (result : Dict)
    (gpus : ∀ slot, db'.gpus.get slot = (GpuAllocator.mark db a .allocated).gpus.get slot)
    (tasks : ∀ t, db'.tasks.get t =
      if t = task.id then some (Scheduler.markRunning a id now result task) else db.tasks.get t) :
    Booked db' := by
  have idle := h.queuedFree _ _ found queued
  have mine : db'.tasks.get task.id = some (Scheduler.markRunning a id now result task) := by
    rw [tasks, if_pos rfl]
  have others : ∀ t, t ≠ task.id → db'.tasks.get t = db.tasks.get t := fun t other => by
    rw [tasks, if_neg other]
  refine ⟨?_, ?_, ?_⟩
  · obtain ⟨owners, records⟩ := h.ledger
    refine ⟨_, records.claim (c := task.id) (S := fun slot => slot.1 = a.nodeId ∧ slot.2 ∈ a.gpuIndices)
      ?_ ?_ ?_ ?_⟩
    · rintro ⟨node, index⟩ ⟨rfl, inside⟩ ⟨gpu, here, allocated⟩
      obtain ⟨gpu', here', free⟩ := selected.idle index inside
      rw [here] at here'
      cases here'
      rw [free] at allocated
      cases allocated
    · rintro ⟨node, index⟩ held
      have listed := ((holds_iff found node index).mp held).2
      rw [idle] at listed
      cases listed
    · rintro ⟨node, index⟩
      rw [Allocated, Allocated, gpus, GpuAllocator.mark_get]
      by_cases covered : node = a.nodeId ∧ index ∈ a.gpuIndices
      · obtain ⟨rfl, inside⟩ := covered
        obtain ⟨gpu, here, _⟩ := selected.idle index inside
        simp [here, inside]
      · simp only [covered, if_false, Option.map_id', false_or]
    · rintro t ⟨node, index⟩
      by_cases same : t = task.id
      · subst same
        rw [holds_iff mine]
        simp [Task.Lists, Task.gpuIndices, Scheduler.markRunning, eq_comm]
      · simp only [Database.Holds, others t same, same, false_and, ne_eq, not_false_eq_true, true_and,
          false_or]
  · intro t row here
    by_cases same : t = task.id
    · subst same
      rw [mine] at here
      cases here
      exact selected.nodup
    · rw [others t same] at here
      exact h.nodup t row here
  · intro t row here rowQueued
    by_cases same : t = task.id
    · subst same
      rw [mine] at here
      cases here
      cases rowQueued
    · rw [others t same] at here
      exact h.queuedFree t row here rowQueued

/-- A finish notification drops everything its task holds; repeating it, or
    sending it for a task that holds nothing, drops nothing. -/
theorem Booked.finish {db : Database} (h : Booked db) (t : TaskId) :
    Booked (Scheduler.finishTask db t) := by
  cases found : db.tasks.get t with
  | none =>
      refine h.rewrite (fun slot => ?_) fun t' => ⟨id, keepsAssignment_id, ?_⟩
      · rw [Scheduler.finishTask_gpus, GpuAllocator.releaseByTask_unknown found]
      · rw [Scheduler.finishTask_tasks, Option.map_id, id]
        split
        · rename_i same
          rw [same, found, Option.map_none]
        · rfl
  | some task =>
      have mine : (Scheduler.finishTask db t).tasks.get t = some (Scheduler.clearGpuIndices task) := by
        rw [Scheduler.finishTask_tasks, if_pos rfl, found, Option.map_some]
      have others : ∀ t', t' ≠ t → (Scheduler.finishTask db t).tasks.get t' = db.tasks.get t' :=
        fun t' other => by rw [Scheduler.finishTask_tasks, if_neg other]
      refine ⟨?_, ?_, ?_⟩
      · obtain ⟨owners, records⟩ := h.ledger
        refine ⟨_, records.drop (c := t) ?_ ?_⟩
        · rintro ⟨node, index⟩
          rw [Allocated, Allocated, Scheduler.finishTask_gpus, GpuAllocator.releaseByTask_get found,
            holds_iff found]
          by_cases listed : task.Lists node index
          · simp [listed]
          · simp only [listed, if_false, Option.map_id', not_false_eq_true, and_true]
        · rintro t' ⟨node, index⟩
          by_cases same : t' = t
          · subst same
            rw [holds_iff mine]
            simp [Task.Lists, Task.gpuIndices, Scheduler.clearGpuIndices]
          · simp only [Database.Holds, others t' same, same, ne_eq, not_false_eq_true, true_and]
      · intro t' row here
        by_cases same : t' = t
        · subst same
          rw [mine] at here
          cases here
          exact List.nodup_nil
        · rw [others t' same] at here
          exact h.nodup t' row here
      · intro t' row here queued
        by_cases same : t' = t
        · subst same
          rw [mine] at here
          cases here
          rfl
        · rw [others t' same] at here
          exact h.queuedFree t' row here queued

/-! ## Every step -/

theorem Booked.schedule {s : Store} (h : Booked s.db) (env : Scheduler.Env) :
    Booked (Scheduler.scheduleOne env s).store.db := by
  cases Scheduler.scheduleOne_rows env s with
  | kept _ tasks gpus =>
      apply h.rewrite gpus
      intro t
      exact ⟨id, keepsAssignment_id, by rw [tasks, Option.map_id, id]⟩
  | failed task a run exc _ _ found _ tasks gpus =>
      apply h.rewrite gpus
      intro t
      by_cases same : t = task.id
      · exact ⟨_, keepsAssignment_markFailed exc, by rw [tasks, if_pos same, same, found, Option.map_some]⟩
      · exact ⟨id, keepsAssignment_id, by rw [tasks, if_neg same, Option.map_id, id]⟩
  | started task a run id result _ _ left =>
      exact h.launch left.selected left.found left.queued id env.now result left.gpus left.tasks

theorem Booked.create {db : Database} (h : Booked db) {task : Task} {tasks : Table Task.id}
    (inserted : db.tasks.insert? { task with assignedNodeId := none, assignedGpuIndices := none } =
      some tasks) : Booked { db with tasks } := by
  have row := Table.get_insert? inserted
  have fresh := Table.insert?_fresh inserted
  simp only at fresh
  have holds : ∀ t node index, ({ db with tasks } : Database).Holds t node index ↔
      db.Holds t node index := by
    intro t node index
    by_cases same : t = task.id
    · subst same
      simp [Database.Holds, row, fresh, Task.Lists]
    · simp only [Database.Holds, row, same, if_false]
  refine ⟨?_, ?_, ?_⟩
  · obtain ⟨owners, records⟩ := h.ledger
    exact ⟨owners, records.congr (fun _ => Iff.rfl) fun t slot => holds t slot.1 slot.2⟩
  · intro t found here
    rw [row] at here
    split at here
    · cases here
      exact List.nodup_nil
    · exact h.nodup t found here
  · intro t found here queued
    rw [row] at here
    split at here
    · cases here
      rfl
    · exact h.queuedFree t found here queued

theorem booked_step (s : Store) (op : Op) (h : Booked s.db) : Booked (exec op s).db := by
  cases op with
  | schedule env => exact h.schedule env
  | finished env t =>
      simp only [exec, Scheduler.handleTaskFinished]
      split
      · exact h
      · exact Booked.schedule (s := { s with db := Scheduler.finishTask s.db t }) (h.finish t) env
  | create task =>
      simp only [exec]
      split
      · rename_i tasks inserted
        exact h.create inserted
      · exact h
  | rewrite change =>
      refine h.rewrite (fun _ => rfl) fun t => ⟨_, keepsAssignment_restricted change, ?_⟩
      refine (Table.get_updateWhere _ _ _ (fun task => restricted_id task (change task)) t).trans ?_
      simp only [if_true]
  | surroundings nodes queues =>
      exact h.rewrite (fun _ => rfl) fun t => ⟨id, keepsAssignment_id, by rw [Option.map_id, id]; rfl⟩

theorem booked_start {db : Database} (idle : ∀ slot, ¬ Allocated db slot)
    (free : ∀ t task, db.tasks.get t = some task → task.gpuIndices = []) : Booked db := by
  refine ⟨⟨_, Ledger.Represents.empty idle ?_⟩, ?_, fun t task found _ => free t task found⟩
  · rintro t slot ⟨task, found, listed⟩
    have inside := listed.2
    rw [free t task found] at inside
    cases inside
  · intro t task found
    rw [free t task found]
    exact List.nodup_nil

/-- In every state the scheduler reaches from a clean one, whatever the queues,
    the agents and the notifications do: a GPU is allocated exactly when one task
    lists it, no two tasks list the same GPU, and no list repeats an index. -/
theorem gpu_bookkeeping (s : Store) (idle : ∀ slot, ¬ Allocated s.db slot)
    (free : ∀ t task, s.db.tasks.get t = some task → task.gpuIndices = []) (ops : List Op) :
    let db := (Runs.run exec ops s).db
    (∀ node index, Allocated db (node, index) ↔ ∃! t, db.Holds t node index) ∧
      (∀ t u node index, db.Holds t node index → db.Holds u node index → t = u) ∧
      ∀ t task, db.tasks.get t = some task → task.gpuIndices.Nodup := by
  intro db
  have booked : Booked db :=
    Runs.run_invariant (I := fun s : Store => Booked s.db) booked_step ops (booked_start idle free)
  obtain ⟨owners, records⟩ := booked.ledger
  refine ⟨fun node index => ?_, fun t u node index held held' => ?_, booked.nodup⟩
  · exact records.used_iff_existsUnique (node, index)
  · exact records.unique (r := (node, index)) held held'

/-- One online node with one idle GPU. -/
def oneGpu : Store where
  db := {
    nodes := ⟨[{ id := "n1", ip := "10.0.0.1", status := .online }], List.nodup_singleton _⟩
    gpus := ⟨[{ id := "g", nodeId := "n1", gpuIndex := 0 }], List.nodup_singleton _⟩ }
  queues := { normal := [QueueService.payload "t" "", QueueService.payload "t" ""] }

def oneGpuRun : List Op :=
  let env (id : ContainerId) : Scheduler.Env :=
    { agent := fun _ => { started := some id, response := .ok [("container_id", .str id)] } }
  [.create { id := "t", userId := "u", status := .queued, containerImage := some "image" },
    .schedule (env "c"), .finished (env "d") "t"]

theorem oneGpu_bookkeeping :
    Allocated (Runs.run exec oneGpuRun oneGpu).db ("n1", 0) ↔
      ∃! t, (Runs.run exec oneGpuRun oneGpu).db.Holds t "n1" 0 := by
  apply (gpu_bookkeeping oneGpu _ _ oneGpuRun).1
  · rintro slot ⟨gpu, found, allocated⟩
    rw [List.mem_singleton.mp (Table.mem_of_get found)] at allocated
    cases allocated
  · intro t task found
    cases found

end SuitApi.Bookkeeping
