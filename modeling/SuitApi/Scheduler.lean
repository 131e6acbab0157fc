import SuitApi.Agent
import SuitApi.Queue

/-! # The scheduler

`_schedule_one` pops one payload and either drops it, puts it back, or launches
its task; `handle_task_finished` gives a task's GPUs back.  Both run under
`_schedule_lock`.  `plan` is the part of `_schedule_one` that reads, `settle` the
part that writes; the functions of the two threads are put together from them.
-/

namespace SuitApi

structure Store where
  db : Database := {}
  queues : Queues := {}

namespace Scheduler

/-- What the surroundings decide in one call of `_schedule_one`. -/
structure Env where
  popFault : Option QueueLevel := none
  pushFault : Bool := false
  /-- The primary key `session.get` makes of a non-text identity, if it does not
      raise. -/
  taskKey : Value → Option TaskId := fun _ => none
  settings : ContainerManager.Settings := {}
  agent : RunRequest → AgentRun
  now : Time := 0

def getOnlineNodes (db : Database) : List Node :=
  (db.nodes.rows.filter fun node => node.status = .online).insertionSort fun a b => a.id ≤ b.id

/-- How one call goes on after the pop. -/
inductive Plan where
  | ignored
  | raised
  | skipped (task : TaskId)
  | requeue (task : Task) (fields : Dict) (priority : Int)
  | launch (task : Task) (allocation : Allocation)

/-- Everything after `session.get`, for a task id that was found in the payload. -/
def planTask (db : Database) (fields : Dict) (taskId : TaskId) : Plan :=
  match db.tasks.get taskId with
  | none => .skipped taskId
  | some task =>
      if task.status = .queued then
        match GpuAllocator.select db task (getOnlineNodes db) with
        | some allocation => .launch task allocation
        | none =>
            match QueueManager.requeuePriority fields with
            | some priority => .requeue task fields priority
            | none => .raised
      else .skipped taskId

def plan (env : Env) (db : Database) : QueueManager.Popped → Plan
  | .nothing => .ignored
  | .undecodable => .raised
  | .payload (.other value) => if value.truthy then .raised else .ignored
  | .payload (.object fields) =>
      match Dict.get fields "task_id" with
      | none => .ignored
      | some value =>
          if value.truthy then
            match value with
            | .str taskId => planTask db fields taskId
            | other =>
                match env.taskKey other with
                | some taskId => planTask db fields taskId
                | none => .raised
          else .ignored

/-- The columns a successful launch writes. -/
def markRunning (a : Allocation) (containerId : ContainerId) (now : Time) (result : Dict)
    (task : Task) : Task :=
  { task with
    status := .running
    assignedNodeId := some a.nodeId
    assignedGpuIndices := some a.gpuIndices
    containerId := some containerId
    startedAt := some now
    resultJson := some result }

/-- The columns a failed launch writes. -/
def markFailed (exc : String) (task : Task) : Task :=
  { task with status := .failed, resultJson := some [("error", .str exc)] }

theorem markRunning_id (a cid now result task) :
    (markRunning a cid now result task).id = task.id := rfl

theorem markFailed_id (exc task) : (markFailed exc task).id = task.id := rfl

/-- The container id the `try` block accepts, or the text of the exception. -/
def accepted (run : AgentRun) : Except String (ContainerId × Dict) :=
  match run.response with
  | .error exc => .error exc
  | .ok result =>
      match containerIdOf result with
      | some id => .ok (id, result)
      | none => .error "agent response missing container_id"

/-- Python's text of a list of integers. -/
def intListText (indices : List Int) : String :=
  "[" ++ String.intercalate ", " (indices.map toString) ++ "]"

/-- The rows written by a call that reached `launch`, up to its commit. -/
def settle (env : Env) (db : Database) (task : Task) (a : Allocation) (run : AgentRun) : Database :=
  let allocated := GpuAllocator.mark db a .allocated
  match accepted run with
  | .ok (id, result) =>
      (allocated.updateTask task.id (markRunning a id env.now result) (markRunning_id _ _ _ _)).addLog
        task.id "system" ("Task scheduled to node " ++ a.nodeId ++ ", gpus=" ++ intListText a.gpuIndices ++
          ", container_id=" ++ id ++ ".")
  | .error exc =>
      ((GpuAllocator.release allocated a).updateTask task.id (markFailed exc)
        (markFailed_id _)).addLog task.id "system" ("Task launch failed: " ++ exc)

/-- One call of `_schedule_one`: the store it leaves, its result (`none` when an
    exception leaves it) and its call of `ContainerManager.launch`. -/
structure Call where
  store : Store
  returned : Option Bool
  launched : Option (Task × Allocation × AgentRun) := none

def scheduleOne (env : Env) (s : Store) : Call :=
  let (popped, queues) := QueueManager.dequeue env.popFault s.queues
  match plan env s.db popped with
  | .ignored | .skipped _ => { store := { s with queues }, returned := some false }
  | .raised => { store := { s with queues }, returned := none }
  | .requeue task fields priority =>
      { store :=
          { db := s.db.addLog task.id "system" "No available GPU or online node, task requeued."
            queues := QueueManager.requeue env.pushFault fields priority queues }
        returned := some false }
  | .launch task a =>
      let run := ContainerManager.launch env.settings env.agent task a
      { store := { db := settle env s.db task a run, queues }
        returned := some (accepted run).toBool
        launched := some (task, a, run) }

def clearGpuIndices (task : Task) : Task := { task with assignedGpuIndices := none }

theorem clearGpuIndices_id (task) : (clearGpuIndices task).id = task.id := rfl

/-- The part of `handle_task_finished` under its first lock. -/
def finishTask (db : Database) (taskId : TaskId) : Database :=
  let released := GpuAllocator.releaseByTask db taskId
  if (released.tasks.get taskId).isSome then
    (released.updateTask taskId clearGpuIndices clearGpuIndices_id).addLog taskId "system"
      "Task finished notification received, GPUs released."
  else released

/-- `handle_task_finished`; an exception of the trailing `_schedule_one` is only
    logged. -/
def handleTaskFinished (env : Env) (s : Store) (taskId : TaskId) : Store :=
  if taskId = "" then s
  else (scheduleOne env { s with db := finishTask s.db taskId }).store

/-! ## What one call can do -/

/-- The effect of `_schedule_one` on the database: nothing but a log line, or the
    launch of a queued task on idle GPUs of an online node. -/
inductive Effect (env : Env) (db : Database) (call : Call) : Prop where
  | quiet (taskLogs : List TaskLog)
      (launched : call.launched = none)
      (wrote : call.store.db = { db with taskLogs })
  | launch (task : Task) (a : Allocation)
      (found : db.tasks.get task.id = some task)
      (queued : task.status = .queued)
      (selected : GpuAllocator.Selected db (getOnlineNodes db) a)
      (launched : call.launched =
        some (task, a, ContainerManager.launch env.settings env.agent task a))
      (wrote : call.store.db =
        settle env db task a (ContainerManager.launch env.settings env.agent task a))

theorem planTask_launch {db : Database} {fields : Dict} {t : TaskId} {task : Task} {a : Allocation}
    (planned : planTask db fields t = .launch task a) :
    db.tasks.get t = some task ∧ task.status = .queued ∧
      GpuAllocator.select db task (getOnlineNodes db) = some a := by
  unfold planTask at planned
  split at planned
  · cases planned
  · rename_i row found
    split at planned
    · rename_i queued
      split at planned
      · rename_i allocation chosen
        cases planned
        exact ⟨found, queued, chosen⟩
      · split at planned <;> cases planned
    · cases planned

theorem planTask_requeue {db : Database} {fields fields' : Dict} {t : TaskId} {task : Task}
    {priority : Int} (planned : planTask db fields t = .requeue task fields' priority) :
    db.tasks.get t = some task ∧ fields' = fields ∧ QueueManager.requeuePriority fields = some priority := by
  unfold planTask at planned
  split at planned
  · cases planned
  · rename_i row found
    split at planned
    · split at planned
      · cases planned
      · split at planned
        · rename_i priority' here
          cases planned
          exact ⟨found, rfl, here⟩
        · cases planned
    · cases planned

/-- A payload with a text id is decided by the row of that id. -/
theorem plan_text {env : Env} {db : Database} {popped : QueueManager.Popped} {t : TaskId}
    (carried : popped.carries t = true) :
    plan env db popped = .ignored ∨
      ∃ fields, popped = .payload (.object fields) ∧ plan env db popped = planTask db fields t := by
  cases popped with
  | nothing => cases carried
  | undecodable => cases carried
  | payload decoded =>
      cases decoded with
      | other value => cases carried
      | object fields =>
          have text : Dict.get fields "task_id" = some (.str t) := of_decide_eq_true carried
          simp only [plan, text]
          split
          · exact .inr ⟨fields, rfl, rfl⟩
          · exact .inl rfl

theorem plan_launch {env : Env} {db : Database} {popped : QueueManager.Popped} {task : Task}
    {a : Allocation} (planned : plan env db popped = .launch task a) :
    db.tasks.get task.id = some task ∧ task.status = .queued ∧
      GpuAllocator.select db task (getOnlineNodes db) = some a := by
  have reached : ∃ fields t, planTask db fields t = .launch task a := by
    unfold plan at planned
    split at planned
    · cases planned
    · cases planned
    · split at planned <;> cases planned
    · split at planned
      · cases planned
      · split at planned
        · split at planned
          · exact ⟨_, _, planned⟩
          · split at planned
            · exact ⟨_, _, planned⟩
            · cases planned
        · cases planned
  obtain ⟨fields, t, here⟩ := reached
  obtain ⟨found, rest⟩ := planTask_launch here
  obtain rfl := Table.key_of_get found
  exact ⟨found, rest⟩

theorem scheduleOne_effect (env : Env) (s : Store) : Effect env s.db (scheduleOne env s) := by
  unfold scheduleOne
  generalize QueueManager.dequeue env.popFault s.queues = popped
  obtain ⟨popped, queues⟩ := popped
  cases planned : plan env s.db popped with
  | ignored | skipped | raised =>
      exact .quiet s.db.taskLogs (by simp [planned]) (by simp [planned])
  | requeue task fields priority =>
      exact .quiet (s.db.taskLogs ++ [_]) (by simp [planned]) (by simp [planned, Database.addLog]; rfl)
  | launch task a =>
      obtain ⟨found, queued, chosen⟩ := plan_launch planned
      exact .launch task a found queued (GpuAllocator.select_spec chosen) (by simp [planned])
        (by simp [planned])

theorem launched_eq_some {env : Env} {s : Store} {task : Task} {a : Allocation} {run : AgentRun} :
    (scheduleOne env s).launched = some (task, a, run) ↔
      plan env s.db (QueueManager.dequeue env.popFault s.queues).1 = .launch task a ∧
        ContainerManager.launch env.settings env.agent task a = run := by
  unfold scheduleOne
  cases planned : plan env s.db (QueueManager.dequeue env.popFault s.queues).1 with
  | ignored | skipped | raised | requeue => simp [planned]
  | launch task' a' =>
      simp only [planned, Option.some.injEq, Prod.mk.injEq, Plan.launch.injEq]
      constructor
      · rintro ⟨rfl, rfl, rfl⟩
        exact ⟨⟨rfl, rfl⟩, rfl⟩
      · rintro ⟨⟨rfl, rfl⟩, rfl⟩
        exact ⟨rfl, rfl, rfl⟩

/-! ## The rows each part writes -/

theorem settle_gpus (env : Env) {db : Database} {nodes : List Node} (task : Task) {a : Allocation}
    (run : AgentRun) (selected : GpuAllocator.Selected db nodes a) (slot : NodeId × Int) :
    (settle env db task a run).gpus.get slot =
      match accepted run with
      | .ok _ => (GpuAllocator.mark db a .allocated).gpus.get slot
      | .error _ => db.gpus.get slot := by
  unfold settle
  cases accepted run with
  | ok reply => rfl
  | error exc => exact GpuAllocator.release_mark selected slot.1 slot.2

theorem settle_tasks (env : Env) (db : Database) (task : Task) (a : Allocation) (run : AgentRun)
    (t : TaskId) :
    (settle env db task a run).tasks.get t =
      if t = task.id then (db.tasks.get t).map (match accepted run with
        | .ok (id, result) => markRunning a id env.now result
        | .error exc => markFailed exc)
      else db.tasks.get t := by
  unfold settle
  cases accepted run with
  | ok reply => exact Database.updateTask_get _ _ _ (markRunning_id _ _ _ _) _
  | error exc =>
      refine (Database.updateTask_get _ _ _ (markFailed_id _) _).trans ?_
      rw [GpuAllocator.release_tasks, GpuAllocator.mark_tasks]

/-- What an accepted launch leaves. -/
structure Started (env : Env) (db : Database) (call : Call) (task : Task) (a : Allocation)
    (id : ContainerId) (result : Dict) : Prop where
  found : db.tasks.get task.id = some task
  queued : task.status = .queued
  selected : GpuAllocator.Selected db (getOnlineNodes db) a
  tasks : ∀ t, call.store.db.tasks.get t =
    if t = task.id then some (markRunning a id env.now result task) else db.tasks.get t
  gpus : ∀ slot, call.store.db.gpus.get slot = (GpuAllocator.mark db a .allocated).gpus.get slot

/-- The task and GPU rows after one call: as they were, or with a launch that the agent
    has refused, or one that it has accepted. -/
inductive Rows (env : Env) (db : Database) (call : Call) : Prop where
  | kept (launched : call.launched = none)
      (tasks : ∀ t, call.store.db.tasks.get t = db.tasks.get t)
      (gpus : ∀ slot, call.store.db.gpus.get slot = db.gpus.get slot)
  | failed (task : Task) (a : Allocation) (run : AgentRun) (exc : String)
      (launched : call.launched = some (task, a, run))
      (reply : accepted run = .error exc)
      (found : db.tasks.get task.id = some task)
      (queued : task.status = .queued)
      (tasks : ∀ t, call.store.db.tasks.get t =
        if t = task.id then some (markFailed exc task) else db.tasks.get t)
      (gpus : ∀ slot, call.store.db.gpus.get slot = db.gpus.get slot)
  | started (task : Task) (a : Allocation) (run : AgentRun) (id : ContainerId) (result : Dict)
      (launched : call.launched = some (task, a, run))
      (reply : accepted run = .ok (id, result))
      (left : Started env db call task a id result)

theorem scheduleOne_rows (env : Env) (s : Store) : Rows env s.db (scheduleOne env s) := by
  cases scheduleOne_effect env s with
  | quiet taskLogs launched wrote =>
      apply Rows.kept launched
      · intro t
        rw [wrote]
      · intro slot
        rw [wrote]
  | launch task a found queued selected launched wrote =>
      generalize ContainerManager.launch env.settings env.agent task a = run at launched wrote
      have gpus := settle_gpus env task run selected
      have tasks := settle_tasks env s.db task a run
      have mine : ∀ (f : Task → Task) t, (if t = task.id then (s.db.tasks.get t).map f else s.db.tasks.get t) =
          if t = task.id then some (f task) else s.db.tasks.get t := by
        intro f t
        split
        · rename_i same
          rw [same, found, Option.map_some]
        · rfl
      rw [← wrote] at gpus tasks
      cases reply : accepted run with
      | error exc =>
          simp only [reply, mine] at gpus tasks
          exact .failed task a run exc launched reply found queued tasks gpus
      | ok pair =>
          simp only [reply, mine] at gpus tasks
          exact .started task a run pair.1 pair.2 launched reply ⟨found, queued, selected, tasks, gpus⟩

theorem scheduleOne_started {env : Env} {s : Store} {task : Task} {a : Allocation} {run : AgentRun}
    (launched : (scheduleOne env s).launched = some (task, a, run)) (ok : (accepted run).isOk = true) :
    ∃ id result, Started env s.db (scheduleOne env s) task a id result := by
  cases scheduleOne_rows env s with
  | kept quiet =>
      rw [quiet] at launched
      cases launched
  | failed _ _ _ exc launched' reply =>
      rw [launched'] at launched
      cases launched
      rw [reply] at ok
      cases ok
  | started _ _ _ id result launched' _ left =>
      rw [launched'] at launched
      cases launched
      exact ⟨id, result, left⟩

theorem finishTask_tasks (db : Database) (t t' : TaskId) :
    (finishTask db t).tasks.get t' =
      if t' = t then (db.tasks.get t').map clearGpuIndices else db.tasks.get t' := by
  unfold finishTask
  simp only [GpuAllocator.releaseByTask_tasks]
  split
  · rw [Database.addLog_tasks, Database.updateTask_get, GpuAllocator.releaseByTask_tasks]
  · rename_i missing
    rw [GpuAllocator.releaseByTask_tasks]
    split
    · rename_i same
      subst same
      rw [Option.not_isSome_iff_eq_none.mp missing, Option.map_none]
    · rfl

theorem settle_frame (env : Env) (db : Database) (task : Task) (a : Allocation) (run : AgentRun) :
    (settle env db task a run).nodes = db.nodes ∧
      (settle env db task a run).runningContainers = db.runningContainers ∧
      (settle env db task a run).modelInstances = db.modelInstances := by
  unfold settle
  cases accepted run with
  | ok reply => exact ⟨rfl, rfl, rfl⟩
  | error exc => exact GpuAllocator.release_frame (GpuAllocator.mark db a .allocated) a

theorem finishTask_frame (db : Database) (t : TaskId) :
    (finishTask db t).nodes = db.nodes ∧ (finishTask db t).runningContainers = db.runningContainers := by
  unfold finishTask
  simp only
  split <;> exact GpuAllocator.releaseByTask_frame db t

theorem finishTask_gpus (db : Database) (t : TaskId) :
    (finishTask db t).gpus = (GpuAllocator.releaseByTask db t).gpus := by
  unfold finishTask
  simp only
  split <;> rfl

end Scheduler

end SuitApi
