import SuitApi.BillingService
import SuitApi.Library.Runs
import SuitApi.MonitorService
import SuitApi.NodeService
import SuitApi.TaskService

/-! # The platform as one system

Backend, scheduler and agents share one database, the queues and the containers.
Every operation is one atomic step here; the interleavings inside an operation
are the business of the modules that are about them.  `handle_task_finished`
takes the schedule lock twice and is two steps: the release, and a `_schedule_one`
like any other.
-/

namespace SuitApi

structure World extends Store where
  /-- The task of every call of `ContainerManager.launch`, in order. -/
  launches : List TaskId := []
  /-- The managed containers of all agents, stopped ones included. -/
  containers : List Container := []

abbrev World.row (w : World) (t : TaskId) : Option Task := w.db.tasks.get t

namespace Platform

inductive Op where
  | create (t : TaskId) (now : Time) (user : User) (payload : TaskCreate)
  | submit (fault : QueueService.Fault) (enqueuedAt : String) (user : User) (t : TaskId)
  | cancel (now : Time) (user : User) (t : TaskId)
  | callback (now : Time) (payload : TaskCallbackRequest) (t : TaskId)
  | schedule (env : Scheduler.Env)
  | finished (t : TaskId)
  | markOffline (sweep : MonitorService.Sweep)
  | heartbeat (env : NodeService.Env) (payload : HeartbeatPayload)
  | billing (rate : ℚ)
  /-- Anything else that happens to the lists. -/
  | queues (queues : Queues)
  /-- A container that has not stopped changes its state. -/
  | container (id : ContainerId) (status : ContainerStatus)
  /-- A container is stopped and removed. -/
  | remove (id : ContainerId)

/-- The container a launch started, whatever the scheduler was told about it. -/
def startedContainer (env : Scheduler.Env) :
    Task × Allocation × AgentRun → Option Container
  | (task, a, run) => run.started.map fun id =>
      ContainerTracker.runContainer a.nodeIp id
        (ContainerManager.request env.settings task a (task.containerImage.getD ""))

def schedule (env : Scheduler.Env) (w : World) : World :=
  let call := Scheduler.scheduleOne env w.toStore
  { toStore := call.store
    launches := w.launches ++ (call.launched.map fun launch => launch.1.id).toList
    containers := w.containers ++ (call.launched.bind (startedContainer env)).toList }

/-- The payload the agent builds from a reading at this moment. -/
def buildPayload (reading : HeartbeatPayload) (w : World) : HeartbeatPayload :=
  { reading with runningContainers := ContainerTracker.listManagedContainers reading.ip w.containers }

def setStatus (id : ContainerId) (status : ContainerStatus) (c : Container) : Container :=
  if c.containerId = id ∧ c.alive then { c with status } else c

def exec : Op → World → World
  | .create t now user payload, w =>
      match TaskService.createTask t now user payload w.db with
      | some db => { w with db }
      | none => w
  | .submit fault enqueuedAt user t, w =>
      { w with toStore := (TaskService.submitTask fault enqueuedAt user t w.toStore).2 }
  | .cancel now user t, w => { w with db := (TaskService.cancelTask now user t w.db).2 }
  | .callback now payload t, w => { w with db := (TaskService.handleCallback now payload t w.db).2 }
  | .schedule env, w => schedule env w
  | .finished t, w => if t = "" then w else { w with db := Scheduler.finishTask w.db t }
  | .markOffline sweep, w => { w with db := (MonitorService.markOfflineNodes sweep w.db).1 }
  | .heartbeat env payload, w =>
      match NodeService.handleHeartbeat env payload w.db with
      | some db => { w with db }
      | none => w
  | .billing rate, w =>
      match BillingService.calculateTaskBilling rate w.db with
      | some (db, _) => { w with db }
      | none => w
  | .queues queues, w => { w with queues }
  | .container id status, w => { w with containers := w.containers.map (setStatus id status) }
  | .remove id, w => { w with containers := w.containers.filter fun c => c.containerId ≠ id }

/-- `handle_task_finished` is its locked part followed by a `_schedule_one`. -/
theorem handleTaskFinished_sections (env : Scheduler.Env) (t : TaskId) (w : World) (named : t ≠ "") :
    Scheduler.handleTaskFinished env w.toStore t = (exec (.schedule env) (exec (.finished t) w)).toStore := by
  rw [Scheduler.handleTaskFinished, if_neg named]
  simp only [exec, if_neg named]
  rfl

/-! ## What one step can do to one task row -/

/-- The row of the task `t` before and after a step, and how often the step
    launches `t`. -/
inductive RowStep (t : TaskId) : Op → Option Task → Option Task → Nat → Prop
  | kept (op : Op) (row : Option Task) : RowStep t op row row 0
  | created (now : Time) (user : User) (payload : TaskCreate) (named : t ≠ "") :
      RowStep t (.create t now user payload) none (some (TaskService.newTask t now user payload)) 0
  | submitted (fault : QueueService.Fault) (enqueuedAt : String) (user : User) {task : Task}
      (pending : task.status = .pending) :
      RowStep t (.submit fault enqueuedAt user t) (some task) (some (TaskService.submitted task)) 0
  | cancelled (now : Time) (user : User) {task : Task}
      (waiting : task.status = .pending ∨ task.status = .queued) :
      RowStep t (.cancel now user t) (some task) (some (TaskService.cancelled now task)) 0
  | calledBack (now : Time) (payload : TaskCallbackRequest) (task : Task) :
      RowStep t (.callback now payload t) (some task) (some (TaskService.calledBack now payload task)) 0
  | started (env : Scheduler.Env) {task : Task} (queued : task.status = .queued) (a : Allocation)
      (id : ContainerId) (result : Dict) :
      RowStep t (.schedule env) (some task) (some (Scheduler.markRunning a id env.now result task)) 1
  | failed (env : Scheduler.Env) {task : Task} (queued : task.status = .queued) (exc : String) :
      RowStep t (.schedule env) (some task) (some (Scheduler.markFailed exc task)) 1
  | cleared (task : Task) :
      RowStep t (.finished t) (some task) (some (Scheduler.clearGpuIndices task)) 0
  | lost (sweep : MonitorService.Sweep) {task : Task}
      (hit : task.status = .queued ∨ task.status = .running) :
      RowStep t (.markOffline sweep) (some task) (some (MonitorService.failLost sweep task)) 0
  | billed (rate : ℚ) {task : Task} (success : task.status = .success) :
      RowStep t (.billing rate) (some task) (some (BillingService.markBilled task)) 0

theorem schedule_row (env : Scheduler.Env) (w : World) (t : TaskId) :
    ∃ launched, RowStep t (.schedule env) (w.db.tasks.get t) ((schedule env w).db.tasks.get t) launched ∧
      (schedule env w).launches.count t = w.launches.count t + launched := by
  unfold schedule
  simp only [List.count_append]
  cases Scheduler.scheduleOne_rows env w.toStore with
  | kept launched tasks =>
      rw [launched, tasks]
      exact ⟨0, .kept _ _, rfl⟩
  | failed task a run exc launched _ found queued tasks =>
      rw [launched, tasks]
      by_cases same : t = task.id
      · subst same
        rw [if_pos rfl, found]
        exact ⟨1, .failed env queued exc, by simp⟩
      · rw [if_neg same]
        exact ⟨0, .kept _ _, by simp [Ne.symm same]⟩
  | started task a run id result launched _ left =>
      rw [launched, left.tasks]
      by_cases same : t = task.id
      · subst same
        rw [if_pos rfl, left.found]
        exact ⟨1, .started env left.queued a id result, by simp⟩
      · rw [if_neg same]
        exact ⟨0, .kept _ _, by simp [Ne.symm same]⟩

/-- A step that writes the row of one task keeps every other row. -/
theorem RowStep.only {t u : TaskId} {op : Op} {old new : Option Task} (step : t = u → RowStep t op old new 0) :
    RowStep t op old (if t = u then new else old) 0 := by
  split
  · rename_i same
    exact step same
  · exact .kept _ _

/-- Every step changes every task row in one of the ways of `RowStep`. -/
theorem exec_row (op : Op) (w : World) (t : TaskId) :
    ∃ launched, RowStep t op (w.db.tasks.get t) ((exec op w).db.tasks.get t) launched ∧
      (exec op w).launches.count t = w.launches.count t + launched := by
  cases op with
  | schedule env => exact schedule_row env w t
  | queues queues => exact ⟨0, .kept _ _, rfl⟩
  | container id status => exact ⟨0, .kept _ _, rfl⟩
  | remove id => exact ⟨0, .kept _ _, rfl⟩
  | create id now user payload =>
      simp only [exec]
      split
      · rename_i db created
        obtain ⟨fresh, _, _, row⟩ := TaskService.createTask_get created
        refine ⟨0, ?_, rfl⟩
        simp only [row]
        apply RowStep.only
        rintro rfl
        rw [fresh]
        exact .created now user payload (TaskService.createTask_spec created).1
      · exact ⟨0, .kept _ _, rfl⟩
  | submit fault enqueuedAt user id =>
      refine ⟨0, ?_, rfl⟩
      simp only [exec]
      rcases TaskService.submitTask_cases fault enqueuedAt user id w.toStore with
        same | ⟨task, found, pending, wrote⟩
      · rw [same]
        exact .kept _ _
      · rw [wrote, Database.addLog_tasks, Database.updateTask_get]
        apply RowStep.only
        rintro rfl
        rw [found]
        exact .submitted fault enqueuedAt user pending
  | cancel now user id =>
      refine ⟨0, ?_, rfl⟩
      simp only [exec]
      rcases TaskService.cancelTask_cases now user id w.db with same | ⟨task, found, waiting, wrote⟩
      · rw [same]
        exact .kept _ _
      · rw [wrote, Database.addLog_tasks, Database.updateTask_get]
        apply RowStep.only
        rintro rfl
        rw [found]
        exact .cancelled now user waiting
  | callback now payload id =>
      refine ⟨0, ?_, rfl⟩
      simp only [exec, TaskService.handleCallback_tasks]
      apply RowStep.only
      rintro rfl
      cases w.db.tasks.get t with
      | none => exact .kept _ _
      | some task => exact .calledBack now payload task
  | finished id =>
      simp only [exec]
      split
      · exact ⟨0, .kept _ _, rfl⟩
      · refine ⟨0, ?_, rfl⟩
        simp only [Scheduler.finishTask_tasks]
        apply RowStep.only
        rintro rfl
        cases w.db.tasks.get t with
        | none => exact .kept _ _
        | some task => exact .cleared task
  | markOffline sweep =>
      refine ⟨0, ?_, rfl⟩
      simp only [exec, MonitorService.markOfflineNodes_tasks]
      cases w.db.tasks.get t with
      | none => exact .kept _ _
      | some task =>
          rw [Option.map_some]
          split
          · rename_i impacted
            exact .lost sweep (MonitorService.impacted_status impacted)
          · exact .kept _ _
  | heartbeat env payload =>
      simp only [exec]
      split
      · rename_i db handled
        obtain ⟨node, nodes, spec⟩ := NodeService.handleHeartbeat_spec handled
        refine ⟨0, ?_, rfl⟩
        simp only [spec.tasks]
        exact .kept _ _
      · exact ⟨0, .kept _ _, rfl⟩
  | billing rate =>
      simp only [exec]
      split
      · rename_i db _ done
        obtain ⟨records, _, _, _, fates⟩ := BillingService.calculateTaskBilling_spec done
        refine ⟨0, ?_, rfl⟩
        cases fates t with
        | untouched outside same none =>
            rw [same]
            exact .kept _ _
        | processed task inside here billed outcome row =>
            obtain ⟨member, selected⟩ := List.mem_filter.mp inside
            have found : w.db.tasks.get t = some task := here ▸ Table.get_of_mem member
            rw [row, found]
            cases billed with
            | false => exact .kept _ _
            | true => exact .billed rate (BillingService.billable_status selected)
      · exact ⟨0, .kept _ _, rfl⟩

/-! ## What one step leaves alone -/

/-- Which node answers at which address. -/
def addresses (db : Database) : List (NodeId × String) := db.nodes.rows.map fun node => (node.id, node.ip)

theorem schedule_frame (env : Scheduler.Env) (w : World) :
    (schedule env w).db.nodes = w.db.nodes ∧
      (schedule env w).db.runningContainers = w.db.runningContainers := by
  unfold schedule
  cases Scheduler.scheduleOne_effect env w.toStore with
  | quiet taskLogs launched wrote =>
      rw [wrote]
      exact ⟨rfl, rfl⟩
  | launch task a found queued selected launched wrote =>
      rw [wrote]
      obtain ⟨nodes, containers, _⟩ := Scheduler.settle_frame env w.db task a
        (ContainerManager.launch env.settings env.agent task a)
      exact ⟨nodes, containers⟩

/-- Only a heartbeat moves a node or writes container rows. -/
theorem exec_frame (op : Op) (w : World) (quiet : ∀ env payload, op ≠ .heartbeat env payload) :
    addresses (exec op w).db = addresses w.db ∧
      (exec op w).db.runningContainers = w.db.runningContainers := by
  cases op with
  | heartbeat env payload => exact absurd rfl (quiet env payload)
  | queues | container | remove => exact ⟨rfl, rfl⟩
  | schedule env =>
      obtain ⟨nodes, containers⟩ := schedule_frame env w
      exact ⟨congrArg (fun table => table.rows.map fun node : Node => (node.id, node.ip)) nodes, containers⟩
  | create t now user payload =>
      simp only [exec]
      split
      · rename_i db created
        obtain ⟨_, tasks, inserted, rfl⟩ := TaskService.createTask_spec created
        exact ⟨rfl, rfl⟩
      · exact ⟨rfl, rfl⟩
  | submit fault enqueuedAt user t =>
      simp only [exec]
      rcases TaskService.submitTask_cases fault enqueuedAt user t w.toStore with same | ⟨_, _, _, wrote⟩
      · rw [same]
        exact ⟨rfl, rfl⟩
      · rw [wrote]
        exact ⟨rfl, rfl⟩
  | cancel now user t =>
      simp only [exec]
      rcases TaskService.cancelTask_cases now user t w.db with same | ⟨_, _, _, wrote⟩
      · rw [same]
        exact ⟨rfl, rfl⟩
      · rw [wrote]
        exact ⟨rfl, rfl⟩
  | callback now payload t =>
      simp only [exec, TaskService.handleCallback]
      cases w.db.tasks.get t <;> exact ⟨rfl, rfl⟩
  | finished t =>
      simp only [exec]
      split
      · exact ⟨rfl, rfl⟩
      · obtain ⟨nodes, containers⟩ := Scheduler.finishTask_frame w.db t
        exact ⟨congrArg (fun table => table.rows.map fun node : Node => (node.id, node.ip)) nodes, containers⟩
  | markOffline sweep =>
      simp only [exec, MonitorService.markOfflineNodes]
      split
      · exact ⟨rfl, rfl⟩
      · exact ⟨Table.map_updateWhere _ _ _ MonitorService.offlineNode_id _ fun node _ _ => rfl, rfl⟩
  | billing rate =>
      simp only [exec]
      split
      · rename_i db _ done
        obtain ⟨_, _, _, nodes, _⟩ := BillingService.calculateTaskBilling_spec done
        exact ⟨congrArg (fun table => table.rows.map fun node : Node => (node.id, node.ip)) nodes,
          BillingService.calculateTaskBilling_runningContainers done⟩
      · exact ⟨rfl, rfl⟩

/-- The scheduler, the monitor and the heartbeats write GPU rows. -/
def Op.writesGpus : Op → Bool
  | .schedule _ | .finished _ | .markOffline _ | .heartbeat _ _ => true
  | _ => false

theorem exec_gpus (op : Op) (w : World) (quiet : op.writesGpus = false) : (exec op w).db.gpus = w.db.gpus := by
  cases op with
  | schedule | finished | markOffline | heartbeat => cases quiet
  | queues | container | remove => rfl
  | callback now payload t => exact TaskService.handleCallback_gpus now payload t w.db
  | create t now user payload =>
      simp only [exec]
      split
      · rename_i created
        exact (TaskService.createTask_get created).2.1
      · rfl
  | submit fault enqueuedAt user t =>
      simp only [exec]
      rcases TaskService.submitTask_cases fault enqueuedAt user t w.toStore with same | ⟨_, _, _, wrote⟩
      · rw [same]
      · rw [wrote, Database.addLog_gpus, Database.updateTask_gpus]
  | cancel now user t =>
      simp only [exec]
      rcases TaskService.cancelTask_cases now user t w.db with same | ⟨_, _, _, wrote⟩
      · rw [same]
      · rw [wrote, Database.addLog_gpus, Database.updateTask_gpus]
  | billing rate =>
      simp only [exec]
      split
      · rename_i done
        obtain ⟨_, _, gpus, _⟩ := BillingService.calculateTaskBilling_spec done
        exact gpus
      · rfl

/-- Only `_schedule_one` starts containers here, and each carries the id of the task
    it starts. -/
theorem exec_containers (op : Op) (w : World) {c : Container} (inside : c ∈ (exec op w).containers) :
    (∃ old ∈ w.containers, c.taskId = old.taskId) ∨
      ∃ t, c.taskId = some t ∧ (w.db.tasks.get t).isSome = true := by
  cases op with
  | schedule env =>
      cases Scheduler.scheduleOne_effect env w.toStore with
      | quiet taskLogs launched wrote =>
          simp only [exec, schedule, launched, Option.bind_none, Option.toList_none, List.append_nil] at inside
          exact .inl ⟨c, inside, rfl⟩
      | launch task a found queued selected launched wrote =>
          simp only [exec, schedule, launched, Option.bind_some] at inside
          rcases List.mem_append.mp inside with old | new
          · exact .inl ⟨c, old, rfl⟩
          · rw [Option.mem_toList, startedContainer] at new
            obtain ⟨id, _, rfl⟩ := Option.map_eq_some_iff.mp new
            exact .inr ⟨task.id, rfl, by rw [found]; rfl⟩
  | container id status =>
      obtain ⟨old, member, rfl⟩ := List.mem_map.mp inside
      left
      refine ⟨old, member, ?_⟩
      unfold setStatus
      split <;> rfl
  | remove id => exact .inl ⟨c, List.mem_of_mem_filter inside, rfl⟩
  | create | heartbeat | billing | finished =>
      left
      simp only [exec] at inside
      split at inside <;> exact ⟨c, inside, rfl⟩
  | submit | cancel | callback | markOffline | queues => exact .inl ⟨c, inside, rfl⟩

/-! ## A small platform

One node with one GPU, whose agent starts what it is asked to start.
-/

namespace Sample

def user : User := { id := "u" }

def payload : TaskCreate where
  name := "job"
  taskType := "train"
  containerImage := "image"
  containerCommand := "run"

def beat (now : Time) (containers : List RunningContainerInfo) : Op :=
  .heartbeat { nodeId := "n1", now } {
    hostname := "n1"
    ip := "10.0.0.1"
    gpus := [{ index := 0, model := "A100" }]
    runningContainers := containers }

def env (id : ContainerId) (now : Time) : Scheduler.Env where
  agent := fun _ => { started := some id, response := .ok [("container_id", .str id)] }
  now := now

def launch (t : TaskId) (id : ContainerId) (now : Time) : List Op :=
  [.create t now user payload, .submit .none "" user t, .schedule (env id now)]

def callback (now : Time) (status : CallbackStatus) (t : TaskId) : Op := .callback now { status } t

end Sample

end Platform

end SuitApi
