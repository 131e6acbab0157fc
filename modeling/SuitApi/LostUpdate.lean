import SuitApi.Library.Overlap
import SuitApi.Platform

/-! # Two operations on one task

`submit_task`, `cancel_task`, `handle_callback` and `_schedule_one` read the row of
a task without a lock, decide, and commit the columns they have changed.  The
scheduler does so around a launch that may take half a minute.  What an operation
leaves, when others have committed since it read the row, is compared with what the
serial orders leave.
-/

namespace SuitApi.LostUpdate

open Overlap Platform

inductive TaskOp where
  | submit (fault : QueueService.Fault) (enqueuedAt : String) (user : User)
  | cancel (now : Time) (user : User)
  | callback (now : Time) (payload : TaskCallbackRequest)
  | schedule (env : Scheduler.Env) (fields : Dict)

/-- The rows an operation commits on its own; what it does to the lists does not
    depend on what they hold and is left out. -/
def outcome (t : TaskId) : TaskOp → Database → Database
  | .submit fault enqueuedAt user, db =>
      (TaskService.submitTask fault enqueuedAt user t { db, queues := {} }).2.db
  | .cancel now user, db => (TaskService.cancelTask now user t db).2
  | .callback now payload, db => (TaskService.handleCallback now payload t db).2
  | .schedule env fields, db =>
      match Scheduler.planTask db fields t with
      | .launch task a =>
          Scheduler.settle env db task a (ContainerManager.launch env.settings env.agent task a)
      | .requeue task _ _ =>
          db.addLog task.id "system" "No available GPU or online node, task requeued."
      | _ => db

/-- The columns of a task that these operations change, written where they have
    changed since the row was read. -/
def commitRow (read mine current : Task) : Task :=
  { current with
    status := column read.status mine.status current.status
    assignedNodeId := column read.assignedNodeId mine.assignedNodeId current.assignedNodeId
    assignedGpuIndices := column read.assignedGpuIndices mine.assignedGpuIndices current.assignedGpuIndices
    containerId := column read.containerId mine.containerId current.containerId
    resultJson := column read.resultJson mine.resultJson current.resultJson
    startedAt := column read.startedAt mine.startedAt current.startedAt
    finishedAt := column read.finishedAt mine.finishedAt current.finishedAt }

theorem commitRow_id (read mine current : Task) : (commitRow read mine current).id = current.id := rfl

/-- How a launch of the queued task ends, if there is a place for it. -/
def launchReply (env : Scheduler.Env) (db : Database) (task : Task) :
    Option (Allocation × Except String (ContainerId × Dict)) :=
  if task.status = .queued then
    (GpuAllocator.select db task (Scheduler.getOnlineNodes db)).map fun a =>
      (a, Scheduler.accepted (ContainerManager.launch env.settings env.agent task a))
  else none

/-- The GPUs that the operation marks: those of a launch that the agent has accepted. -/
def granted (t : TaskId) (op : TaskOp) (read : Database) : Option Allocation :=
  match op, read.tasks.get t with
  | .schedule env _, some task =>
      match launchReply env read task with
      | some (a, .ok _) => some a
      | _ => none
  | _, _ => none

/-- One commit. -/
def commit (t : TaskId) (op : TaskOp) : Commit Database := fun read current =>
  { current with
    tasks := match read.tasks.get t, (outcome t op read).tasks.get t with
      | some row, some written =>
          current.tasks.update t (commitRow row written) (commitRow_id row written)
      | _, _ => current.tasks
    gpus := match granted t op read with
      | some a => (GpuAllocator.mark current a .allocated).gpus
      | none => current.gpus
    taskLogs := current.taskLogs ++ (outcome t op read).taskLogs.drop read.taskLogs.length }

/-! ## One operation -/

/-- The operation passes its guards and writes. -/
def Acts (op : TaskOp) (db : Database) (task : Task) : Prop :=
  match op with
  | .submit fault _ user => fault = .none ∧ TaskService.Owned user task ∧ task.status = .pending
  | .cancel _ user => TaskService.Owned user task ∧ (task.status = .pending ∨ task.status = .queued)
  | .callback _ _ => True
  | .schedule env _ => (launchReply env db task).isSome = true

instance : ∀ (op : TaskOp) (db : Database) (task : Task), Decidable (Acts op db task)
  | .submit _ _ _, _, _ => inferInstanceAs (Decidable (_ ∧ _ ∧ _))
  | .cancel _ _, _, _ => inferInstanceAs (Decidable (_ ∧ (_ ∨ _)))
  | .callback _ _, _, _ => inferInstanceAs (Decidable True)
  | .schedule _ _, _, _ => inferInstanceAs (Decidable (_ = true))

/-- What an operation that acts makes of the row. -/
def written (op : TaskOp) (db : Database) (task : Task) : Task :=
  match op with
  | .submit _ _ _ => TaskService.submitted task
  | .cancel now _ => TaskService.cancelled now task
  | .callback now payload => TaskService.calledBack now payload task
  | .schedule env _ =>
      match launchReply env db task with
      | some (a, .ok (id, result)) => Scheduler.markRunning a id env.now result task
      | some (_, .error exc) => Scheduler.markFailed exc task
      | none => task

def effect (op : TaskOp) (db : Database) (task : Task) : Task :=
  if Acts op db task then written op db task else task

theorem effect_acting {op : TaskOp} {db : Database} {task : Task} (acts : Acts op db task) :
    effect op db task = written op db task := if_pos acts

theorem effect_idle {op : TaskOp} {db : Database} {task : Task} (idle : ¬ Acts op db task) :
    effect op db task = task := if_neg idle

theorem updated_row {db : Database} {t : TaskId} {task : Task} (found : db.tasks.get t = some task)
    (f : Task → Task) (keeps : ∀ task, (f task).id = task.id) :
    (db.updateTask t f keeps).tasks.get t = some (f task) := by
  rw [Database.updateTask_get, if_pos rfl, found, Option.map_some]

theorem outcome_submit_row {t : TaskId} {db : Database} {task : Task} (found : db.tasks.get t = some task)
    (fault : QueueService.Fault) (enqueuedAt : String) (user : User) :
    (outcome t (.submit fault enqueuedAt user) db).tasks.get t =
      some (effect (.submit fault enqueuedAt user) db task) := by
  have here : task.id = t := Table.key_of_get found
  subst here
  simp only [outcome, TaskService.submitTask, TaskService.getOwnedTask_eq found, effect, Acts, written]
  by_cases owned : TaskService.Owned user task
  · by_cases pending : task.status = .pending
    · cases fault with
      | none => simpa [owned, pending, TaskService.submitGuard, QueueService.enqueueTask] using
          updated_row found TaskService.submitted TaskService.submitted_id
      | lpush | publish =>
          simpa [owned, pending, TaskService.submitGuard, QueueService.enqueueTask] using found
    · simpa [owned, pending, TaskService.submitGuard] using found
  · simpa [owned] using found

theorem outcome_cancel_row {t : TaskId} {db : Database} {task : Task} (found : db.tasks.get t = some task)
    (now : Time) (user : User) :
    (outcome t (.cancel now user) db).tasks.get t = some (effect (.cancel now user) db task) := by
  have here : task.id = t := Table.key_of_get found
  subst here
  simp only [outcome, TaskService.cancelTask, TaskService.getOwnedTask_eq found, effect, Acts, written]
  by_cases owned : TaskService.Owned user task
  · by_cases waiting : task.status = .pending ∨ task.status = .queued
    · simpa [owned, waiting, TaskService.cancelGuard] using
        updated_row found (TaskService.cancelled now) (TaskService.cancelled_id now)
    · simpa [owned, waiting, TaskService.cancelGuard] using found
  · simpa [owned] using found

/-- `_schedule_one` on a task that it finds: a launch, with this reply, or nothing
    but a log line. -/
theorem outcome_schedule {t : TaskId} {db : Database} {task : Task} (found : db.tasks.get t = some task)
    (env : Scheduler.Env) (fields : Dict) :
    (launchReply env db task = none ∧
        ∃ taskLogs, outcome t (.schedule env fields) db = { db with taskLogs }) ∨
      ∃ a, task.status = .queued ∧ GpuAllocator.Selected db (Scheduler.getOnlineNodes db) a ∧
        launchReply env db task =
          some (a, Scheduler.accepted (ContainerManager.launch env.settings env.agent task a)) ∧
        outcome t (.schedule env fields) db = Scheduler.settle env db task a
          (ContainerManager.launch env.settings env.agent task a) := by
  have here : task.id = t := Table.key_of_get found
  subst here
  by_cases queued : task.status = .queued
  · cases chosen : GpuAllocator.select db task (Scheduler.getOnlineNodes db) with
    | none =>
        refine .inl ⟨by simp [launchReply, chosen], ?_⟩
        cases priority : QueueManager.requeuePriority fields with
        | none => exact ⟨db.taskLogs, by simp [outcome, Scheduler.planTask, found, queued, chosen, priority]⟩
        | some priority' =>
            refine ⟨db.taskLogs ++
              [⟨task.id, "system", "No available GPU or online node, task requeued."⟩], ?_⟩
            simp [outcome, Scheduler.planTask, found, queued, chosen, priority, Database.addLog]
    | some a =>
        refine .inr ⟨a, queued, GpuAllocator.select_spec chosen, ?_, ?_⟩
        · simp [launchReply, queued, chosen]
        · simp [outcome, Scheduler.planTask, found, queued, chosen]
  · refine .inl ⟨by simp [launchReply, queued], db.taskLogs, ?_⟩
    simp [outcome, Scheduler.planTask, found, queued]

theorem outcome_schedule_row {t : TaskId} {db : Database} {task : Task} (found : db.tasks.get t = some task)
    (env : Scheduler.Env) (fields : Dict) :
    (outcome t (.schedule env fields) db).tasks.get t = some (effect (.schedule env fields) db task) := by
  rcases outcome_schedule found env fields with ⟨nothing, _, same⟩ | ⟨a, queued, _, reply, same⟩
  · rw [same, effect, if_neg (by simp [Acts, nothing])]
    exact found
  · have here : task.id = t := Table.key_of_get found
    subst here
    rw [same, Scheduler.settle_tasks, if_pos rfl, found, effect, if_pos (by simp [Acts, reply])]
    simp only [written, reply, Option.map_some]
    cases Scheduler.accepted (ContainerManager.launch env.settings env.agent task a) <;> rfl

theorem outcome_row {t : TaskId} {db : Database} {task : Task} (op : TaskOp)
    (found : db.tasks.get t = some task) : (outcome t op db).tasks.get t = some (effect op db task) := by
  cases op with
  | submit fault enqueuedAt user => exact outcome_submit_row found fault enqueuedAt user
  | cancel now user => exact outcome_cancel_row found now user
  | callback now payload =>
      simp [outcome, TaskService.handleCallback_tasks, found, effect, Acts, written]
  | schedule env fields => exact outcome_schedule_row found env fields

theorem commitRow_unchanged (read current : Task) : commitRow read read current = current := by
  simp [commitRow]

/-- The operations change no other column. -/
theorem commitRow_alone (op : TaskOp) (db : Database) (task : Task) :
    commitRow task (effect op db task) task = effect op db task := by
  unfold effect
  split
  · cases op with
    | submit | cancel => simp [commitRow, written, TaskService.submitted, TaskService.cancelled]
    | callback now payload =>
        simp only [commitRow, written, TaskService.calledBack]
        cases payload.status <;> simp
    | schedule env fields =>
        simp only [commitRow, written]
        split <;> simp [Scheduler.markRunning, Scheduler.markFailed]
  · exact commitRow_unchanged task task

/-! ## Two operations -/

theorem commit_row {t : TaskId} {read current : Database} {row now : Task} (op : TaskOp)
    (found : read.tasks.get t = some row) (here : current.tasks.get t = some now) :
    (commit t op read current).tasks.get t = some (commitRow row (effect op read row) now) := by
  simp only [commit, found, outcome_row op found]
  rw [Table.get_update _ _ _ (commitRow_id _ _), if_pos rfl, here, Option.map_some]

theorem alone_row {t : TaskId} {db : Database} {task : Task} (op : TaskOp)
    (found : db.tasks.get t = some task) :
    (alone (commit t op) db).tasks.get t = some (effect op db task) := by
  rw [alone, commit_row op found found, commitRow_alone]

/-- Both have read `task`, and `first` has committed before `second`. -/
theorem overlap_row {t : TaskId} {db : Database} {task : Task} (first second : TaskOp)
    (found : db.tasks.get t = some task) :
    (commit t second db (alone (commit t first) db)).tasks.get t =
      some (commitRow task (effect second db task) (effect first db task)) :=
  commit_row second found (alone_row first found)

theorem serial_row {t : TaskId} {db : Database} {task : Task} (first second : TaskOp)
    (found : db.tasks.get t = some task) :
    (alone (commit t second) (alone (commit t first) db)).tasks.get t =
      some (effect second (alone (commit t first) db) (effect first db task)) :=
  alone_row second (alone_row first found)

def TaskOp.schedules : TaskOp → Bool
  | .schedule _ _ => true
  | _ => false

theorem granted_other {op : TaskOp} (other : op.schedules = false) (t : TaskId) (read : Database) :
    granted t op read = none := by
  cases op with
  | schedule => cases other
  | submit | cancel | callback => rfl

theorem granted_schedule {t : TaskId} {db : Database} {task : Task} (found : db.tasks.get t = some task)
    (env : Scheduler.Env) (fields : Dict) :
    granted t (.schedule env fields) db =
      match launchReply env db task with
      | some (a, .ok _) => some a
      | _ => none := by
  simp only [granted, found]

theorem commit_gpus_none {t : TaskId} {op : TaskOp} {read : Database} (nothing : granted t op read = none)
    (current : Database) : (commit t op read current).gpus = current.gpus := by
  simp only [commit, nothing]

theorem commit_gpus {op : TaskOp} (other : op.schedules = false) (t : TaskId) (read current : Database) :
    (commit t op read current).gpus = current.gpus := commit_gpus_none (granted_other other t read) current

/-- A commit does the same to the same GPU rows. -/
theorem commit_gpus_congr {t : TaskId} {op : TaskOp} {read read' current current' : Database}
    (same : granted t op read = granted t op read') (gpus : current.gpus = current'.gpus) :
    (commit t op read current).gpus = (commit t op read' current').gpus := by
  simp only [commit, same, GpuAllocator.mark, gpus]

/-- The choice of the scheduler depends on the nodes and the GPU rows. -/
theorem launchReply_congr {db db' : Database} (gpus : db'.gpus = db.gpus) (nodes : db'.nodes = db.nodes)
    (env : Scheduler.Env) (task : Task) : launchReply env db' task = launchReply env db task := by
  simp only [launchReply, GpuAllocator.select, GpuAllocator.candidates, GpuAllocator.filteredGpus,
    GpuAllocator.availableGpus, GpuAllocator.selectNodeForCpuTask, Scheduler.getOnlineNodes, gpus, nodes]

theorem effect_congr {db db' : Database} (gpus : db'.gpus = db.gpus) (nodes : db'.nodes = db.nodes)
    (op : TaskOp) (task : Task) : effect op db' task = effect op db task := by
  cases op with
  | submit | cancel | callback => rfl
  | schedule env fields =>
      have reply := launchReply_congr gpus nodes env task
      by_cases acts : Acts (.schedule env fields) db task
      · rw [effect_acting acts, effect_acting (by rwa [Acts, reply])]
        simp only [written, reply]
      · rw [effect_idle acts, effect_idle (by rwa [Acts, reply])]

/-- Only the scheduler looks at more than the row. -/
theorem effect_other {op : TaskOp} (other : op.schedules = false) (db db' : Database) (task : Task) :
    effect op db' task = effect op db task := by
  cases op with
  | schedule => cases other
  | submit | cancel | callback => rfl

/-- A task that has left the queue is skipped. -/
theorem effect_schedule_left (env : Scheduler.Env) (fields : Dict) (db : Database) {task : Task}
    (left : task.status ≠ .queued) : effect (.schedule env fields) db task = task := by
  simp [effect, Acts, launchReply, left]

/-! ## One of the two writes nothing -/

/-- The same committed row of the task, and the same GPU rows. -/
def Same (t : TaskId) (db db' : Database) : Prop :=
  db.tasks.get t = db'.tasks.get t ∧ ∀ slot, db.gpus.get slot = db'.gpus.get slot

theorem Same.refl (t : TaskId) (db : Database) : Same t db db := ⟨rfl, fun _ => rfl⟩

theorem Same.symm {t : TaskId} {db db' : Database} (same : Same t db db') : Same t db' db :=
  ⟨same.1.symm, fun slot => (same.2 slot).symm⟩

theorem Same.trans {t : TaskId} {db db' db'' : Database} (first : Same t db db') (second : Same t db' db'') :
    Same t db db'' :=
  ⟨first.1.trans second.1, fun slot => (first.2 slot).trans (second.2 slot)⟩

theorem schedule_gpus {t : TaskId} {db : Database} {task : Task} (found : db.tasks.get t = some task)
    (env : Scheduler.Env) (fields : Dict) (slot : NodeId × Int) :
    (outcome t (.schedule env fields) db).gpus.get slot =
      match launchReply env db task with
      | some (a, .ok _) => (GpuAllocator.mark db a .allocated).gpus.get slot
      | _ => db.gpus.get slot := by
  rcases outcome_schedule found env fields with ⟨nothing, _, same⟩ | ⟨a, _, selected, reply, same⟩
  · rw [same, nothing]
  · rw [same, Scheduler.settle_gpus env task _ selected, reply]
    cases Scheduler.accepted (ContainerManager.launch env.settings env.agent task a) <;> rfl

theorem granted_idle {t : TaskId} {op : TaskOp} {db : Database} {task : Task}
    (found : db.tasks.get t = some task) (idle : ¬ Acts op db task) : granted t op db = none := by
  cases op with
  | submit | cancel | callback => rfl
  | schedule env fields =>
      have nothing : launchReply env db task = none := Option.not_isSome_iff_eq_none.mp idle
      rw [granted_schedule found, nothing]

theorem alone_gpus_idle {t : TaskId} {op : TaskOp} {db : Database} {task : Task}
    (found : db.tasks.get t = some task) (idle : ¬ Acts op db task) :
    (alone (commit t op) db).gpus = db.gpus := commit_gpus_none (granted_idle found idle) db

/-- An operation does the same in two stores that agree on what it looks at. -/
theorem alone_same {t : TaskId} {db db' : Database} {task : Task} (op : TaskOp)
    (found : db.tasks.get t = some task) (found' : db'.tasks.get t = some task) (gpus : db'.gpus = db.gpus)
    (nodes : db'.nodes = db.nodes) : Same t (alone (commit t op) db') (alone (commit t op) db) := by
  constructor
  · rw [alone_row op found, alone_row op found', effect_congr gpus nodes]
  · intro slot
    cases op with
    | submit | cancel | callback => exact congrArg (fun table => table.get slot) gpus
    | schedule env fields =>
        have same : granted t (.schedule env fields) db' = granted t (.schedule env fields) db := by
          rw [granted_schedule found', granted_schedule found, launchReply_congr gpus nodes]
        rw [alone, alone, commit_gpus_congr same gpus]

/-- Nothing is lost where one of the two has nothing to write. -/
theorem serial_of_idle {t : TaskId} {db : Database} {task : Task} (first second : TaskOp)
    (found : db.tasks.get t = some task) (idle : ¬ Acts first db task ∨ ¬ Acts second db task) :
    Same t (commit t second db (alone (commit t first) db))
        (alone (commit t second) (alone (commit t first) db)) ∨
      Same t (commit t second db (alone (commit t first) db))
        (alone (commit t first) (alone (commit t second) db)) := by
  have row := overlap_row first second found
  rcases idle with idle | idle
  · left
    have kept := alone_row first found
    rw [effect_idle idle] at kept row
    rw [commitRow_alone] at row
    have gpus := alone_gpus_idle found idle
    refine .trans ⟨?_, fun slot => ?_⟩ (alone_same second found kept gpus rfl).symm
    · rw [row, alone_row second found]
    · exact congrArg (fun table => table.get slot) (commit_gpus_congr rfl gpus)
  · right
    have kept := alone_row second found
    rw [effect_idle idle] at kept row
    rw [commitRow_unchanged] at row
    have gpus := alone_gpus_idle found idle
    refine .trans ⟨?_, fun slot => ?_⟩ (alone_same first found kept gpus rfl).symm
    · rw [row, alone_row first found]
    · rw [commit_gpus_none (granted_idle found idle)]

/-! ## Both of them write -/

/-- The columns of a task that no operation has started, ended or placed. -/
structure Blank (task : Task) : Prop where
  assignedNodeId : task.assignedNodeId = none
  containerId : task.containerId = none
  resultJson : task.resultJson = none
  startedAt : task.startedAt = none
  finishedAt : task.finishedAt = none

/-- A task that waits has not been started, ended or placed. -/
def WaitsBlank (task : Task) : Prop := task.status = .pending ∨ task.status = .queued → Blank task

/-! Two callbacks. -/

def setStatus (payload : TaskCallbackRequest) : Option TaskStatus := some payload.status.taskStatus

def setContainerId (payload : TaskCallbackRequest) : Option (Option ContainerId) :=
  (truthyText payload.containerId).map some

def setFinishedAt (now : Time) (payload : TaskCallbackRequest) : Option (Option Time) :=
  if payload.status = .running then none else some (some now)

def setResultJson (payload : TaskCallbackRequest) : Option (Option Dict) :=
  if payload.status = .running then none else some (some (TaskService.callbackResult payload))

/-- A `running` callback sets the start only where there is none. -/
def startOf (now : Time) (payload : TaskCallbackRequest) (startedAt : Option Time) : Option Time :=
  if payload.status = .running then startedAt.or (some now) else startedAt

theorem calledBack_eq (now : Time) (payload : TaskCallbackRequest) (task : Task) :
    TaskService.calledBack now payload task =
      { task with
        status := (setStatus payload).getD task.status
        containerId := (setContainerId payload).getD task.containerId
        resultJson := (setResultJson payload).getD task.resultJson
        startedAt := startOf now payload task.startedAt
        finishedAt := (setFinishedAt now payload).getD task.finishedAt } := by
  have container :
      TaskService.withContainer payload task = (setContainerId payload).getD task.containerId := by
    unfold TaskService.withContainer setContainerId
    cases truthyText payload.containerId <;> rfl
  simp only [TaskService.calledBack, setStatus, setResultJson, startOf, setFinishedAt, ← container]
  cases payload.status <;> simp [CallbackStatus.taskStatus]

/-- Every column that both callbacks set ends with the value of the later one. -/
structure LaterCallbackStands (task : Task) (now : Time) (first : TaskCallbackRequest) (now' : Time)
    (second : TaskCallbackRequest) : Prop where
  status : LaterStands task.status (setStatus first) (setStatus second)
  containerId : LaterStands task.containerId (setContainerId first) (setContainerId second)
  resultJson : LaterStands task.resultJson (setResultJson first) (setResultJson second)
  startedAt : first.status = .running → second.status = .running → task.startedAt = none → now = now'
  finishedAt : LaterStands task.finishedAt (setFinishedAt now first) (setFinishedAt now' second)

/-- Every column that both callbacks set ends with the value of the earlier one, but
    for the start, which is that of the later one in the other order, too. -/
structure EarlierCallbackStands (task : Task) (now : Time) (first : TaskCallbackRequest) (now' : Time)
    (second : TaskCallbackRequest) : Prop where
  status : EarlierStands task.status (setStatus first) (setStatus second)
  containerId : EarlierStands task.containerId (setContainerId first) (setContainerId second)
  resultJson : EarlierStands task.resultJson (setResultJson first) (setResultJson second)
  finishedAt : EarlierStands task.finishedAt (setFinishedAt now first) (setFinishedAt now' second)

theorem later_start_iff (startedAt : Option Time) (now : Time) (first : TaskCallbackRequest) (now' : Time)
    (second : TaskCallbackRequest) :
    column startedAt (startOf now' second startedAt) (startOf now first startedAt) =
        startOf now' second (startOf now first startedAt) ↔
      (first.status = .running → second.status = .running → startedAt = none → now = now') := by
  unfold startOf
  cases startedAt with
  | some start => simp
  | none =>
      by_cases running : first.status = .running
      · by_cases running' : second.status = .running
        · simp [running, running', column_changed, eq_comm]
        · simp [running, running']
      · simp [running]

theorem earlier_start (startedAt : Option Time) (now : Time) (first : TaskCallbackRequest) (now' : Time)
    (second : TaskCallbackRequest) :
    column startedAt (startOf now' second startedAt) (startOf now first startedAt) =
      startOf now first (startOf now' second startedAt) := by
  unfold startOf
  cases startedAt with
  | some start => simp
  | none =>
      by_cases running : first.status = .running
      · by_cases running' : second.status = .running
        · simp [running, running', column_changed]
        · simp [running, running']
      · simp [running]

theorem later_callback_iff (task : Task) (now : Time) (first : TaskCallbackRequest) (now' : Time)
    (second : TaskCallbackRequest) :
    commitRow task (TaskService.calledBack now' second task) (TaskService.calledBack now first task) =
        TaskService.calledBack now' second (TaskService.calledBack now first task) ↔
      LaterCallbackStands task now first now' second := by
  simp only [calledBack_eq, commitRow, Task.mk.injEq, column_later_iff, later_start_iff, column_unchanged,
    true_and]
  constructor
  · rintro ⟨status, containerId, resultJson, startedAt, finishedAt⟩
    exact ⟨status, containerId, resultJson, startedAt, finishedAt⟩
  · rintro ⟨status, containerId, resultJson, startedAt, finishedAt⟩
    exact ⟨status, containerId, resultJson, startedAt, finishedAt⟩

theorem earlier_callback_iff (task : Task) (now : Time) (first : TaskCallbackRequest) (now' : Time)
    (second : TaskCallbackRequest) :
    commitRow task (TaskService.calledBack now' second task) (TaskService.calledBack now first task) =
        TaskService.calledBack now first (TaskService.calledBack now' second task) ↔
      EarlierCallbackStands task now first now' second := by
  simp only [calledBack_eq, commitRow, Task.mk.injEq, column_earlier_iff, earlier_start, column_unchanged,
    true_and]
  constructor
  · rintro ⟨status, containerId, resultJson, finishedAt⟩
    exact ⟨status, containerId, resultJson, finishedAt⟩
  · rintro ⟨status, containerId, resultJson, finishedAt⟩
    exact ⟨status, containerId, resultJson, finishedAt⟩

/-! Operations that do not schedule. -/

theorem commitRow_alike (read mine : Task) : commitRow read mine mine = mine := by simp [commitRow]

theorem taskStatus_left (status : CallbackStatus) :
    status.taskStatus ≠ .pending ∧ status.taskStatus ≠ .queued ∧ status.taskStatus ≠ .cancelled := by
  cases status <;> decide

/-- A callback overwrites what an operation on a waiting task has set, and what it
    does not set it leaves. -/
theorem callback_over {α : Type} [DecidableEq α] (read : Option α) (blank : read = none)
    (set : Option (Option α)) (some_set : ∀ v, set = some v → v ≠ none) (current : Option α) :
    column read (set.getD read) current = set.getD current := by
  subst blank
  cases set with
  | none => simp
  | some v => exact column_changed (some_set v rfl) current

theorem setContainerId_some {payload : TaskCallbackRequest} {v : Option ContainerId}
    (set : setContainerId payload = some v) : v ≠ none := by
  obtain ⟨id, _, rfl⟩ := Option.map_eq_some_iff.mp set
  exact Option.some_ne_none id

theorem setResultJson_some {payload : TaskCallbackRequest} {v : Option Dict}
    (set : setResultJson payload = some v) : v ≠ none := by
  unfold setResultJson at set
  split at set
  · cases set
  · cases set
    exact Option.some_ne_none _

theorem setFinishedAt_some {now : Time} {payload : TaskCallbackRequest} {v : Option Time}
    (set : setFinishedAt now payload = some v) : v ≠ none := by
  unfold setFinishedAt at set
  split at set
  · cases set
  · cases set
    exact Option.some_ne_none _

theorem submit_then_cancel {task : Task} (pending : task.status = .pending) (now : Time) :
    commitRow task (TaskService.cancelled now task) (TaskService.submitted task) =
      TaskService.cancelled now (TaskService.submitted task) := by
  have status : column task.status .cancelled .queued = .cancelled :=
    column_changed (by rw [pending]; decide) _
  simp [commitRow, TaskService.cancelled, TaskService.submitted, status]

theorem submit_then_callback {task : Task} (pending : task.status = .pending) (now : Time)
    (payload : TaskCallbackRequest) :
    commitRow task (TaskService.calledBack now payload task) (TaskService.submitted task) =
      TaskService.calledBack now payload (TaskService.submitted task) := by
  have status : column task.status payload.status.taskStatus .queued = payload.status.taskStatus :=
    column_changed (by rw [pending]; exact (taskStatus_left _).1) _
  simp [calledBack_eq, commitRow, TaskService.submitted, setStatus, status]

theorem cancel_then_cancel {task : Task} (blank : Blank task) (now now' : Time) :
    commitRow task (TaskService.cancelled now' task) (TaskService.cancelled now task) =
      TaskService.cancelled now' task := by
  have finished : column task.finishedAt (some now') (some now) = some now' :=
    column_changed (by rw [blank.finishedAt]; exact Option.some_ne_none _) _
  simp [commitRow, TaskService.cancelled, finished]

theorem cancel_then_callback {task : Task} (waiting : task.status = .pending ∨ task.status = .queued)
    (blank : Blank task) (now now' : Time) (payload : TaskCallbackRequest) :
    commitRow task (TaskService.calledBack now' payload task) (TaskService.cancelled now task) =
      TaskService.calledBack now' payload (TaskService.cancelled now task) := by
  have status : column task.status payload.status.taskStatus .cancelled = payload.status.taskStatus := by
    apply column_changed
    rcases waiting with here | here
    · rw [here]
      exact (taskStatus_left _).1
    · rw [here]
      exact (taskStatus_left _).2.1
  have finished := callback_over task.finishedAt blank.finishedAt (setFinishedAt now' payload)
    (fun _ => setFinishedAt_some) (some now)
  simp [calledBack_eq, commitRow, TaskService.cancelled, setStatus, status, finished]

/-- Neither of the two schedules: the GPU rows stay, and the rows decide. -/
theorem serial_iff_rows {t : TaskId} {db : Database} {task : Task} {first second : TaskOp}
    (found : db.tasks.get t = some task) (other : first.schedules = false) (other' : second.schedules = false)
    (acts : Acts first db task) (acts' : Acts second db task) :
    (Same t (commit t second db (alone (commit t first) db))
        (alone (commit t second) (alone (commit t first) db)) ∨
      Same t (commit t second db (alone (commit t first) db))
        (alone (commit t first) (alone (commit t second) db))) ↔
      commitRow task (written second db task) (written first db task) =
          effect second db (written first db task) ∨
        commitRow task (written second db task) (written first db task) =
          effect first db (written second db task) := by
  have row := overlap_row first second found
  have later := serial_row first second found
  have earlier := serial_row second first found
  rw [effect_acting acts, effect_acting acts'] at row
  rw [effect_acting acts, effect_other other' db] at later
  rw [effect_acting acts', effect_other other db] at earlier
  have gpus : ∀ s, (alone (commit t first) s).gpus = s.gpus := fun s => commit_gpus other t s s
  have gpus' : ∀ s, (alone (commit t second) s).gpus = s.gpus := fun s => commit_gpus other' t s s
  simp only [Same, row, later, earlier, gpus, gpus', commit_gpus other', implies_true, and_true,
    Option.some.injEq]

/-- What the two operations, both of which write, may be for the later commit to
    lose nothing: the first commits before the second. -/
def Compatible (db : Database) (task : Task) : TaskOp → TaskOp → Prop
  | .submit _ _ _, .submit _ _ _ | .submit _ _ _, .cancel _ _ | .submit _ _ _, .callback _ _
  | .cancel _ _, .cancel _ _ | .cancel _ _, .callback _ _ => True
  | .callback now first, .callback now' second =>
      LaterCallbackStands task now first now' second ∨ EarlierCallbackStands task now first now' second
  | .schedule env _, .callback now payload =>
      ∀ a id result, launchReply env db task = some (a, .ok (id, result)) → payload.status = .running →
        now = env.now
  | .callback _ payload, .schedule env _ =>
      payload.status = .running ∧ ∃ a id result, launchReply env db task = some (a, .ok (id, result)) ∧
        ∀ other, truthyText payload.containerId = some other → other = id
  | _, _ => False

theorem effect_submit_left {fault : QueueService.Fault} {enqueuedAt : String} {user : User} (db : Database)
    {task : Task} (left : task.status ≠ .pending) : effect (.submit fault enqueuedAt user) db task = task :=
  effect_idle fun acts => left acts.2.2

theorem effect_cancel_left {now : Time} {user : User} (db : Database) {task : Task}
    (pending : task.status ≠ .pending) (queued : task.status ≠ .queued) :
    effect (.cancel now user) db task = task :=
  effect_idle fun acts => acts.2.elim pending queued

theorem effect_cancel_queued {db : Database} {task : Task} {now : Time} {user : User}
    (owned : TaskService.Owned user task) :
    effect (.cancel now user) db (TaskService.submitted task) =
      TaskService.cancelled now (TaskService.submitted task) :=
  effect_acting (show Acts (.cancel now user) db (TaskService.submitted task) from ⟨owned, .inr rfl⟩)

theorem effect_callback (now : Time) (payload : TaskCallbackRequest) (db : Database) (task : Task) :
    effect (.callback now payload) db task = TaskService.calledBack now payload task := effect_acting trivial

theorem calledBack_left (now : Time) (payload : TaskCallbackRequest) (task : Task) :
    (TaskService.calledBack now payload task).status ≠ .pending ∧
      (TaskService.calledBack now payload task).status ≠ .queued ∧
      (TaskService.calledBack now payload task).status ≠ .cancelled := by
  rw [TaskService.calledBack_status]
  exact taskStatus_left _

theorem commitRow_status (read mine current : Task) (changed : mine.status ≠ read.status) :
    (commitRow read mine current).status = mine.status := column_changed changed _

/-- The status an operation commits was decided on the row it has read, whatever has
    been committed since. -/
theorem commit_status {t : TaskId} {read current : Database} {row now : Task} {op : TaskOp}
    (found : read.tasks.get t = some row) (here : current.tasks.get t = some now) (acts : Acts op read row)
    (changes : (written op read row).status ≠ row.status) :
    ((commit t op read current).tasks.get t).map (·.status) = some (written op read row).status := by
  rw [commit_row op found here, effect_acting acts, Option.map_some]
  exact congrArg some (commitRow_status _ _ _ changes)

/-- A submit that has read `pending` puts the task back to `queued`, be it launched or
    finished by then. -/
theorem stale_submit {t : TaskId} {read current : Database} {row now : Task} {fault : QueueService.Fault}
    {enqueuedAt : String} {user : User} (found : read.tasks.get t = some row)
    (here : current.tasks.get t = some now) (acts : Acts (.submit fault enqueuedAt user) read row) :
    ((commit t (.submit fault enqueuedAt user) read current).tasks.get t).map (·.status) = some .queued := by
  apply commit_status found here acts
  rw [acts.2.2]
  exact fun same => by cases same

/-- A launch leaves the task as `running` or `failed`, be it cancelled or finished by
    then. -/
theorem stale_schedule {t : TaskId} {read current : Database} {row now : Task} {env : Scheduler.Env}
    {fields : Dict} (found : read.tasks.get t = some row) (here : current.tasks.get t = some now)
    {a : Allocation} {reply : Except String (ContainerId × Dict)} (queued : row.status = .queued)
    (planned : launchReply env read row = some (a, reply)) :
    ((commit t (.schedule env fields) read current).tasks.get t).map (·.status) =
      some (if reply.isOk then .running else .failed) := by
  have acts : Acts (.schedule env fields) read row := by rw [Acts, planned]; rfl
  have status : (written (.schedule env fields) read row).status =
      if reply.isOk then .running else .failed := by
    simp only [written, planned]
    cases reply <;> rfl
  rw [← status]
  apply commit_status found here acts
  rw [status, queued]
  cases reply <;> exact fun same => by cases same

/-- The case of two operations that do not schedule. -/
theorem rows_iff {db : Database} {task : Task} {first second : TaskOp} (blank : WaitsBlank task)
    (other : first.schedules = false) (other' : second.schedules = false) (acts : Acts first db task)
    (acts' : Acts second db task) :
    (commitRow task (written second db task) (written first db task) =
        effect second db (written first db task) ∨
      commitRow task (written second db task) (written first db task) =
        effect first db (written second db task)) ↔ Compatible db task first second := by
  cases first with
  | schedule => cases other
  | submit fault enqueuedAt user =>
      obtain ⟨_, owned, pending⟩ := acts
      cases second with
      | schedule => cases other'
      | submit fault' enqueuedAt' user' =>
          refine iff_of_true (.inl ?_) trivial
          simp only [written]
          rw [effect_submit_left db (by rintro ⟨⟩)]
          exact commitRow_alike _ _
      | cancel now user' =>
          refine iff_of_true (.inl ?_) trivial
          simp only [written]
          rw [effect_cancel_queued acts'.1]
          exact submit_then_cancel pending now
      | callback now payload =>
          refine iff_of_true (.inl ?_) trivial
          rw [effect_callback]
          exact submit_then_callback pending now payload
  | cancel now user =>
      obtain ⟨owned, waiting⟩ := acts
      cases second with
      | schedule => cases other'
      | submit fault' enqueuedAt' user' =>
          refine iff_of_false ?_ id
          simp only [written]
          have status : (commitRow task (TaskService.submitted task)
              (TaskService.cancelled now task)).status = .queued :=
            commitRow_status _ _ _ (by rw [acts'.2.2]; rintro ⟨⟩)
          -- In both orders the task ends as cancelled.
          rw [effect_submit_left db (by rintro ⟨⟩), effect_cancel_queued owned]
          rintro (same | same)
          · rw [same] at status
            cases status
          · rw [same] at status
            cases status
      | cancel now' user' =>
          refine iff_of_true (.inr ?_) trivial
          simp only [written]
          rw [effect_cancel_left db (by rintro ⟨⟩) (by rintro ⟨⟩)]
          exact cancel_then_cancel (blank waiting) now now'
      | callback now' payload =>
          refine iff_of_true (.inl ?_) trivial
          rw [effect_callback]
          exact cancel_then_callback waiting (blank waiting) now now' payload
  | callback now payload =>
      cases second with
      | schedule => cases other'
      | submit fault' enqueuedAt' user' =>
          refine iff_of_false ?_ id
          simp only [written]
          have status : (commitRow task (TaskService.submitted task)
              (TaskService.calledBack now payload task)).status = .queued :=
            commitRow_status _ _ _ (by rw [acts'.2.2]; rintro ⟨⟩)
          -- In both orders the status is that of the callback.
          rw [effect_callback, effect_submit_left db (calledBack_left now payload task).1]
          rintro (same | same)
          · rw [same] at status
            exact (calledBack_left now payload task).2.1 status
          · rw [same] at status
            exact (calledBack_left now payload (TaskService.submitted task)).2.1 status
      | cancel now' user' =>
          refine iff_of_false ?_ id
          simp only [written]
          have status : (commitRow task (TaskService.cancelled now' task)
              (TaskService.calledBack now payload task)).status = .cancelled :=
            commitRow_status _ _ _ (by rcases acts'.2 with here | here <;> rw [here] <;> rintro ⟨⟩)
          have left := calledBack_left now payload task
          rw [effect_callback, effect_cancel_left db left.1 left.2.1]
          rintro (same | same)
          · rw [same] at status
            exact left.2.2 status
          · rw [same] at status
            exact (calledBack_left now payload (TaskService.cancelled now' task)).2.2 status
      | callback now' payload' =>
          rw [effect_callback, effect_callback]
          exact or_congr (later_callback_iff task now payload now' payload')
            (earlier_callback_iff task now payload now' payload')

/-! One of the two schedules. -/

/-- What a launch makes of the row. -/
def launched (env : Scheduler.Env) (a : Allocation) (task : Task) :
    Except String (ContainerId × Dict) → Task
  | .ok (id, result) => Scheduler.markRunning a id env.now result task
  | .error exc => Scheduler.markFailed exc task

theorem written_schedule {env : Scheduler.Env} {fields : Dict} {db : Database} {task : Task}
    {a : Allocation} {reply : Except String (ContainerId × Dict)}
    (planned : launchReply env db task = some (a, reply)) :
    written (.schedule env fields) db task = launched env a task reply := by
  simp only [written, planned]
  cases reply <;> rfl

theorem launched_left (env : Scheduler.Env) (a : Allocation) (task : Task)
    (reply : Except String (ContainerId × Dict)) :
    (launched env a task reply).status ≠ .pending ∧ (launched env a task reply).status ≠ .queued ∧
      (launched env a task reply).status ≠ .cancelled := by
  cases reply <;> exact ⟨by rintro ⟨⟩, by rintro ⟨⟩, by rintro ⟨⟩⟩

theorem launchReply_queued {env : Scheduler.Env} {db : Database} {task : Task}
    (acts : (launchReply env db task).isSome = true) :
    task.status = .queued ∧ ∃ a reply, launchReply env db task = some (a, reply) := by
  obtain ⟨⟨a, reply⟩, planned⟩ := Option.isSome_iff_exists.mp acts
  refine ⟨?_, a, reply, planned⟩
  unfold launchReply at planned
  split at planned
  · assumption
  · cases planned

/-- A callback that arrives while the launch is under way: it stands over the launch,
    but a `running` callback has its own clock. -/
theorem schedule_then_callback_iff {task : Task} (queued : task.status = .queued) (blank : Blank task)
    (env : Scheduler.Env) (a : Allocation) (reply : Except String (ContainerId × Dict)) (now : Time)
    (payload : TaskCallbackRequest) :
    commitRow task (TaskService.calledBack now payload task) (launched env a task reply) =
        TaskService.calledBack now payload (launched env a task reply) ↔
      (reply.isOk = true → payload.status = .running → now = env.now) := by
  have status : ∀ current, column task.status payload.status.taskStatus current = payload.status.taskStatus :=
    column_changed (by rw [queued]; exact (taskStatus_left _).2.1)
  have container := callback_over task.containerId blank.containerId (setContainerId payload)
    fun _ => setContainerId_some
  have result := callback_over task.resultJson blank.resultJson (setResultJson payload)
    fun _ => setResultJson_some
  have start : column task.startedAt (startOf now payload task.startedAt) (some env.now) =
      startOf now payload (some env.now) ↔ (payload.status = .running → now = env.now) := by
    rw [blank.startedAt]
    unfold startOf
    by_cases running : payload.status = .running
    · simp [running, column_changed]
    · simp [running]
  cases reply with
  | error exc =>
      simp [calledBack_eq, commitRow, launched, Scheduler.markFailed, setStatus, status, result, Except.isOk,
        Except.toBool]
  | ok pair =>
      simp [calledBack_eq, commitRow, launched, Scheduler.markRunning, setStatus, status, container, result,
        Except.isOk, Except.toBool, start]

theorem callbackResult_ne_error (payload : TaskCallbackRequest) (value : Value) :
    TaskService.callbackResult payload ≠ [("error", value)] := by
  unfold TaskService.callbackResult
  cases payload.status <;> simp

theorem calledBack_resultJson {payload : TaskCallbackRequest} (failed : payload.status = .failed)
    (now : Time) (task : Task) :
    (TaskService.calledBack now payload task).resultJson = some (TaskService.callbackResult payload) := by
  simp [TaskService.calledBack, failed]

theorem callback_then_failed_launch {task : Task} (queued : task.status = .queued) (blank : Blank task)
    (exc : String) (now : Time) (payload : TaskCallbackRequest) (base : Task) :
    commitRow task (Scheduler.markFailed exc task) (TaskService.calledBack now payload task) ≠
      TaskService.calledBack now payload base := by
  intro same
  have status : (commitRow task (Scheduler.markFailed exc task)
      (TaskService.calledBack now payload task)).status = .failed :=
    commitRow_status _ _ _ (by rw [queued]; rintro ⟨⟩)
  have result : (commitRow task (Scheduler.markFailed exc task)
      (TaskService.calledBack now payload task)).resultJson = some [("error", .str exc)] :=
    column_changed (by rw [blank.resultJson]; exact Option.some_ne_none _) _
  rw [same, TaskService.calledBack_status] at status
  have failed : payload.status = .failed := by
    cases here : payload.status <;> rw [here] at status <;> first | rfl | cases status
  rw [same, calledBack_resultJson failed, Option.some.injEq] at result
  exact callbackResult_ne_error payload _ result

/-- A callback that commits while the launch is under way is overwritten. -/
theorem callback_then_schedule {task : Task} (queued : task.status = .queued) (blank : Blank task)
    (env : Scheduler.Env) (a : Allocation) (reply : Except String (ContainerId × Dict)) (now : Time)
    (payload : TaskCallbackRequest) :
    commitRow task (launched env a task reply) (TaskService.calledBack now payload task) ≠
      TaskService.calledBack now payload task := by
  cases reply with
  | error exc => exact callback_then_failed_launch queued blank exc now payload task
  | ok pair =>
      intro same
      -- The row has been placed, which no callback does.
      have placed := congrArg Task.assignedNodeId same
      simp [commitRow, (TaskService.calledBack_assignment now payload task).1, launched,
        Scheduler.markRunning, blank.assignedNodeId] at placed

/-- The launch itself stands if the callback says nothing else. -/
theorem callback_then_schedule_iff {task : Task} (queued : task.status = .queued) (blank : Blank task)
    (env : Scheduler.Env) (a : Allocation) (reply : Except String (ContainerId × Dict)) (now : Time)
    (payload : TaskCallbackRequest) :
    commitRow task (launched env a task reply) (TaskService.calledBack now payload task) =
        TaskService.calledBack now payload (launched env a task reply) ↔
      payload.status = .running ∧ ∃ id result, reply = .ok (id, result) ∧
        ∀ other, truthyText payload.containerId = some other → other = id := by
  cases reply with
  | error exc =>
      apply iff_of_false (callback_then_failed_launch queued blank exc now payload _)
      rintro ⟨_, id, result, none, _⟩
      cases none
  | ok pair =>
      obtain ⟨id, result⟩ := pair
      have container : ∀ current, column task.containerId (some id) current = some id :=
        column_changed (by rw [blank.containerId]; exact Option.some_ne_none _)
      constructor
      · intro same
        have status : (commitRow task (launched env a task (.ok (id, result)))
            (TaskService.calledBack now payload task)).status = .running :=
          commitRow_status _ _ _ (by rw [queued]; rintro ⟨⟩)
        rw [same, TaskService.calledBack_status] at status
        have running : payload.status = .running := by
          cases here : payload.status <;> rw [here] at status <;> first | rfl | cases status
        refine ⟨running, id, result, rfl, ?_⟩
        intro other given
        have containers := congrArg Task.containerId same
        rw [calledBack_eq now payload (launched _ _ _ _)] at containers
        simpa [commitRow, launched, Scheduler.markRunning, container, setContainerId, given] using
          containers.symm
      · rintro ⟨running, id', result', same, agrees⟩
        cases same
        have start : column none (some env.now) (some now) = some env.now :=
          column_changed (Option.some_ne_none _) _
        have shown : some id = (setContainerId payload).getD (some id) := by
          unfold setContainerId
          cases given : truthyText payload.containerId with
          | none => rfl
          | some other => rw [agrees other given]; rfl
        simp [calledBack_eq, commitRow, launched, Scheduler.markRunning, setStatus, running,
          CallbackStatus.taskStatus, container, setResultJson, startOf, blank.startedAt, start, ← shown]

theorem launched_resultJson (env : Scheduler.Env) (a : Allocation) (task : Task)
    (reply : Except String (ContainerId × Dict)) : (launched env a task reply).resultJson ≠ none := by
  cases reply <;> exact Option.some_ne_none _

/-- A cancellation that commits while the launch is under way is overwritten, but for
    its time. -/
theorem cancel_then_schedule {task : Task} (queued : task.status = .queued) (blank : Blank task)
    (env : Scheduler.Env) (a : Allocation) (reply : Except String (ContainerId × Dict)) (now : Time) :
    commitRow task (launched env a task reply) (TaskService.cancelled now task) ≠
        TaskService.cancelled now task ∧
      commitRow task (launched env a task reply) (TaskService.cancelled now task) ≠
        launched env a task reply := by
  have left := launched_left env a task reply
  constructor
  · intro same
    have status := commitRow_status task (launched env a task reply) (TaskService.cancelled now task)
      (by rw [queued]; exact left.2.1)
    rw [same] at status
    exact left.2.2 status.symm
  · intro same
    have kept : (launched env a task reply).finishedAt = none := by
      rw [← blank.finishedAt]
      cases reply <;> rfl
    have finished := congrArg Task.finishedAt same
    simp [commitRow, kept, blank.finishedAt, TaskService.cancelled] at finished

/-- A cancellation that commits after the launch it has not seen hides it. -/
theorem schedule_then_cancel {task : Task} (queued : task.status = .queued) (blank : Blank task)
    (env : Scheduler.Env) (a : Allocation) (reply : Except String (ContainerId × Dict)) (now : Time) :
    commitRow task (TaskService.cancelled now task) (launched env a task reply) ≠
        launched env a task reply ∧
      commitRow task (TaskService.cancelled now task) (launched env a task reply) ≠
        TaskService.cancelled now task := by
  constructor
  · intro same
    have status := commitRow_status task (TaskService.cancelled now task) (launched env a task reply)
      (by rw [queued]; rintro ⟨⟩)
    rw [same] at status
    exact (launched_left env a task reply).2.2 status
  · intro same
    have result := congrArg Task.resultJson same
    simp [commitRow, TaskService.cancelled, blank.resultJson] at result
    exact launched_resultJson env a task reply result

/-! ## Serializability of a pair -/

theorem overlap_later {t : TaskId} {db : Database} {task : Task} {first second : TaskOp}
    (found : db.tasks.get t = some task)
    (same : Same t (commit t second db (alone (commit t first) db))
      (alone (commit t second) (alone (commit t first) db))) :
    commitRow task (effect second db task) (effect first db task) =
      effect second (alone (commit t first) db) (effect first db task) :=
  Option.some.inj ((overlap_row first second found).symm.trans (same.1.trans (serial_row first second found)))

theorem overlap_earlier {t : TaskId} {db : Database} {task : Task} {first second : TaskOp}
    (found : db.tasks.get t = some task)
    (same : Same t (commit t second db (alone (commit t first) db))
      (alone (commit t first) (alone (commit t second) db))) :
    commitRow task (effect second db task) (effect first db task) =
      effect first (alone (commit t second) db) (effect second db task) :=
  Option.some.inj ((overlap_row first second found).symm.trans (same.1.trans (serial_row second first found)))

theorem schedule_pair_iff {t : TaskId} {db : Database} {task : Task} (found : db.tasks.get t = some task)
    (waits : WaitsBlank task) (env : Scheduler.Env) (fields : Dict) (second : TaskOp)
    (other : second.schedules = false) (acts : Acts (.schedule env fields) db task)
    (acts' : Acts second db task) :
    (Same t (commit t second db (alone (commit t (.schedule env fields)) db))
        (alone (commit t second) (alone (commit t (.schedule env fields)) db)) ∨
      Same t (commit t second db (alone (commit t (.schedule env fields)) db))
        (alone (commit t (.schedule env fields)) (alone (commit t second) db))) ↔
      Compatible db task (.schedule env fields) second := by
  obtain ⟨queued, a, reply, planned⟩ := launchReply_queued acts
  have blank := waits (.inr queued)
  have left := launched_left env a task reply
  have mine : effect (.schedule env fields) db task = launched env a task reply :=
    (effect_acting acts).trans (written_schedule planned)
  cases second with
  | schedule => cases other
  | submit fault enqueuedAt user => exact absurd (queued.symm.trans acts'.2.2) (by rintro ⟨⟩)
  | cancel now user =>
      have theirs : effect (.cancel now user) db task = TaskService.cancelled now task := effect_acting acts'
      obtain ⟨notLater, notEarlier⟩ := schedule_then_cancel queued blank env a reply now
      refine iff_of_false ?_ id
      rintro (same | same)
      · have rows := overlap_later found same
        rw [mine, theirs, effect_cancel_left _ left.1 left.2.1] at rows
        exact notLater rows
      · have rows := overlap_earlier found same
        rw [mine, theirs, effect_schedule_left env fields _ (by rintro ⟨⟩)] at rows
        exact notEarlier rows
  | callback now payload =>
      have later := schedule_then_callback_iff queued blank env a reply now payload
      have condition : Compatible db task (.schedule env fields) (.callback now payload) ↔
          (reply.isOk = true → payload.status = .running → now = env.now) := by
        simp only [Compatible, planned, Option.some.injEq, Prod.mk.injEq]
        cases reply with
        | error exc => simp [Except.isOk, Except.toBool]
        | ok pair =>
            constructor
            · intro agrees _
              exact agrees a pair.1 pair.2 ⟨rfl, rfl⟩
            · intro agrees _ _ _ _
              exact agrees rfl
      rw [condition, ← later]
      constructor
      · rintro (same | same)
        · have rows := overlap_later found same
          rw [mine, effect_callback, effect_callback] at rows
          exact rows
        · -- In the other order the scheduler skips the task, which then is not placed.
          have rows := overlap_earlier found same
          rw [mine, effect_callback, effect_schedule_left env fields _ (calledBack_left now payload task).2.1]
            at rows
          rw [later]
          intro ok
          have placed := congrArg Task.assignedNodeId rows
          cases reply with
          | error exc => cases ok
          | ok pair =>
              simp [commitRow, (TaskService.calledBack_assignment now payload task).1, launched,
                Scheduler.markRunning, blank.assignedNodeId] at placed
      · intro rows
        refine .inl ⟨?_, fun _ => rfl⟩
        rw [overlap_row _ _ found, serial_row _ _ found, mine, effect_callback, effect_callback, rows]

theorem pair_schedule_iff {t : TaskId} {db : Database} {task : Task} (found : db.tasks.get t = some task)
    (waits : WaitsBlank task) (env : Scheduler.Env) (fields : Dict) (first : TaskOp)
    (other : first.schedules = false) (acts : Acts first db task)
    (acts' : Acts (.schedule env fields) db task) :
    (Same t (commit t (.schedule env fields) db (alone (commit t first) db))
        (alone (commit t (.schedule env fields)) (alone (commit t first) db)) ∨
      Same t (commit t (.schedule env fields) db (alone (commit t first) db))
        (alone (commit t first) (alone (commit t (.schedule env fields)) db))) ↔
      Compatible db task first (.schedule env fields) := by
  obtain ⟨queued, a, reply, planned⟩ := launchReply_queued acts'
  have blank := waits (.inr queued)
  have left := launched_left env a task reply
  have mine : effect (.schedule env fields) db task = launched env a task reply :=
    (effect_acting acts').trans (written_schedule planned)
  cases first with
  | schedule => cases other
  | submit fault enqueuedAt user => exact absurd (queued.symm.trans acts.2.2) (by rintro ⟨⟩)
  | cancel now user =>
      have theirs : effect (.cancel now user) db task = TaskService.cancelled now task := effect_acting acts
      obtain ⟨notLater, notEarlier⟩ := cancel_then_schedule queued blank env a reply now
      refine iff_of_false ?_ id
      rintro (same | same)
      · have rows := overlap_later found same
        rw [mine, theirs, effect_schedule_left env fields _ (by rintro ⟨⟩)] at rows
        exact notLater rows
      · have rows := overlap_earlier found same
        rw [mine, theirs, effect_cancel_left _ left.1 left.2.1] at rows
        exact notEarlier rows
  | callback now payload =>
      have condition : Compatible db task (.callback now payload) (.schedule env fields) ↔
          payload.status = .running ∧ ∃ id result, reply = .ok (id, result) ∧
            ∀ other, truthyText payload.containerId = some other → other = id := by
        simp only [Compatible, planned, Option.some.injEq, Prod.mk.injEq]
        constructor
        · rintro ⟨running, _, id, result, ⟨_, same⟩, agrees⟩
          exact ⟨running, id, result, same, agrees⟩
        · rintro ⟨running, id, result, same, agrees⟩
          exact ⟨running, a, id, result, ⟨rfl, same⟩, agrees⟩
      rw [condition, ← callback_then_schedule_iff queued blank env a reply now payload]
      have skipped := effect_schedule_left env fields (alone (commit t (.callback now payload)) db)
        (calledBack_left now payload task).2.1
      constructor
      · rintro (same | same)
        · have rows := overlap_later found same
          rw [mine, effect_callback, skipped] at rows
          exact absurd rows (callback_then_schedule queued blank env a reply now payload)
        · have rows := overlap_earlier found same
          rw [mine, effect_callback, effect_callback] at rows
          exact rows
      · intro rows
        refine .inr ⟨?_, fun _ => rfl⟩
        rw [overlap_row _ _ found, serial_row _ _ found, mine, effect_callback, effect_callback, rows]

/-- Two operations that have read the same row, and both write. -/
theorem pair_iff {t : TaskId} {db : Database} {task : Task} {first second : TaskOp}
    (found : db.tasks.get t = some task) (waits : WaitsBlank task)
    (lock : first.schedules = false ∨ second.schedules = false) (acts : Acts first db task)
    (acts' : Acts second db task) :
    (Same t (commit t second db (alone (commit t first) db))
        (alone (commit t second) (alone (commit t first) db)) ∨
      Same t (commit t second db (alone (commit t first) db))
        (alone (commit t first) (alone (commit t second) db))) ↔ Compatible db task first second := by
  cases ahead : first.schedules with
  | true =>
      have other := lock.resolve_left (by rw [ahead]; exact Bool.noConfusion)
      cases first with
      | schedule env fields => exact schedule_pair_iff found waits env fields second other acts acts'
      | submit | cancel | callback => cases ahead
  | false =>
      cases behind : second.schedules with
      | true =>
          cases second with
          | schedule env fields => exact pair_schedule_iff found waits env fields first ahead acts acts'
          | submit | cancel | callback => cases behind
      | false =>
          exact (serial_iff_rows found ahead behind acts acts').trans
            (rows_iff waits ahead behind acts acts')

/-! ## A task that does not exist, and other tasks -/

theorem outcome_missing {t : TaskId} {db : Database} (missing : db.tasks.get t = none) (op : TaskOp) :
    outcome t op db = db := by
  cases op with
  | submit | cancel => simp [outcome, TaskService.submitTask, TaskService.cancelTask,
      TaskService.getOwnedTask, missing]
  | callback => simp [outcome, TaskService.handleCallback, missing]
  | schedule => simp [outcome, Scheduler.planTask, missing]

theorem commit_missing {t : TaskId} {read : Database} (missing : read.tasks.get t = none) (op : TaskOp)
    (current : Database) :
    (commit t op read current).tasks = current.tasks ∧ (commit t op read current).gpus = current.gpus := by
  have nothing : granted t op read = none := by
    cases op with
    | schedule => simp only [granted, missing]
    | submit | cancel | callback => rfl
  exact ⟨by simp only [commit, missing], commit_gpus_none nothing current⟩

/-- With no other beside it, an operation commits the rows it has computed. -/
theorem alone_outcome (t : TaskId) (op : TaskOp) (db : Database) :
    Same t (alone (commit t op) db) (outcome t op db) := by
  cases found : db.tasks.get t with
  | none =>
      obtain ⟨tasks, gpus⟩ := commit_missing found op db
      rw [outcome_missing found]
      exact ⟨congrArg (fun table => table.get t) tasks, fun slot => congrArg (fun table => table.get slot) gpus⟩
  | some task =>
      refine ⟨(alone_row op found).trans (outcome_row op found).symm, ?_⟩
      intro slot
      cases op with
      | schedule env fields =>
          rw [schedule_gpus found, alone, commit, granted_schedule found]
          cases launchReply env db task with
          | none => rfl
          | some planned =>
              obtain ⟨a, reply⟩ := planned
              cases reply <;> rfl
      | callback now payload =>
          rw [alone, commit_gpus rfl, outcome, TaskService.handleCallback_gpus]
      | submit fault enqueuedAt user =>
          rw [alone, commit_gpus rfl, outcome]
          rcases TaskService.submitTask_cases fault enqueuedAt user t { db, queues := {} } with same | ⟨_, _, _, same⟩
          · rw [same]
          · rw [same, Database.addLog_gpus, Database.updateTask_gpus]
      | cancel now user =>
          rw [alone, commit_gpus rfl, outcome]
          rcases TaskService.cancelTask_cases now user t db with same | ⟨_, _, _, same⟩
          · rw [same]
          · rw [same, Database.addLog_gpus, Database.updateTask_gpus]

theorem same_of_missing {t : TaskId} {db : Database} (missing : db.tasks.get t = none)
    (first second : TaskOp) :
    Same t (commit t second db (alone (commit t first) db))
      (alone (commit t second) (alone (commit t first) db)) := by
  have missing' : (alone (commit t first) db).tasks.get t = none := by
    rw [alone, (commit_missing missing first db).1, missing]
  obtain ⟨tasks, gpus⟩ := commit_missing missing second (alone (commit t first) db)
  obtain ⟨tasks', gpus'⟩ := commit_missing missing' second (alone (commit t first) db)
  exact ⟨congrArg (fun table => table.get t) (tasks.trans tasks'.symm),
    fun slot => congrArg (fun table => table.get slot) (gpus.trans gpus'.symm)⟩

/-- Other tasks keep their rows. -/
theorem commit_other {t t' : TaskId} (apart : t' ≠ t) (op : TaskOp) (read current : Database) :
    (commit t op read current).tasks.get t' = current.tasks.get t' := by
  simp only [commit]
  split
  · rw [Table.get_update _ _ _ (commitRow_id _ _), if_neg apart]
  · rfl

end SuitApi.LostUpdate
