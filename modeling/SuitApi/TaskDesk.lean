import SuitApi.Library.Runs
import SuitApi.TaskService

/-! # What the task service answers

`TaskService` holds the writes of the operations; here are the operations as their
callers see them, with the reads, the returned values and the exceptions.
-/

namespace SuitApi

def TaskStatus.text : TaskStatus → String
  | .pending => "pending"
  | .queued => "queued"
  | .running => "running"
  | .success => "success"
  | .failed => "failed"
  | .cancelled => "cancelled"

structure TaskRead where
  id : TaskId
  userId : UserId
  name : String
  taskType : String
  status : TaskStatus
  priority : Int
  assignedNodeId : Option NodeId
  assignedGpuIndices : Option (List Int)
  containerImage : String
  containerCommand : String
  containerId : Option ContainerId
  configJson : Option TaskConfig
  resultJson : Option Dict
  createdAt : Time
  startedAt : Option Time
  finishedAt : Option Time
  deriving Repr, DecidableEq

/-- `TaskRead.model_validate`, or `none` where a column that it demands is null. -/
def TaskRead.modelValidate (task : Task) : Option TaskRead := do
  let taskType ← task.taskType
  let containerImage ← task.containerImage
  let containerCommand ← task.containerCommand
  return {
    id := task.id
    userId := task.userId
    name := task.name
    taskType
    status := task.status
    priority := task.priority
    assignedNodeId := task.assignedNodeId
    assignedGpuIndices := task.assignedGpuIndices
    containerImage
    containerCommand
    containerId := task.containerId
    configJson := task.configJson
    resultJson := task.resultJson
    createdAt := task.createdAt
    startedAt := task.startedAt
    finishedAt := task.finishedAt }

/-- A row of `task_logs` with its time.  The number that the database gives it is left
    out, here and in the answers. -/
structure LogRow extends TaskLog where
  timestamp : Time
  deriving Repr, DecidableEq

structure TaskLogRead where
  source : String
  message : String
  timestamp : Time
  deriving Repr, DecidableEq

def TaskLogRead.modelValidate (row : LogRow) : TaskLogRead := ⟨row.source, row.message, row.timestamp⟩

/-- The store with the times of the log rows. -/
structure Desk extends Store where
  logs : List LogRow := []

namespace TaskService

/-! ## The reads -/

/-- `OFFSET` and `LIMIT`; the database refuses a negative number and one that is no
    `bigint`. -/
def window {α : Type} (offset limit : Int) (rows : List α) : Option (List α) :=
  if (0 ≤ offset ∧ offset < 2 ^ 63) ∧ 0 ≤ limit ∧ limit < 2 ^ 63 then
    some ((rows.drop offset.toNat).take limit.toNat)
  else none

/-- The page and the total that `list_tasks` makes of the rows it may show.  Rows of
    one time stay in the order of the table; the query leaves their order open, and so
    does whoever takes the table in any order. -/
def pageOf (statusValue taskType : Option String) (page pageSize : Int) (rows : List Task) :
    Option (List TaskRead × Nat) := do
  let selected := rows.filter fun task =>
    (truthyText statusValue).all (fun text => task.status.text = text) &&
      (truthyText taskType).all fun text => task.taskType = some text
  let shown ← window ((page - 1) * pageSize) pageSize
    (selected.insertionSort fun a b => b.createdAt ≤ a.createdAt)
  let items ← shown.mapM TaskRead.modelValidate
  return (items, selected.length)

def listTasks (user : User) (statusValue taskType : Option String) (page pageSize : Int) (db : Database) :
    Option (List TaskRead × Nat) :=
  if user.role ≠ "admin" then
    pageOf statusValue taskType page pageSize (db.tasks.rows.filter fun task => task.userId = user.id)
  else pageOf statusValue taskType page pageSize db.tasks.rows

/-- The latest log rows of a task, the latest last. -/
def recentLogs (t : TaskId) (limit : Int) (logs : List LogRow) : Option (List TaskLogRead) :=
  (window 0 limit ((logs.filter fun row => row.taskId = t).insertionSort fun a b => b.timestamp ≤ a.timestamp)).map
    fun rows => rows.reverse.map TaskLogRead.modelValidate

/-! ## The calls and their answers -/

inductive Response where
  | refused (error : AppException)
  /-- Any other exception. -/
  | raised
  | task (task : Task)
  | page (items : List TaskRead) (total : Nat)
  | detail (task : TaskRead) (logs : List TaskLogRead)
  | logs (logs : List TaskLogRead)
  | deleted
  deriving Repr, DecidableEq

/-- A call with what it draws from outside: the generated id, the clock at each write
    and the fault of the Redis server. -/
inductive Call where
  | createTask (t : TaskId) (now loggedAt : Time) (payload : TaskCreate)
  | listTasks (statusValue taskType : Option String) (page pageSize : Int)
  | getTaskDetail (t : TaskId)
  | submitTask (fault : QueueService.Fault) (enqueuedAt : String) (loggedAt : Time) (t : TaskId)
  | cancelTask (now loggedAt : Time) (t : TaskId)
  | getTaskLogs (t : TaskId) (tail : Int)
  | deleteTask (t : TaskId)

def systemLog (t : TaskId) (message : String) (timestamp : Time) : LogRow := ⟨⟨t, "system", message⟩, timestamp⟩

/-- `db.refresh(task)` and `return task`. -/
def refreshed (t : TaskId) (db : Database) : Response :=
  match db.tasks.get t with
  | none => .raised
  | some task => .task task

def detailOf (task : Task) (logs : List LogRow) : Response :=
  match recentLogs task.id 20 logs, TaskRead.modelValidate task with
  | some recent, some read => .detail read recent
  | _, _ => .raised

def logsOf (task : Task) (tail : Int) (logs : List LogRow) : Response :=
  match recentLogs task.id tail logs with
  | some recent => .logs recent
  | none => .raised

/-- The answer to a call and the store after it. -/
def serve (user : User) : Call → Desk → Response × Desk
  | .createTask t now loggedAt payload, desk =>
      match createTask t now user payload desk.db with
      | none => (.raised, desk)
      | some db => (refreshed t db, { desk with db, logs := desk.logs ++ [systemLog t "task created" loggedAt] })
  | .listTasks statusValue taskType page pageSize, desk =>
      match listTasks user statusValue taskType page pageSize desk.db with
      | none => (.raised, desk)
      | some (items, total) => (.page items total, desk)
  | .getTaskDetail t, desk =>
      match getOwnedTask desk.db t user with
      | .error refusal => (.refused refusal, desk)
      | .ok task => (detailOf task desk.logs, desk)
  | .submitTask fault enqueuedAt loggedAt t, desk =>
      match submitTask fault enqueuedAt user t desk.toStore with
      | (.error refusal, store) => (.refused refusal, { desk with toStore := store })
      | (.ok _, store) =>
          (refreshed t store.db, ⟨store, desk.logs ++ [systemLog t "task submitted to scheduler queue" loggedAt]⟩)
  | .cancelTask now loggedAt t, desk =>
      match cancelTask now user t desk.db with
      | (.error refusal, db) => (.refused refusal, { desk with db })
      | (.ok _, db) => (refreshed t db, { desk with db, logs := desk.logs ++ [systemLog t "task cancelled" loggedAt] })
  | .getTaskLogs t tail, desk =>
      match getOwnedTask desk.db t user with
      | .error refusal => (.refused refusal, desk)
      | .ok task => (logsOf task tail desk.logs, desk)
  | .deleteTask t, desk =>
      match deleteTask user t desk.db with
      | .error refusal => (.refused refusal, desk)
      | .ok none => (.raised, desk)
      | .ok (some db) => (.deleted, { desk with db, logs := desk.logs.filter fun row => row.taskId ≠ t })

def exec (user : User) (call : Call) (desk : Desk) : Desk := (serve user call desk).2

def answer (user : User) (call : Call) (desk : Desk) : Response := (serve user call desk).1

/-- The rows with their times are the rows of the table. -/
def Desk.Logged (desk : Desk) : Prop := desk.logs.map (·.toTaskLog) = desk.db.taskLogs

theorem logged_addLog {desk : Desk} (logged : Desk.Logged desk) (t : TaskId) (message : String) (loggedAt : Time) :
    (desk.logs ++ [systemLog t message loggedAt]).map (·.toTaskLog) =
      desk.db.taskLogs ++ [⟨t, "system", message⟩] := by
  rw [List.map_append, logged]
  rfl

theorem deleteTask_taskLogs {user : User} {t : TaskId} {db db' : Database}
    (deleted : deleteTask user t db = .ok (some db')) :
    db'.taskLogs = db.taskLogs.filter fun row => row.taskId ≠ t := by
  unfold deleteTask at deleted
  split at deleted
  · cases deleted
  · rename_i task owned
    obtain rfl := Table.key_of_get (getOwnedTask_ok owned)
    split at deleted
    · cases deleted
    · split at deleted
      · cases deleted
      · cases deleted
        rfl

theorem exec_logged {user : User} {desk : Desk} (logged : Desk.Logged desk) (call : Call) :
    Desk.Logged (exec user call desk) := by
  unfold exec
  cases call with
  | createTask t now loggedAt payload =>
      cases created : createTask t now user payload desk.db with
      | none =>
          simp only [serve, created]
          exact logged
      | some db =>
          simp only [serve, created]
          obtain ⟨_, _, _, rfl⟩ := createTask_spec created
          exact logged_addLog logged t _ loggedAt
  | listTasks statusValue taskType page pageSize =>
      cases shown : listTasks user statusValue taskType page pageSize desk.db <;> simp only [serve, shown] <;>
        exact logged
  | getTaskDetail t =>
      cases owned : getOwnedTask desk.db t user <;> simp only [serve, owned] <;> exact logged
  | submitTask fault enqueuedAt loggedAt t =>
      cases owned : getOwnedTask desk.db t user with
      | error refusal =>
          simp only [serve, submitTask, owned]
          exact logged
      | ok task =>
          obtain rfl := Table.key_of_get (getOwnedTask_ok owned)
          cases guarded : submitGuard task with
          | error refusal =>
              simp only [serve, submitTask, owned, guarded]
              exact logged
          | ok passed =>
              cases fault with
              | none =>
                  simp only [serve, submitTask, owned, guarded, QueueService.enqueueTask]
                  exact logged_addLog logged task.id _ loggedAt
              | lpush | publish =>
                  simp only [serve, submitTask, owned, guarded, QueueService.enqueueTask]
                  exact logged
  | cancelTask now loggedAt t =>
      cases owned : getOwnedTask desk.db t user with
      | error refusal =>
          simp only [serve, cancelTask, owned]
          exact logged
      | ok task =>
          obtain rfl := Table.key_of_get (getOwnedTask_ok owned)
          cases guarded : cancelGuard task with
          | error refusal =>
              simp only [serve, cancelTask, owned, guarded]
              exact logged
          | ok passed =>
              simp only [serve, cancelTask, owned, guarded]
              exact logged_addLog logged task.id _ loggedAt
  | getTaskLogs t tail =>
      cases owned : getOwnedTask desk.db t user <;> simp only [serve, owned] <;> exact logged
  | deleteTask t =>
      cases deleted : deleteTask user t desk.db with
      | error refusal =>
          simp only [serve, deleted]
          exact logged
      | ok done =>
          cases done with
          | none =>
              simp only [serve, deleted]
              exact logged
          | some db =>
              simp only [serve, deleted]
              rw [Desk.Logged, deleteTask_taskLogs deleted, ← logged, List.filter_map]
              rfl

/-- Whatever the users call from the empty store on, the answers read the rows of the table. -/
theorem run_logged (calls : List (User × Call)) :
    Desk.Logged (Runs.run (fun call => exec call.1 call.2) calls {}) :=
  Runs.run_invariant (I := Desk.Logged) (fun _ call logged => exec_logged logged call.2) calls rfl

end TaskService

end SuitApi
