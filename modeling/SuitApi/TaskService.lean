import SuitApi.Queue
import SuitApi.Scheduler

/-! # The backend's task service

Each operation loads its task without a row lock, checks its guard, writes some
columns of the row and commits.  What an operation does to the row is a function
of its own (`submitted`, `cancelled`, `calledBack`); the operation adds the lookup,
the guard, the logs and the other stores.
-/

namespace SuitApi

structure TaskCreate where
  name : String
  taskType : String
  containerImage : String
  containerCommand : String
  priority : Int := 0
  configJson : TaskConfig := {}
  deriving Repr, DecidableEq

inductive CallbackStatus where
  | running | success | failed
  deriving Repr, DecidableEq

def CallbackStatus.taskStatus : CallbackStatus → TaskStatus
  | .running => .running
  | .success => .success
  | .failed => .failed

structure TaskCallbackRequest where
  status : CallbackStatus
  containerId : Option String := none
  exitCode : Option Int := none
  errorMessage : Option String := none
  logsChunk : Option String := none
  deriving Repr, DecidableEq

namespace TaskService

def notFound : AppException := .make 404 "task not found"

def getOwnedTask (db : Database) (t : TaskId) (user : User) : Except AppException Task :=
  match db.tasks.get t with
  | none => .error notFound
  | some task =>
      if user.role ≠ "admin" ∧ task.userId ≠ user.id then .error notFound
      else .ok task

/-! ## create_task -/

def newTask (t : TaskId) (now : Time) (user : User) (payload : TaskCreate) : Task where
  id := t
  userId := user.id
  name := payload.name
  taskType := some payload.taskType
  status := .pending
  priority := payload.priority
  assignedGpuIndices := some []
  containerImage := some payload.containerImage
  containerCommand := some payload.containerCommand
  configJson := some payload.configJson
  createdAt := now

/-- `create_task`; `t` is the generated primary key: a UUID, never empty, and refused
    when it is taken. -/
def createTask (t : TaskId) (now : Time) (user : User) (payload : TaskCreate) (db : Database) :
    Option Database :=
  if t = "" then none
  else
    (db.tasks.insert? (newTask t now user payload)).map fun tasks =>
      { db with tasks }.addLog t "system" "task created"

/-! ## submit_task -/

def submitted (task : Task) : Task := { task with status := .queued }

theorem submitted_id (task : Task) : (submitted task).id = task.id := rfl

def submitGuard (task : Task) : Except AppException Unit :=
  if task.status ≠ .pending then .error (.make 400 "only pending task can be submitted") else .ok ()

def submitTask (fault : QueueService.Fault) (enqueuedAt : String) (user : User) (t : TaskId) (s : Store) :
    Except AppException Unit × Store :=
  match getOwnedTask s.db t user with
  | .error refusal => (.error refusal, s)
  | .ok task =>
      match submitGuard task with
      | .error refusal => (.error refusal, s)
      | .ok _ =>
          match QueueService.enqueueTask fault enqueuedAt task.id task.priority s.queues with
          | (.error failure, queues) => (.error failure, { s with queues })
          | (.ok _, queues) =>
              (.ok (),
                { db := (s.db.updateTask task.id submitted submitted_id).addLog task.id "system"
                    "task submitted to scheduler queue"
                  queues })

/-! ## cancel_task -/

def cancelled (now : Time) (task : Task) : Task :=
  { task with status := .cancelled, finishedAt := some now }

theorem cancelled_id (now : Time) (task : Task) : (cancelled now task).id = task.id := rfl

def cancelGuard (task : Task) : Except AppException Unit :=
  if task.status = .pending ∨ task.status = .queued then .ok ()
  else .error (.make 400 "only pending or queued task can be cancelled")

/-- The stop request `cancel_task` sends, the answer of which it ignores. -/
structure StopRequest where
  nodeIp : String
  agentPort : Int
  containerId : ContainerId
  deriving Repr, DecidableEq

def stopRequest (db : Database) (task : Task) : Option StopRequest := do
  let nodeId ← truthyText task.assignedNodeId
  let containerId ← truthyText task.containerId
  let node ← db.nodes.get nodeId
  return ⟨node.ip, node.agentPort, containerId⟩

def cancelTask (now : Time) (user : User) (t : TaskId) (db : Database) :
    Except AppException (Option StopRequest) × Database :=
  match getOwnedTask db t user with
  | .error refusal => (.error refusal, db)
  | .ok task =>
      match cancelGuard task with
      | .error refusal => (.error refusal, db)
      | .ok _ =>
          (.ok (stopRequest db task),
            (db.updateTask task.id (cancelled now) (cancelled_id now)).addLog task.id "system"
              "task cancelled")

/-! ## handle_callback -/

def optionalInt : Option Int → Value
  | none => .null
  | some n => .int n

def optionalText : Option String → Value
  | none => .null
  | some text => .str text

/-- `if payload.container_id: task.container_id = payload.container_id`. -/
def withContainer (payload : TaskCallbackRequest) (task : Task) : Option ContainerId :=
  (truthyText payload.containerId).or task.containerId

/-- The `result_json` of a final callback. -/
def callbackResult (payload : TaskCallbackRequest) : Dict :=
  match payload.status with
  | .failed =>
      [("exit_code", optionalInt payload.exitCode), ("error_message", optionalText payload.errorMessage)]
  | _ => [("exit_code", optionalInt payload.exitCode)]

/-- The columns `handle_callback` writes; there is no guard on the old status. -/
def calledBack (now : Time) (payload : TaskCallbackRequest) (task : Task) : Task :=
  match payload.status with
  | .running =>
      { task with
        status := .running
        startedAt := task.startedAt.or (some now)
        containerId := withContainer payload task }
  | .success =>
      { task with
        status := .success
        finishedAt := some now
        containerId := withContainer payload task
        resultJson := some (callbackResult payload) }
  | .failed =>
      { task with
        status := .failed
        finishedAt := some now
        containerId := withContainer payload task
        resultJson := some (callbackResult payload) }

theorem calledBack_id (now : Time) (payload : TaskCallbackRequest) (task : Task) :
    (calledBack now payload task).id = task.id := by
  unfold calledBack
  cases payload.status <;> rfl

@[simp] theorem calledBack_status (now : Time) (payload : TaskCallbackRequest) (task : Task) :
    (calledBack now payload task).status = payload.status.taskStatus := by
  unfold calledBack
  cases payload.status <;> rfl

theorem calledBack_assignment (now : Time) (payload : TaskCallbackRequest) (task : Task) :
    (calledBack now payload task).assignedNodeId = task.assignedNodeId ∧
      (calledBack now payload task).assignedGpuIndices = task.assignedGpuIndices := by
  unfold calledBack
  cases payload.status <;> exact ⟨rfl, rfl⟩

def callbackLogs (payload : TaskCallbackRequest) (t : TaskId) : List TaskLog :=
  (match payload.status with
    | .running => [⟨t, "agent", "task is running"⟩]
    | .success => [⟨t, "agent", "task finished successfully"⟩]
    | .failed =>
        ⟨t, "agent", "task failed"⟩ ::
          ((truthyText payload.errorMessage).toList.map fun text => ⟨t, "stderr", text⟩)) ++
    (truthyText payload.logsChunk).toList.map fun text => ⟨t, "stdout", text⟩

/-- `handle_callback` up to its commit. -/
def handleCallback (now : Time) (payload : TaskCallbackRequest) (t : TaskId) (db : Database) :
    Except AppException Unit × Database :=
  match db.tasks.get t with
  | none => (.error notFound, db)
  | some task =>
      let written := db.updateTask task.id (calledBack now payload) (calledBack_id now payload)
      (.ok (), { written with taskLogs := written.taskLogs ++ callbackLogs payload task.id })

/-- The final callbacks publish the task on `suit:task:finished`. -/
def publishesFinished (payload : TaskCallbackRequest) : Bool :=
  payload.status = .success || payload.status = .failed

/-! ## delete_task -/

/-- `delete_task`; a row of `running_containers` that refers to the task makes its
    commit fail, billing records only lose the reference. -/
def deleteTask (user : User) (t : TaskId) (db : Database) : Except AppException (Option Database) :=
  match getOwnedTask db t user with
  | .error refusal => .error refusal
  | .ok task =>
      if task.status ∉ [TaskStatus.success, .failed, .cancelled] then
        .error (.make 400 "only finished task can be deleted")
      else if db.runningContainers.rows.any fun row => row.taskId = some task.id then .ok none
      else .ok (some { db with
        tasks := db.tasks.deleteWhere fun row => row.id = task.id
        taskLogs := db.taskLogs.filter fun row => row.taskId ≠ task.id
        billingRecords := db.billingRecords.map fun row =>
          if row.taskId = some task.id then { row with taskId := none } else row })

/-! ## The rows each operation writes -/

theorem getOwnedTask_ok {db : Database} {t : TaskId} {user : User} {task : Task}
    (owned : getOwnedTask db t user = .ok task) : db.tasks.get t = some task := by
  unfold getOwnedTask at owned
  split at owned
  · cases owned
  · rename_i row found
    split at owned
    · cases owned
    · cases owned
      exact found

/-- The row of a task is shown to its owner and to administrators. -/
def Owned (user : User) (task : Task) : Prop := user.role = "admin" ∨ task.userId = user.id

instance (user : User) (task : Task) : Decidable (Owned user task) := inferInstanceAs (Decidable (_ ∨ _))

theorem getOwnedTask_eq {db : Database} {t : TaskId} {task : Task} (found : db.tasks.get t = some task)
    (user : User) : getOwnedTask db t user = if Owned user task then .ok task else .error notFound := by
  simp only [getOwnedTask, found, Owned]
  by_cases admin : user.role = "admin"
  · simp [admin]
  · by_cases own : task.userId = user.id
    · simp [own]
    · simp [admin, own]

theorem createTask_spec {t : TaskId} {now : Time} {user : User} {payload : TaskCreate}
    {db db' : Database} (created : createTask t now user payload db = some db') :
    t ≠ "" ∧ ∃ tasks, db.tasks.insert? (newTask t now user payload) = some tasks ∧
      db' = { db with tasks }.addLog t "system" "task created" := by
  unfold createTask at created
  split at created
  · cases created
  · rename_i named
    obtain ⟨tasks, inserted, same⟩ := Option.map_eq_some_iff.mp created
    exact ⟨named, tasks, inserted, same.symm⟩

theorem createTask_get {t : TaskId} {now : Time} {user : User} {payload : TaskCreate}
    {db db' : Database} (created : createTask t now user payload db = some db') :
    db.tasks.get t = none ∧ db'.gpus = db.gpus ∧ db'.nodes = db.nodes ∧ ∀ t', db'.tasks.get t' =
      if t' = t then some (newTask t now user payload) else db.tasks.get t' := by
  obtain ⟨_, tasks, inserted, rfl⟩ := createTask_spec created
  exact ⟨Table.insert?_fresh inserted, rfl, rfl, fun t' => Table.get_insert? inserted t'⟩

/-- `submit_task` either leaves the database alone or queues a pending task that
    it has pushed. -/
theorem submitTask_cases (fault : QueueService.Fault) (enqueuedAt : String) (user : User) (t : TaskId)
    (s : Store) :
    (submitTask fault enqueuedAt user t s).2.db = s.db ∨
      ∃ task, s.db.tasks.get t = some task ∧ task.status = .pending ∧
        (submitTask fault enqueuedAt user t s).2.db =
          (s.db.updateTask t submitted submitted_id).addLog t "system"
            "task submitted to scheduler queue" := by
  unfold submitTask
  cases owned : getOwnedTask s.db t user with
  | error refusal => exact .inl rfl
  | ok task =>
      have found := getOwnedTask_ok owned
      have here : task.id = t := Table.key_of_get found
      subst here
      cases guarded : submitGuard task with
      | error refusal =>
          left
          simp only [guarded]
      | ok passed =>
          have pending : task.status = .pending := by
            unfold submitGuard at guarded
            split at guarded
            · cases guarded
            · rename_i pending
              exact not_not.mp pending
          simp only [guarded]
          cases fault with
          | none => exact .inr ⟨task, found, pending, rfl⟩
          | lpush => exact .inl rfl
          | publish => exact .inl rfl

theorem cancelTask_cases (now : Time) (user : User) (t : TaskId) (db : Database) :
    (cancelTask now user t db).2 = db ∨
      ∃ task, db.tasks.get t = some task ∧ (task.status = .pending ∨ task.status = .queued) ∧
        (cancelTask now user t db).2 =
          (db.updateTask t (cancelled now) (cancelled_id now)).addLog t "system" "task cancelled" := by
  unfold cancelTask
  cases owned : getOwnedTask db t user with
  | error refusal => exact .inl rfl
  | ok task =>
      have found := getOwnedTask_ok owned
      have here : task.id = t := Table.key_of_get found
      subst here
      cases guarded : cancelGuard task with
      | error refusal =>
          left
          simp only [guarded]
      | ok passed =>
          have waiting : task.status = .pending ∨ task.status = .queued := by
            unfold cancelGuard at guarded
            split at guarded
            · assumption
            · cases guarded
          refine .inr ⟨task, found, waiting, ?_⟩
          simp only [guarded]

/-- A deletion that commits removes a finished task that no container row refers to. -/
theorem deleteTask_spec {user : User} {t : TaskId} {db db' : Database}
    (deleted : deleteTask user t db = .ok (some db')) :
    (∃ task, db.tasks.get t = some task ∧ task.status ∈ [TaskStatus.success, .failed, .cancelled]) ∧
      (∀ row ∈ db.runningContainers.rows, row.taskId ≠ some t) ∧ db'.nodes = db.nodes ∧
      db'.runningContainers = db.runningContainers ∧
      ∀ t', db'.tasks.get t' = if t' = t then none else db.tasks.get t' := by
  unfold deleteTask at deleted
  split at deleted
  · cases deleted
  · rename_i task owned
    have found := getOwnedTask_ok owned
    obtain rfl := Table.key_of_get found
    split at deleted
    · cases deleted
    · rename_i finished
      split at deleted
      · cases deleted
      · rename_i unreferenced
        cases deleted
        refine ⟨⟨task, found, not_not.mp finished⟩, ?_, rfl, rfl, ?_⟩
        · simpa using unreferenced
        · intro t'
          rw [Table.get_deleteWhere]
          cases here : db.tasks.get t' with
          | none => simp
          | some row =>
              have same := Table.key_of_get here
              by_cases mine : t' = task.id
              · simp [mine, same]
              · simp [mine, same]

/-- A deletion takes the task's lines along. -/
theorem deleteTask_frame {user : User} {t : TaskId} {db db' : Database}
    (deleted : deleteTask user t db = .ok (some db')) :
    db'.gpus = db.gpus ∧ db'.modelInstances = db.modelInstances ∧
      db'.taskLogs = db.taskLogs.filter fun row => row.taskId ≠ t := by
  unfold deleteTask at deleted
  split at deleted
  · cases deleted
  · rename_i task owned
    obtain rfl := Table.key_of_get (getOwnedTask_ok owned)
    split at deleted
    · cases deleted
    · split at deleted <;> cases deleted
      exact ⟨rfl, rfl, rfl⟩

theorem handleCallback_tasks (now : Time) (payload : TaskCallbackRequest) (t : TaskId) (db : Database)
    (t' : TaskId) :
    (handleCallback now payload t db).2.tasks.get t' =
      if t' = t then (db.tasks.get t').map (calledBack now payload) else db.tasks.get t' := by
  unfold handleCallback
  cases found : db.tasks.get t with
  | none =>
      by_cases same : t' = t
      · rw [if_pos same, same, found, Option.map_none]
      · rw [if_neg same]
  | some task =>
      have here : task.id = t := Table.key_of_get found
      subst here
      exact Database.updateTask_get _ _ _ (calledBack_id now payload) _

theorem handleCallback_gpus (now : Time) (payload : TaskCallbackRequest) (t : TaskId) (db : Database) :
    (handleCallback now payload t db).2.gpus = db.gpus := by
  unfold handleCallback
  cases db.tasks.get t <;> rfl

end TaskService

end SuitApi
