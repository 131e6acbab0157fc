import SuitApi.ForeignKeys

/-! # Deleting a finished task

Logs go with their task and billing records let go of it.  The container rows that the
heartbeats bring refer to it as well, and the deletion does not reckon with them.
-/

namespace SuitApi.Deletions

open TaskService

def Finished (task : Task) : Prop := task.status ∈ [TaskStatus.success, .failed, .cancelled]

instance (task : Task) : Decidable (Finished task) := inferInstanceAs (Decidable (_ ∈ _))

/-- The task and its logs are gone, and its billing records keep all but the reference. -/
structure Removed (t : TaskId) (db db' : Database) : Prop where
  tasks : db'.tasks.rows = db.tasks.rows.filter fun row => row.id ≠ t
  taskLogs : db'.taskLogs = db.taskLogs.filter fun row => row.taskId ≠ t
  billingRecords : db'.billingRecords = db.billingRecords.map fun row =>
    if row.taskId = some t then { row with taskId := none } else row
  others : db' =
    { db with tasks := db'.tasks, taskLogs := db'.taskLogs, billingRecords := db'.billingRecords }

/-- Whoever may delete a finished task can do so. -/
def Deletable (db : Database) : Prop :=
  ∀ task ∈ db.tasks.rows, Finished task → ∀ user, Owned user task →
    ∃ db', deleteTask user task.id db = .ok (some db') ∧ Removed task.id db db'

/-- No container row refers to a finished task. -/
def Unreferenced (db : Database) : Prop :=
  ∀ row ∈ db.runningContainers.rows, ∀ task ∈ db.tasks.rows, row.taskId = some task.id → ¬ Finished task

theorem deleteTask_owned {user : User} {task : Task} {db : Database} (stored : task ∈ db.tasks.rows)
    (owned : Owned user task) (finished : Finished task) :
    deleteTask user task.id db =
      if db.runningContainers.rows.any fun row => row.taskId = some task.id then .ok none
      else .ok (some { db with
        tasks := db.tasks.deleteWhere fun row => row.id = task.id
        taskLogs := db.taskLogs.filter fun row => row.taskId ≠ task.id
        billingRecords := db.billingRecords.map fun row =>
          if row.taskId = some task.id then { row with taskId := none } else row }) := by
  have found := getOwnedTask_eq (Table.get_of_mem stored) user
  rw [if_pos owned] at found
  have passed : ¬ task.status ∉ [TaskStatus.success, .failed, .cancelled] := not_not.mpr finished
  simp only [deleteTask, found, if_neg passed]

theorem deletable_iff {db : Database} : Deletable db ↔ Unreferenced db := by
  constructor
  · intro deletable row inside task stored refers finished
    obtain ⟨db', deleted, _⟩ := deletable task stored finished { id := "", role := "admin" } (.inl rfl)
    have referenced : db.runningContainers.rows.any (fun row => row.taskId = some task.id) = true :=
      List.any_eq_true.mpr ⟨row, inside, decide_eq_true refers⟩
    rw [deleteTask_owned stored (.inl rfl) finished, if_pos referenced] at deleted
    cases deleted
  · intro unreferenced task stored finished user owned
    have free : ¬ db.runningContainers.rows.any (fun row => row.taskId = some task.id) = true := by
      intro referenced
      obtain ⟨row, inside, refers⟩ := List.any_eq_true.mp referenced
      exact unreferenced row inside task stored (of_decide_eq_true refers) finished
    rw [deleteTask_owned stored owned finished, if_neg free]
    refine ⟨_, rfl, ?_, rfl, rfl, rfl⟩
    rw [Table.deleteWhere_rows]
    apply List.filter_congr
    intro other _
    rw [decide_not]

/-! ## What a step must not do -/

/-- The step finishes the task `t`. -/
def Finishes (w : World) (t : TaskId) : Platform.Op → Prop
  | .callback _ payload t' => t = t' ∧ publishesFinished payload = true
  | .cancel _ user t' => t = t' ∧ ∃ task, w.row t = some task ∧ Owned user task ∧
      (task.status = .pending ∨ task.status = .queued)
  | .markOffline sweep => ∃ task, w.row t = some task ∧
      MonitorService.impacted (MonitorService.lostNodes sweep w.db) task = true
  | .schedule env => ∃ task a, task.id = t ∧
      Scheduler.plan env w.db (QueueManager.dequeue env.popFault w.queues).1 = .launch task a ∧
      (Scheduler.accepted (ContainerManager.launch env.settings env.agent task a)).isOk = false
  | _ => False

/-- A heartbeat that is stored reports no container of a finished task. -/
def ReportsNone (env : NodeService.Env) (payload : HeartbeatPayload) (db : Database) : Prop :=
  (NodeService.handleHeartbeat env payload db).isSome = true →
    ∀ item ∈ payload.runningContainers, ∀ task ∈ db.tasks.rows, item.taskId = some task.id → ¬ Finished task

/-- A step finishes no task while a container row refers to it, and a heartbeat that is
    stored reports no container of a finished task. -/
def Spares (w : World) : ForeignKeys.Op → Prop
  | .platform (.heartbeat env payload) => ReportsNone env payload w.db
  | .heartbeat env reading => ReportsNone env (Platform.buildPayload reading.payload w) w.db
  | .platform op => ∀ row ∈ w.db.runningContainers.rows, ∀ task ∈ w.db.tasks.rows,
      row.taskId = some task.id → ¬ Finishes w task.id op
  | _ => True

/-! ## The rows that a step finishes -/

theorem finished_calledBack (now : Time) {payload : TaskCallbackRequest} (task : Task) :
    Finished (calledBack now payload task) ↔ publishesFinished payload = true := by
  rw [Finished, calledBack_status, publishesFinished]
  cases payload.status <;> simp [CallbackStatus.taskStatus]

/-- `cancel_task` writes the row that it is for, if its guards let it. -/
theorem cancelTask_row (now : Time) (user : User) (t' : TaskId) (db : Database) (t : TaskId) :
    (cancelTask now user t' db).2.tasks.get t = (db.tasks.get t).map fun task =>
      if t = t' ∧ Owned user task ∧ (task.status = .pending ∨ task.status = .queued) then cancelled now task
      else task := by
  cases here : db.tasks.get t' with
  | none =>
      have refused : getOwnedTask db t' user = .error notFound := by simp only [getOwnedTask, here]
      simp only [cancelTask, refused]
      by_cases same : t = t'
      · rw [same, here, Option.map_none]
      · simp [same]
  | some task =>
      have own := getOwnedTask_eq here user
      obtain rfl := Table.key_of_get here
      by_cases owned : Owned user task
      · rw [if_pos owned] at own
        by_cases waits : task.status = .pending ∨ task.status = .queued
        · have passed : cancelGuard task = .ok () := if_pos waits
          simp only [cancelTask, own, passed, Database.addLog_tasks, Database.updateTask_get]
          by_cases same : t = task.id
          · simp [same, here, owned, waits]
          · simp [same]
        · have refused : ∃ refusal, cancelGuard task = .error refusal := ⟨_, if_neg waits⟩
          obtain ⟨refusal, refused⟩ := refused
          simp only [cancelTask, own, refused]
          by_cases same : t = task.id
          · simp [same, here, waits]
          · simp [same]
      · rw [if_neg owned] at own
        simp only [cancelTask, own]
        by_cases same : t = task.id
        · simp [same, here, owned]
        · simp [same]

/-- The operations that finish tasks. -/
def finishesTasks : Platform.Op → Bool
  | .cancel _ _ _ | .callback _ _ _ | .schedule _ | .markOffline _ => true
  | _ => false

/-- No other operation does. -/
theorem finished_before {op : Platform.Op} (quiet : finishesTasks op = false) {w : World} {t : TaskId}
    {task' : Task} (after : (Platform.exec op w).row t = some task') (finished : Finished task') :
    ∃ task, w.row t = some task ∧ Finished task := by
  obtain ⟨launched, step, _⟩ := Platform.exec_row op w t
  have row : (Platform.exec op w).db.tasks.get t = some task' := after
  rw [row] at step
  simp only [World.row]
  generalize w.db.tasks.get t = old at step
  cases step with
  | kept => exact ⟨task', rfl, finished⟩
  | created => simp [Finished, newTask] at finished
  | submitted => simp [Finished, submitted] at finished
  | cleared task => exact ⟨task, rfl, finished⟩
  | billed rate success => exact ⟨_, rfl, finished⟩
  | cancelled | calledBack | started | failed | lost => cases quiet

/-- A row that is finished after a step was so before, or the step finishes it. -/
theorem finished_after (op : Platform.Op) {w : World} {t : TaskId} {task' : Task}
    (after : (Platform.exec op w).row t = some task') (finished : Finished task') :
    ∃ task, w.row t = some task ∧ (Finished task ∨ Finishes w t op) := by
  cases op with
  | cancel now user t' =>
      simp only [World.row, Platform.exec, cancelTask_row] at after
      obtain ⟨task, found, written⟩ := Option.map_eq_some_iff.mp after
      refine ⟨task, found, ?_⟩
      split at written
      · rename_i passed
        exact .inr ⟨passed.1, task, found, passed.2⟩
      · subst written
        exact .inl finished
  | markOffline sweep =>
      simp only [World.row, Platform.exec, MonitorService.markOfflineNodes_tasks] at after
      obtain ⟨task, found, written⟩ := Option.map_eq_some_iff.mp after
      refine ⟨task, found, ?_⟩
      split at written
      · rename_i hit
        exact .inr ⟨task, found, hit⟩
      · subst written
        exact .inl finished
  | callback now payload t' =>
      simp only [World.row, Platform.exec, handleCallback_tasks] at after
      split at after
      · rename_i same
        obtain ⟨task, found, rfl⟩ := Option.map_eq_some_iff.mp after
        exact ⟨task, found, .inr ⟨same, (finished_calledBack now task).mp finished⟩⟩
      · exact ⟨task', after, .inl finished⟩
  | schedule env =>
      have row : (Platform.exec (.schedule env) w).row t =
          (Scheduler.scheduleOne env w.toStore).store.db.tasks.get t := rfl
      rw [row] at after
      cases Scheduler.scheduleOne_rows env w.toStore with
      | kept launched tasks =>
          rw [tasks] at after
          exact ⟨task', after, .inl finished⟩
      | failed task a run exc launched reply found queued tasks =>
          obtain ⟨planned, same⟩ := Scheduler.launched_eq_some.mp launched
          rw [tasks] at after
          split at after
          · rename_i mine
            refine ⟨task, mine ▸ found, .inr ⟨task, a, mine.symm, planned, ?_⟩⟩
            rw [same, reply]
            rfl
          · exact ⟨task', after, .inl finished⟩
      | started task a run id result launched reply left =>
          rw [left.tasks] at after
          split at after
          · cases after
            simp [Finished, Scheduler.markRunning] at finished
          · exact ⟨task', after, .inl finished⟩
  | _ =>
      obtain ⟨task, found, before⟩ := finished_before rfl after finished
      exact ⟨task, found, .inl before⟩

/-- What a step finishes, is finished after it. -/
theorem finished_of_finishes {op : Platform.Op} {w : World} {t : TaskId} (finishes : Finishes w t op)
    (stored : (w.row t).isSome = true) :
    ∃ task', (Platform.exec op w).row t = some task' ∧ Finished task' := by
  cases op with
  | cancel now user t' =>
      obtain ⟨same, task, found, passed⟩ := finishes
      refine ⟨cancelled now task, ?_, by simp [Finished, cancelled]⟩
      simp only [World.row, Platform.exec, cancelTask_row]
      rw [show w.db.tasks.get t = some task from found, Option.map_some, if_pos ⟨same, passed⟩]
  | markOffline sweep =>
      obtain ⟨task, found, hit⟩ := finishes
      refine ⟨MonitorService.failLost sweep task, ?_, by simp [Finished, MonitorService.failLost]⟩
      simp only [World.row, Platform.exec, MonitorService.markOfflineNodes_tasks]
      rw [show w.db.tasks.get t = some task from found, Option.map_some, if_pos hit]
  | callback now payload t' =>
      obtain ⟨task, found⟩ := Option.isSome_iff_exists.mp stored
      refine ⟨calledBack now payload task, ?_, (finished_calledBack now task).mpr finishes.2⟩
      simp only [World.row, Platform.exec, handleCallback_tasks, if_pos finishes.1]
      rw [show w.db.tasks.get t = some task from found, Option.map_some]
  | schedule env =>
      obtain ⟨task, a, rfl, planned, refused⟩ := finishes
      have launched := Scheduler.launched_eq_some.mpr ⟨planned, rfl⟩
      have row : (Platform.exec (.schedule env) w).row task.id =
          (Scheduler.scheduleOne env w.toStore).store.db.tasks.get task.id := rfl
      rw [row]
      cases Scheduler.scheduleOne_rows env w.toStore with
      | kept quiet =>
          rw [quiet] at launched
          cases launched
      | failed task' a' run exc launched' reply found queued tasks =>
          rw [launched', Option.some.injEq, Prod.mk.injEq] at launched
          obtain ⟨rfl, _⟩ := launched
          exact ⟨_, (tasks task'.id).trans (if_pos rfl), by simp [Finished, Scheduler.markFailed]⟩
      | started task' a' run id result launched' reply =>
          rw [launched', Option.some.injEq, Prod.mk.injEq, Prod.mk.injEq] at launched
          rw [← launched.2.2, reply] at refused
          cases refused
  | _ => exact finishes.elim

/-! ## One step -/

theorem unreferenced_of_tables {db db' : Database} (unreferenced : Unreferenced db)
    (containers : db'.runningContainers = db.runningContainers)
    (tasks : ∀ task ∈ db'.tasks.rows, task ∈ db.tasks.rows) : Unreferenced db' := by
  intro row inside task stored
  rw [containers] at inside
  exact unreferenced row inside task (tasks task stored)

theorem mem_of_row {w : World} {t : TaskId} {task : Task} (found : w.row t = some task) :
    task ∈ w.db.tasks.rows ∧ task.id = t := Table.get_eq_some.mp found

/-- A heartbeat leaves the rows of other nodes and what it reports. -/
theorem heartbeat_iff {env : NodeService.Env} {payload : HeartbeatPayload} {w : World}
    (unreferenced : Unreferenced w.db) :
    Unreferenced (Platform.exec (.heartbeat env payload) w).db ↔ ReportsNone env payload w.db := by
  unfold ReportsNone
  cases handled : NodeService.handleHeartbeat env payload w.db with
  | none => simp [Platform.exec, handled, unreferenced]
  | some db =>
      obtain ⟨node, nodes, spec⟩ := NodeService.handleHeartbeat_spec handled
      have rows := NodeService.insertContainers_rows spec.containers
      simp only [Platform.exec, handled, Option.isSome_some, true_implies]
      constructor
      · intro after item reported task stored refers
        apply after (NodeService.containerRow node.id item) _ task (spec.tasks ▸ stored) refers
        rw [rows]
        exact List.mem_append_right _ (List.mem_map_of_mem reported)
      · intro none row inside task stored refers
        rw [spec.tasks] at stored
        rw [rows] at inside
        rcases List.mem_append.mp inside with old | new
        · exact unreferenced row (List.mem_of_mem_filter old) task stored refers
        · obtain ⟨item, reported, rfl⟩ := List.mem_map.mp new
          exact none item reported task stored refers

/-- Any other operation of the platform may finish only tasks that no row refers to. -/
theorem platform_iff {op : Platform.Op} (quiet : ∀ env payload, op ≠ .heartbeat env payload) {w : World}
    (unreferenced : Unreferenced w.db) :
    Unreferenced (Platform.exec op w).db ↔ ∀ row ∈ w.db.runningContainers.rows, ∀ task ∈ w.db.tasks.rows,
      row.taskId = some task.id → ¬ Finishes w task.id op := by
  have containers := (Platform.exec_frame op w quiet).2
  constructor
  · intro after row inside task stored refers finishes
    obtain ⟨task', found, finished⟩ :=
      finished_of_finishes finishes (by rw [World.row, Table.get_of_mem stored]; rfl)
    obtain ⟨stored', same⟩ := mem_of_row found
    exact after row (by rw [containers]; exact inside) task' stored' (by rw [same]; exact refers) finished
  · intro spared row inside task' stored refers finished
    rw [containers] at inside
    obtain ⟨task, found, before⟩ := finished_after op (Table.get_of_mem stored) finished
    obtain ⟨stored', same⟩ := mem_of_row found
    rw [← same] at refers
    rcases before with before | finishes
    · exact unreferenced row inside task stored' refers before
    · exact spared row inside task stored' refers (same ▸ finishes)

theorem step_iff (op : ForeignKeys.Op) {w : World} (unreferenced : Unreferenced w.db) :
    Unreferenced (ForeignKeys.step op w).db ↔ Spares w op := by
  cases op with
  | platform op =>
      cases op with
      | heartbeat env payload => exact heartbeat_iff unreferenced
      | _ => exact platform_iff (fun _ _ => by rintro ⟨⟩) unreferenced
  | heartbeat env reading => exact heartbeat_iff unreferenced
  | createModel id payload =>
      refine iff_of_true ?_ trivial
      simp only [ForeignKeys.step]
      split
      · rename_i db created
        obtain ⟨models, rfl⟩ := ForeignKeys.createModel_spec created
        exact unreferenced
      · exact unreferenced
  | deploy env id =>
      have extended := ForeignKeys.deployed_extends env id w
      refine iff_of_true (unreferenced_of_tables unreferenced extended.runningContainers ?_) trivial
      intro task stored
      exact extended.tasks ▸ stored
  | delete user t =>
      refine iff_of_true ?_ trivial
      simp only [ForeignKeys.step]
      split
      · rename_i db deleted
        obtain ⟨_, _, _, containers, tasks⟩ := deleteTask_spec deleted
        apply unreferenced_of_tables unreferenced containers
        intro task stored
        have found := Table.get_of_mem stored
        rw [tasks] at found
        split at found
        · cases found
        · exact Table.mem_of_get found
      · exact unreferenced

/-! ## Runs -/

/-- Along a run that starts without container rows, every finished task can be deleted at
    all times if and only if every step spares the tasks that are referred to. -/
theorem deletable_iff_spared {w : World} (empty : w.db.runningContainers.rows = []) (ops : List ForeignKeys.Op) :
    Runs.Along ForeignKeys.step (fun w op => Deletable (ForeignKeys.step op w).db) ops w ↔
      Runs.Along ForeignKeys.step Spares ops w := by
  apply Runs.along_congr (I := fun w => Unreferenced w.db)
  · intro w op _ deletable
    exact deletable_iff.mp deletable
  · intro w op unreferenced
    rw [deletable_iff]
    exact step_iff op unreferenced
  · intro row inside
    rw [empty] at inside
    cases inside

/-! ## A task on one node -/

namespace Sample

open Platform.Sample

/-- The task has run to its end. -/
def completed : List ForeignKeys.Op :=
  .platform (beat 0 []) :: (launch "t" "c" 1 ++ [callback 2 .success "t"]).map .platform

/-- The container has stopped, and the agent goes on to report it. -/
def reported : ForeignKeys.Op :=
  .platform (beat 3 [{ containerId := "c", taskId := some "t", status := .exited, gpuIndices := [0] }])

end Sample

theorem completed_deletable :
    Runs.Along ForeignKeys.step (fun w op => Deletable (ForeignKeys.step op w).db) Sample.completed {} := by
  apply (deletable_iff_spared rfl _).mpr
  refine ⟨fun _ _ inside => ?_, fun _ inside => ?_, fun _ inside => ?_, fun _ inside => ?_, fun _ inside => ?_,
    trivial⟩ <;> cases inside

/-- The container of a completed task keeps it from being deleted. -/
theorem exited_container_refuses : ¬ ∀ (w : World) (ops : List ForeignKeys.Op), w.db.runningContainers.rows = [] →
    Runs.Along ForeignKeys.step (fun w op => Deletable (ForeignKeys.step op w).db) ops w := by
  intro all
  have along := all {} (Sample.completed ++ [Sample.reported]) rfl
  have last := (Runs.along_append.mp along).2.1
  have unreferenced := deletable_iff.mp last
  exact unreferenced _ (List.mem_singleton_self _) _ (List.mem_singleton_self _) rfl (by decide)

end SuitApi.Deletions
