import SuitApi.Platform

/-! # The log of a task tells its status

Every operation on a task writes a line into `task_logs` in the transaction in which it
writes the row.  Read back in order, the lines of a task are its history: the last one that
tells of a status tells the one in its row.  What a container prints stands between these
lines under sources of its own and cannot be mistaken for them.
-/

namespace SuitApi.LogReplay

/-! ## Reading the log -/

def startsWith (start text : String) : Bool := start.toList.isPrefixOf text.toList

/-- The status that a line tells of, if it tells of one. -/
def told (line : TaskLog) : Option TaskStatus :=
  if line.source = "system" then
    if startsWith "Task scheduled to node " line.message then some .running
    else if startsWith "Task launch failed: " line.message then some .failed
    else if line.message = "task created" then some .pending
    else if line.message = "task submitted to scheduler queue" then some .queued
    else if line.message = "task cancelled" then some .cancelled
    else none
  else if line.source = "agent" then
    if line.message = "task is running" then some .running
    else if line.message = "task finished successfully" then some .success
    else if line.message = "task failed" then some .failed
    else none
  else none

/-- The status at the end of a task's lines. -/
def replay (t : TaskId) (logs : List TaskLog) : Option TaskStatus :=
  ((logs.filter fun line => line.taskId = t).filterMap told).getLast?

/-- The log of every task tells the status in its row, and a task without a row has told nothing. -/
def Told (db : Database) : Prop :=
  ∀ t, replay t db.taskLogs = (db.tasks.get t).map (·.status)

theorem replay_append (t : TaskId) (logs more : List TaskLog) :
    replay t (logs ++ more) = (replay t more).or (replay t logs) := by
  simp only [replay, List.filter_append, List.filterMap_append, List.getLast?_append]

theorem replay_other {t : TaskId} {logs : List TaskLog} (others : ∀ line ∈ logs, line.taskId ≠ t) :
    replay t logs = none := by
  have empty : logs.filter (fun line => line.taskId = t) = [] := by simpa using others
  rw [replay, empty]
  rfl

theorem replay_line (t : TaskId) (line : TaskLog) :
    replay t [line] = if line.taskId = t then told line else none := by
  by_cases own : line.taskId = t
  · cases tells : told line <;> simp [replay, own, tells]
  · simp [replay, own]

/-! ## What the program's lines tell -/

theorem startsWith_append (start rest : String) : startsWith start (start ++ rest) = true := by
  simp [startsWith, String.toList_append]

theorem told_scheduled (t : TaskId) (rest : String) :
    told ⟨t, "system", "Task scheduled to node " ++ rest⟩ = some .running := by
  simp only [told, if_true, startsWith_append]

theorem told_launchFailed (t : TaskId) (exc : String) :
    told ⟨t, "system", "Task launch failed: " ++ exc⟩ = some .failed := by
  have other : startsWith "Task scheduled to node " ("Task launch failed: " ++ exc) = false := by
    simp [startsWith, String.toList_append, List.isPrefixOf]
  simp only [told, if_true, other, startsWith_append, Bool.false_eq_true, if_false]

/-- What a container prints tells nothing. -/
theorem told_output {line : TaskLog} (output : line.source = "stdout" ∨ line.source = "stderr") :
    told line = none := by
  rcases output with out | err
  · simp [told, out]
  · simp [told, err]

/-- The lines of a callback tell the status it writes, whatever text comes with it. -/
theorem replay_callback (payload : TaskCallbackRequest) (t : TaskId) (now : Time) (task : Task) :
    replay t (TaskService.callbackLogs payload t) = some (TaskService.calledBack now payload task).status := by
  have printed : ∀ (text : Option String) (source : String), source = "stdout" ∨ source = "stderr" →
      replay t (text.toList.map fun text => ⟨t, source, text⟩) = none := by
    intro text source output
    cases text with
    | none => rfl
    | some text =>
        simp only [Option.toList_some, List.map_cons, List.map_nil, replay_line, if_true]
        exact told_output output
  rw [TaskService.callbackLogs, replay_append, printed _ _ (.inl rfl), Option.none_or, TaskService.calledBack]
  cases payload.status with
  | running => simp [replay_line, told]
  | success => simp [replay_line, told]
  | failed =>
      simp only
      rw [← List.singleton_append, replay_append, printed _ _ (.inr rfl), Option.none_or]
      simp [replay_line, told]

theorem callbackLogs_own {payload : TaskCallbackRequest} {t : TaskId} {line : TaskLog}
    (inside : line ∈ TaskService.callbackLogs payload t) : line.taskId = t := by
  unfold TaskService.callbackLogs at inside
  cases payload.status <;> grind

/-! ## What a step adds -/

/-- The step only adds lines, and the statuses after it are those that they tell. -/
def Narrates (db db' : Database) : Prop :=
  ∃ added, db'.taskLogs = db.taskLogs ++ added ∧
    ∀ t, (db'.tasks.get t).map (·.status) = (replay t added).or ((db.tasks.get t).map (·.status))

theorem Narrates.told {db db' : Database} (h : Narrates db db') (before : Told db) : Told db' := by
  obtain ⟨added, logs, rows⟩ := h
  intro t
  rw [logs, replay_append, rows, before]

theorem narrates_refl (db : Database) : Narrates db db := ⟨[], by simp, fun _ => rfl⟩

theorem narrates_silent {db db' : Database} (logs : db'.taskLogs = db.taskLogs)
    (rows : ∀ t, (db'.tasks.get t).map (·.status) = (db.tasks.get t).map (·.status)) : Narrates db db' :=
  ⟨[], by simp [logs], fun t => by rw [rows]; rfl⟩

/-- One line about the row that changes. -/
theorem narrates_line {db db' : Database} (line : TaskLog) (logs : db'.taskLogs = db.taskLogs ++ [line])
    (own : (db'.tasks.get line.taskId).map (·.status) =
      (told line).or ((db.tasks.get line.taskId).map (·.status)))
    (others : ∀ t, t ≠ line.taskId → db'.tasks.get t = db.tasks.get t) : Narrates db db' := by
  refine ⟨[line], logs, ?_⟩
  intro t
  rw [replay_line]
  by_cases same : line.taskId = t
  · rw [if_pos same, ← same]
    exact own
  · rw [if_neg same, others t (Ne.symm same)]
    rfl

/-! ## The scheduler -/

theorem settle_narrates (env : Scheduler.Env) {db : Database} {task : Task} (a : Allocation) (run : AgentRun)
    (found : db.tasks.get task.id = some task) : Narrates db (Scheduler.settle env db task a run) := by
  have released : (GpuAllocator.release (GpuAllocator.mark db a .allocated) a).taskLogs = db.taskLogs := by
    unfold GpuAllocator.release
    split <;> rfl
  have rows := Scheduler.settle_tasks env db task a run
  have others : ∀ t, t ≠ task.id → (Scheduler.settle env db task a run).tasks.get t = db.tasks.get t := by
    intro t other
    rw [rows, if_neg other]
  have own := rows task.id
  rw [if_pos rfl, found, Option.map_some] at own
  cases reply : Scheduler.accepted run with
  | ok accepted =>
      obtain ⟨id, result⟩ := accepted
      obtain ⟨rest, logs⟩ : ∃ rest, (Scheduler.settle env db task a run).taskLogs =
          db.taskLogs ++ [⟨task.id, "system", "Task scheduled to node " ++ rest⟩] := by
        refine ⟨a.nodeId ++ (", gpus=" ++ (Scheduler.intListText a.gpuIndices ++ (", container_id=" ++ (id ++ ".")))), ?_⟩
        simp only [Scheduler.settle, reply, Database.addLog, String.append_assoc]
        rfl
      apply narrates_line _ logs _ others
      rw [own, reply, told_scheduled, Option.some_or]
      rfl
  | error exc =>
      have logs : (Scheduler.settle env db task a run).taskLogs =
          db.taskLogs ++ [⟨task.id, "system", "Task launch failed: " ++ exc⟩] := by
        rw [← released]
        simp only [Scheduler.settle, reply]
        rfl
      apply narrates_line _ logs _ others
      rw [own, reply, told_launchFailed, Option.some_or]
      rfl

theorem schedule_narrates (env : Scheduler.Env) (s : Store) : Narrates s.db (Scheduler.scheduleOne env s).store.db := by
  unfold Scheduler.scheduleOne
  simp only
  generalize QueueManager.dequeue env.popFault s.queues = popped
  cases planned : Scheduler.plan env s.db popped.1 with
  | ignored | skipped | raised => exact narrates_refl s.db
  | requeue task fields priority =>
      -- the line about the wait tells no status
      apply narrates_line ⟨task.id, "system", "No available GPU or online node, task requeued."⟩ rfl
      · simp [told, startsWith]
      · exact fun _ _ => rfl
  | launch task a => exact settle_narrates env a _ (Scheduler.plan_launch planned).1

theorem finishTask_narrates (db : Database) (t : TaskId) : Narrates db (Scheduler.finishTask db t) := by
  have released : (GpuAllocator.releaseByTask db t).tasks = db.tasks ∧
      (GpuAllocator.releaseByTask db t).taskLogs = db.taskLogs := by
    unfold GpuAllocator.releaseByTask GpuAllocator.release
    grind [GpuAllocator.mark]
  have rows := Scheduler.finishTask_tasks db t
  cases found : db.tasks.get t with
  | none =>
      apply narrates_silent
      · simp [Scheduler.finishTask, released, found]
      · intro u
        rw [rows]
        split
        · rename_i same
          rw [same, found]
          rfl
        · rfl
  | some task =>
      apply narrates_line ⟨t, "system", "Task finished notification received, GPUs released."⟩
      · simp [Scheduler.finishTask, released, found, Database.addLog, Database.updateTask]
      · rw [rows, if_pos rfl, found]
        simp [told, startsWith]
        rfl
      · intro u other
        rw [rows, if_neg other]

/-! ## Every step -/

/-- Every operation but the monitor's narrates what it does. -/
theorem exec_narrates (op : Platform.Op) (monitor : ∀ sweep, op ≠ .markOffline sweep) (w : World) :
    Narrates w.db (Platform.exec op w).db := by
  cases op with
  | markOffline sweep => exact absurd rfl (monitor sweep)
  | queues | container | remove => exact narrates_refl w.db
  | schedule env => exact schedule_narrates env w.toStore
  | finished t =>
      simp only [Platform.exec]
      split
      · exact narrates_refl w.db
      · exact finishTask_narrates w.db t
  | create t now user payload =>
      simp only [Platform.exec]
      split
      · rename_i db created
        obtain ⟨fresh, _, _, rows⟩ := TaskService.createTask_get created
        obtain ⟨_, tasks, _, rfl⟩ := TaskService.createTask_spec created
        apply narrates_line ⟨t, "system", "task created"⟩ rfl
        · rw [rows, if_pos rfl]
          simp [told, startsWith, TaskService.newTask]
        · intro u other
          rw [rows, if_neg other]
      · exact narrates_refl w.db
  | submit fault enqueuedAt user t =>
      simp only [Platform.exec]
      rcases TaskService.submitTask_cases fault enqueuedAt user t w.toStore with same | ⟨task, found, _, wrote⟩
      · rw [same]
        exact narrates_refl w.db
      · rw [wrote]
        apply narrates_line ⟨t, "system", "task submitted to scheduler queue"⟩ rfl
        · rw [Database.addLog_tasks, Database.updateTask_get, if_pos rfl, found]
          simp [told, startsWith, TaskService.submitted]
        · intro u other
          rw [Database.addLog_tasks, Database.updateTask_get, if_neg other]
  | cancel now user t =>
      simp only [Platform.exec]
      rcases TaskService.cancelTask_cases now user t w.db with same | ⟨task, found, _, wrote⟩
      · rw [same]
        exact narrates_refl w.db
      · rw [wrote]
        apply narrates_line ⟨t, "system", "task cancelled"⟩ rfl
        · rw [Database.addLog_tasks, Database.updateTask_get, if_pos rfl, found]
          simp [told, startsWith, TaskService.cancelled]
        · intro u other
          rw [Database.addLog_tasks, Database.updateTask_get, if_neg other]
  | callback now payload t =>
      have rows := TaskService.handleCallback_tasks now payload t w.db
      simp only [Platform.exec]
      cases found : w.db.tasks.get t with
      | none =>
          rw [TaskService.handleCallback, found]
          exact narrates_refl w.db
      | some task =>
          have here : task.id = t := Table.key_of_get found
          refine ⟨TaskService.callbackLogs payload t, ?_, ?_⟩
          · rw [TaskService.handleCallback, found, ← here]
            rfl
          · intro u
            rw [rows]
            by_cases same : u = t
            · rw [if_pos same, same, found, replay_callback payload t now task]
              rfl
            · rw [if_neg same, replay_other, Option.none_or]
              intro line inside own
              exact same (own.symm.trans (callbackLogs_own inside))
  | heartbeat env payload =>
      simp only [Platform.exec]
      split
      · rename_i db handled
        obtain ⟨_, _, _, _, _, _, _, _, rfl⟩ := NodeService.handleHeartbeat_tables handled
        exact narrates_silent rfl fun _ => rfl
      · exact narrates_refl w.db
  | billing rate =>
      simp only [Platform.exec]
      split
      · rename_i db _ done
        have logs : db.taskLogs = w.db.taskLogs := by rw [BillingService.calculateTaskBilling_frame done]
        apply narrates_silent logs
        intro t
        obtain ⟨_, _, _, _, fates⟩ := BillingService.calculateTaskBilling_spec done
        cases fates t with
        | untouched outside same none => rw [same]
        | processed task inside here billed outcome row =>
            obtain ⟨member, _⟩ := List.mem_filter.mp inside
            have found : w.db.tasks.get t = some task := here ▸ Table.get_of_mem member
            rw [row, found]
            cases billed <;> rfl
      · exact narrates_refl w.db

inductive Op where
  | platform (op : Platform.Op)
  | delete (user : User) (t : TaskId)

def exec : Op → World → World
  | .platform op, w => Platform.exec op w
  | .delete user t, w =>
      match TaskService.deleteTask user t w.db with
      | .ok (some db) => { w with db }
      | _ => w

/-- The step is no sweep that fails a task. -/
def FailsNone (w : World) : Op → Prop
  | .platform (.markOffline sweep) =>
      ∀ task ∈ w.db.tasks.rows, MonitorService.impacted (MonitorService.lostNodes sweep w.db) task = false
  | _ => True

/-- A deletion takes the lines of its task and no others. -/
theorem delete_told (user : User) (t : TaskId) {w : World} (before : Told w.db) :
    Told (exec (.delete user t) w).db := by
  simp only [exec]
  split
  · rename_i db deleted
    obtain ⟨⟨task, found, _⟩, _, _, _, rows⟩ := TaskService.deleteTask_spec deleted
    have logs := (TaskService.deleteTask_frame deleted).2.2
    intro u
    rw [logs, rows]
    by_cases same : u = t
    · rw [if_pos same, replay_other]
      · rfl
      · intro line inside
        simpa [same] using (List.mem_filter.mp inside).2
    · rw [if_neg same, ← before u, replay, replay, List.filter_filter]
      congr 3
      funext line
      by_cases own : line.taskId = u <;> simp [own, same]
  · exact before

/-- A sweep that fails a task does not say so. -/
theorem sweep_told (sweep : MonitorService.Sweep) {w : World} (before : Told w.db) :
    Told (Platform.exec (.markOffline sweep) w).db ↔ FailsNone w (.platform (.markOffline sweep)) := by
  have logs : (Platform.exec (.markOffline sweep) w).db.taskLogs = w.db.taskLogs := by
    simp only [Platform.exec, MonitorService.markOfflineNodes]
    split <;> rfl
  have rows : ∀ t, ((Platform.exec (.markOffline sweep) w).db.tasks.get t).map (·.status) =
      (w.db.tasks.get t).map fun task =>
        if MonitorService.impacted (MonitorService.lostNodes sweep w.db) task then .failed else task.status := by
    intro t
    simp only [Platform.exec, MonitorService.markOfflineNodes_tasks, Option.map_map]
    congr 1
    funext task
    rw [Function.comp_apply]
    split <;> rfl
  constructor
  · intro after task inside
    have found := Table.get_of_mem inside
    have same := (rows task.id).symm.trans ((after task.id).symm.trans (logs ▸ before task.id))
    rw [found, Option.map_some, Option.map_some, Option.some.injEq] at same
    by_contra hit
    rw [Bool.not_eq_false] at hit
    rw [if_pos hit] at same
    rcases MonitorService.impacted_status hit with queued | running
    · cases same.trans queued
    · cases same.trans running
  · intro spared t
    rw [logs, before, rows]
    cases found : w.db.tasks.get t with
    | none => rfl
    | some task =>
        have kept := spared task (Table.mem_of_get found)
        rw [Option.map_some, Option.map_some, if_neg (by simp [kept])]

theorem step_iff (op : Op) {w : World} (before : Told w.db) : Told (exec op w).db ↔ FailsNone w op := by
  cases op with
  | delete user t => exact iff_of_true (delete_told user t before) trivial
  | platform op =>
      cases op with
      | markOffline sweep => exact sweep_told sweep before
      | _ => exact iff_of_true ((exec_narrates _ (by simp) w).told before) trivial

/-- In every run from the empty database the lines of each task tell the status in its row,
    after every step, as long as no sweep fails a task, and no longer. -/
theorem log_tells_status_iff (ops : List Op) :
    Runs.Along exec (fun w op => Told (exec op w).db) ops {} ↔ Runs.Along exec FailsNone ops {} := by
  apply Runs.along_congr (I := fun w : World => Told w.db)
  · exact fun _ _ _ kept => kept
  · exact fun w op before => step_iff op before
  · exact fun _ => rfl

end SuitApi.LogReplay
