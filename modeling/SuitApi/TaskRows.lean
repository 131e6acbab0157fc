import SuitApi.Lifecycle

/-! # Well-formed task rows

Readers of a task row rely on its columns fitting its status.  Each final status is
written in several places, each with its own list of columns; two of these places
leave a row that does not fit.
-/

namespace SuitApi.TaskRows

/-- The columns that fit the status of a row. -/
structure WellFormed (task : Task) : Prop where
  finished : task.finishedAt.isSome = true ↔ task.status ∈ [TaskStatus.success, .failed, .cancelled]
  running : task.status = .running →
    task.startedAt.isSome = true ∧ task.assignedNodeId.isSome = true ∧ task.containerId.isSome = true
  success : task.status = .success → task.startedAt.isSome = true ∧ task.finishedAt.isSome = true

/-- The platform, and the tasks whose final callback has arrived. -/
structure History extends World where
  finals : List TaskId := []

def delivered : Platform.Op → List TaskId
  | .callback _ payload t => if TaskService.publishesFinished payload then [t] else []
  | _ => []

def exec (op : Platform.Op) (s : History) : History where
  toWorld := Platform.exec op s.toWorld
  finals := s.finals ++ delivered op

def AllWellFormed (s : History) : Prop := ∀ t task, s.row t = some task → WellFormed task

/-- Callbacks arrive for launched tasks, and none after a final one. -/
def Orderly (s : History) : Platform.Op → Prop
  | .callback _ _ t => t ∈ s.launches ∧ t ∉ s.finals
  | _ => True

/-- A launch is accepted by the agent, and no `running` callback reaches a task that has
    been marked failed. -/
def Fills (s : History) : Platform.Op → Prop
  | .schedule env =>
      ∀ task a, Scheduler.plan env s.db (QueueManager.dequeue env.popFault s.queues).1 = .launch task a →
        (Scheduler.accepted (ContainerManager.launch env.settings env.agent task a)).isOk = true
  | .callback _ payload t => payload.status = .running → ∀ task, s.row t = some task → task.status ≠ .failed
  | _ => True

/-! ## The invariant of one task -/

structure Sound (s : History) (t : TaskId) : Prop where
  once : Lifecycle.AtMostOnce t s.toWorld
  fits : ∀ task, s.row t = some task → WellFormed task
  started : t ∈ s.launches → ∀ task, s.row t = some task → task.startedAt.isSome = true
  /-- Until its final callback arrives, a launched task runs or has been given up. -/
  waiting : t ∈ s.launches → t ∉ s.finals → ∀ task, s.row t = some task →
    task.status = .running ∨ task.status = .failed

/-- A launched task has a row, which has left `pending` and `queued`. -/
theorem Sound.launched {s : History} {t : TaskId} (sound : Sound s t) (inside : t ∈ s.launches) :
    s.launches.count t = 1 ∧ ∃ task, s.row t = some task ∧ task.status ≠ .pending ∧ task.status ≠ .queued := by
  have counted := List.count_pos_iff.mpr inside
  rcases sound.once with none | once
  · omega
  · exact once

/-! ## What the steps do to a well-formed row -/

section

variable {task : Task}

theorem unfinished (fits : WellFormed task) (status : task.status ∉ [TaskStatus.success, .failed, .cancelled]) :
    task.finishedAt = none := by
  rw [← fits.finished] at status
  simpa using status

theorem newTask_fits (t : TaskId) (now : Time) (user : User) (payload : TaskCreate) :
    WellFormed (TaskService.newTask t now user payload) := by
  constructor <;> simp [TaskService.newTask]

theorem submitted_fits (fits : WellFormed task) (pending : task.status = .pending) :
    WellFormed (TaskService.submitted task) := by
  have open_ := unfinished fits (by simp [pending])
  constructor <;> simp [TaskService.submitted, open_]

theorem cancelled_fits (now : Time) (task : Task) : WellFormed (TaskService.cancelled now task) := by
  constructor <;> simp [TaskService.cancelled]

theorem markRunning_fits (fits : WellFormed task) (queued : task.status = .queued) (a : Allocation)
    (id : ContainerId) (now : Time) (result : Dict) : WellFormed (Scheduler.markRunning a id now result task) := by
  have open_ := unfinished fits (by simp [queued])
  constructor <;> simp [Scheduler.markRunning, open_]

theorem markFailed_unfit (fits : WellFormed task) (queued : task.status = .queued) (exc : String) :
    ¬ WellFormed (Scheduler.markFailed exc task) := by
  intro marked
  have finished := marked.finished.mpr (by simp [Scheduler.markFailed])
  have open_ := unfinished fits (by simp [queued])
  simp [Scheduler.markFailed, open_] at finished

theorem clearGpuIndices_fits (fits : WellFormed task) : WellFormed (Scheduler.clearGpuIndices task) :=
  ⟨fits.finished, fits.running, fits.success⟩

theorem failLost_fits (sweep : MonitorService.Sweep) (task : Task) :
    WellFormed (MonitorService.failLost sweep task) := by
  constructor <;> simp [MonitorService.failLost]

theorem markBilled_fits (fits : WellFormed task) : WellFormed (BillingService.markBilled task) :=
  ⟨fits.finished, fits.running, fits.success⟩

/-- A callback leaves a well-formed row, unless it is a `running` one for a failed task. -/
theorem calledBack_fits_iff (fits : WellFormed task) (begun : task.startedAt.isSome = true)
    (waiting : task.status = .running ∨ task.status = .failed) (now : Time) (payload : TaskCallbackRequest) :
    WellFormed (TaskService.calledBack now payload task) ↔ (payload.status = .running → task.status ≠ .failed) := by
  cases arriving : payload.status with
  | running =>
      rcases waiting with running | failed
      · have open_ := unfinished fits (by simp [running])
        obtain ⟨_, node, container⟩ := fits.running running
        have named : (TaskService.withContainer payload task).isSome = true := by
          unfold TaskService.withContainer
          cases truthyText payload.containerId with
          | none => exact container
          | some id => rfl
        simp only [running, ne_eq, reduceCtorEq, not_false_eq_true, implies_true, iff_true]
        constructor <;> simp [TaskService.calledBack, arriving, open_, node, named]
      · simp only [failed, ne_eq, not_true_eq_false, imp_false, not_true_eq_false, iff_false]
        intro fitsAfter
        have finished := fits.finished.mpr (by simp [failed])
        have wrong := fitsAfter.finished.mp (by simpa [TaskService.calledBack, arriving] using finished)
        simp [TaskService.calledBack, arriving] at wrong
  | success =>
      simp only [reduceCtorEq, false_implies, iff_true]
      constructor <;> simp [TaskService.calledBack, arriving, begun]
  | failed =>
      simp only [reduceCtorEq, false_implies, iff_true]
      constructor <;> simp [TaskService.calledBack, arriving]

theorem calledBack_started (begun : task.startedAt.isSome = true) (now : Time) (payload : TaskCallbackRequest) :
    (TaskService.calledBack now payload task).startedAt.isSome = true := by
  unfold TaskService.calledBack
  cases payload.status with
  | running => simp
  | success => exact begun
  | failed => exact begun

end

/-! ## One step -/

theorem Sound.kept {s s' : History} {t : TaskId} (sound : Sound s t) (once : Lifecycle.AtMostOnce t s'.toWorld)
    (row : s'.row t = s.row t) (launches : t ∈ s'.launches → t ∈ s.launches)
    (finals : t ∉ s'.finals → t ∉ s.finals) : Sound s' t where
  once := once
  fits := by
    rw [row]
    exact sound.fits
  started inside := by
    rw [row]
    exact sound.started (launches inside)
  waiting inside outside := by
    rw [row]
    exact sound.waiting (launches inside) (finals outside)

/-- A row that has not been launched owes nothing to the callbacks. -/
theorem sound_of_unlaunched {s : History} {t : TaskId} (once : Lifecycle.AtMostOnce t s.toWorld)
    (unlaunched : t ∉ s.launches) (fits : ∀ task, s.row t = some task → WellFormed task) : Sound s t :=
  ⟨once, fits, fun inside => absurd inside unlaunched, fun inside => absurd inside unlaunched⟩

/-- All that is asked of the row that is there. -/
theorem sound_of_row {s : History} {t : TaskId} {task : Task} (once : Lifecycle.AtMostOnce t s.toWorld)
    (row : s.row t = some task) (fits : WellFormed task)
    (started : t ∈ s.launches → task.startedAt.isSome = true)
    (waiting : t ∈ s.launches → t ∉ s.finals → task.status = .running ∨ task.status = .failed) :
    Sound s t := by
  have only : ∀ other, s.row t = some other → other = task := by
    intro other found
    exact Option.some.inj (found.symm.trans row)
  constructor
  case once => exact once
  case fits =>
    intro other found
    rw [only other found]
    exact fits
  case started =>
    intro inside other found
    rw [only other found]
    exact started inside
  case waiting =>
    intro inside outside other found
    rw [only other found]
    exact waiting inside outside

/-- A step that launches nothing may end the wait of the row for its callbacks only by
    failing it. -/
theorem Sound.rewritten {s s' : History} {t : TaskId} {task task' : Task} (sound : Sound s t)
    (once : Lifecycle.AtMostOnce t s'.toWorld) (was : s.row t = some task) (is : s'.row t = some task')
    (launches : t ∈ s'.launches → t ∈ s.launches) (finals : t ∉ s'.finals → t ∉ s.finals) (fits : WellFormed task')
    (keeps : t ∈ s.launches → task'.startedAt = task.startedAt ∧
      (task'.status = task.status ∨ task'.status = .failed)) : Sound s' t := by
  apply sound_of_row once is fits
  · intro inside
    rw [(keeps (launches inside)).1]
    exact sound.started (launches inside) task was
  · intro inside outside
    rcases (keeps (launches inside)).2 with same | failed
    · rw [same]
      exact sound.waiting (launches inside) (finals outside) task was
    · exact .inr failed

theorem Sound.unlaunched {s : History} {t : TaskId} {task : Task} (sound : Sound s t) (found : s.row t = some task)
    (waits : task.status = .pending ∨ task.status = .queued) : t ∉ s.launches := by
  intro inside
  obtain ⟨_, task', found', left⟩ := sound.launched inside
  cases found.symm.trans found'
  rcases waits with pending | queued
  · exact left.1 pending
  · exact left.2 queued

theorem sound_schedule {s : History} {t : TaskId} (sound : Sound s t) {env : Scheduler.Env}
    (fills : Fills s (.schedule env)) : Sound (exec (.schedule env) s) t := by
  have once : Lifecycle.AtMostOnce t (exec (.schedule env) s).toWorld :=
    Lifecycle.atMostOnce_step t s.toWorld (.schedule env) sound.once
  have finals : (exec (.schedule env) s).finals = s.finals := List.append_nil _
  have launches : (exec (.schedule env) s).launches = s.launches ++
      ((Scheduler.scheduleOne env s.toStore).launched.map fun launch => launch.1.id).toList := rfl
  have row : (exec (.schedule env) s).row t = (Scheduler.scheduleOne env s.toStore).store.db.tasks.get t := rfl
  cases Scheduler.scheduleOne_rows env s.toStore with
  | kept launched tasks =>
      apply sound.kept once
      · rw [row, tasks]
      · simp [launches, launched]
      · simp [finals]
  | failed task a run exc launched reply =>
      obtain ⟨planned, same⟩ := Scheduler.launched_eq_some.mp launched
      have ok := fills task a planned
      rw [same, reply] at ok
      cases ok
  | started task a run id result launched reply left =>
      rw [left.tasks] at row
      by_cases mine : t = task.id
      · subst mine
        rw [if_pos rfl] at row
        apply sound_of_row once row
        · exact markRunning_fits (sound.fits task left.found) left.queued a id env.now result
        · exact fun _ => rfl
        · exact fun _ _ => .inl rfl
      · rw [if_neg mine] at row
        apply sound.kept once row
        · simp [launches, launched, mine]
        · simp [finals]

theorem sound_callback {s : History} {t u : TaskId} (sound : Sound s t) {now : Time} {payload : TaskCallbackRequest}
    (orderly : Orderly s (.callback now payload u)) (fills : Fills s (.callback now payload u)) :
    Sound (exec (.callback now payload u) s) t := by
  have once : Lifecycle.AtMostOnce t (exec (.callback now payload u) s).toWorld :=
    Lifecycle.atMostOnce_step t s.toWorld (.callback now payload u) sound.once
  have row : (exec (.callback now payload u) s).row t =
      if t = u then (s.row t).map (TaskService.calledBack now payload) else s.row t :=
    TaskService.handleCallback_tasks now payload u s.db t
  have finals : (exec (.callback now payload u) s).finals =
      s.finals ++ if TaskService.publishesFinished payload then [u] else [] := rfl
  by_cases mine : t = u
  · subst mine
    obtain ⟨_, task, found, _⟩ := sound.launched orderly.1
    rw [if_pos rfl, found, Option.map_some] at row
    have begun := sound.started orderly.1 task found
    have waiting := sound.waiting orderly.1 orderly.2 task found
    apply sound_of_row once row
    · exact (calledBack_fits_iff (sound.fits task found) begun waiting now payload).mpr
        fun running => fills running task found
    · exact fun _ => calledBack_started begun now payload
    · intro _ outside
      rw [TaskService.calledBack_status]
      cases arriving : payload.status with
      | running => exact .inl rfl
      | success | failed => simp [finals, TaskService.publishesFinished, arriving] at outside
  · rw [if_neg mine] at row
    apply sound.kept once row
    · exact id
    · intro outside inside
      exact outside (by rw [finals]; exact List.mem_append_left _ inside)

/-- The other steps write rows that fit, and launch nothing. -/
theorem sound_other {s : History} {t : TaskId} (sound : Sound s t) {op : Platform.Op}
    (noSchedule : ∀ env, op ≠ .schedule env) (noCallback : ∀ now payload u, op ≠ .callback now payload u) :
    Sound (exec op s) t := by
  have once : Lifecycle.AtMostOnce t (exec op s).toWorld := Lifecycle.atMostOnce_step t s.toWorld op sound.once
  obtain ⟨launched, step, count⟩ := Platform.exec_row op s.toWorld t
  have finals : t ∉ (exec op s).finals → t ∉ s.finals := fun outside inside =>
    outside (List.mem_append_left _ inside)
  have launches : launched = 0 → t ∈ (exec op s).launches → t ∈ s.launches := by
    intro none inside
    have counted := List.count_pos_iff.mpr inside
    apply List.count_pos_iff.mp
    have same : (exec op s).launches.count t = s.launches.count t + launched := count
    omega
  have fits := sound.fits
  simp only [World.row] at fits
  generalize old : s.db.tasks.get t = before, new : (Platform.exec op s.toWorld).db.tasks.get t = after at step fits
  cases step with
  | kept => exact sound.kept once (new.trans old.symm) (launches rfl) finals
  | created now user payload named =>
      apply sound_of_unlaunched once
      · intro inside
        obtain ⟨_, task, found, _⟩ := sound.launched (launches rfl inside)
        rw [World.row, old] at found
        cases found
      · intro task found
        cases found.symm.trans new
        exact newTask_fits t now user payload
  | submitted fault enqueuedAt user pending =>
      apply sound.rewritten once old new (launches rfl) finals (submitted_fits (fits _ rfl) pending)
      exact fun inside => absurd inside (sound.unlaunched old (.inl pending))
  | cancelled now user waits =>
      apply sound.rewritten once old new (launches rfl) finals (cancelled_fits now _)
      exact fun inside => absurd inside (sound.unlaunched old waits)
  | calledBack now payload => exact absurd rfl (noCallback now payload t)
  | started env => exact absurd rfl (noSchedule env)
  | failed env => exact absurd rfl (noSchedule env)
  | cleared task =>
      apply sound.rewritten once old new (launches rfl) finals (clearGpuIndices_fits (fits _ rfl))
      exact fun _ => ⟨rfl, .inl rfl⟩
  | lost sweep hit =>
      apply sound.rewritten once old new (launches rfl) finals (failLost_fits sweep _)
      exact fun _ => ⟨rfl, .inr rfl⟩
  | billed rate success =>
      apply sound.rewritten once old new (launches rfl) finals (markBilled_fits (fits _ rfl))
      exact fun _ => ⟨rfl, .inl rfl⟩

theorem sound_step {s : History} {t : TaskId} (sound : Sound s t) {op : Platform.Op} (orderly : Orderly s op)
    (fills : Fills s op) : Sound (exec op s) t := by
  cases op with
  | schedule env => exact sound_schedule sound fills
  | callback now payload u => exact sound_callback sound orderly fills
  | _ => exact sound_other sound (by simp) (by simp)

/-- After an orderly step every row fits exactly when the step fills in what it has to. -/
theorem fits_after_iff {s : History} (sound : ∀ t, Sound s t) {op : Platform.Op} (orderly : Orderly s op) :
    AllWellFormed (exec op s) ↔ Fills s op := by
  constructor
  · intro fits
    cases op with
    | schedule env =>
        intro task a planned
        have launched := Scheduler.launched_eq_some.mpr ⟨planned, rfl⟩
        cases Scheduler.scheduleOne_rows env s.toStore with
        | kept quiet =>
            rw [quiet] at launched
            cases launched
        | failed task' a' run exc launched' reply found queued tasks =>
            have row : (exec (.schedule env) s).row task'.id = some (Scheduler.markFailed exc task') :=
              (tasks task'.id).trans (if_pos rfl)
            exact absurd (fits _ _ row) (markFailed_unfit ((sound task'.id).fits task' found) queued exc)
        | started task' a' run id result launched' reply =>
            rw [launched', Option.some.injEq, Prod.mk.injEq, Prod.mk.injEq] at launched
            rw [← launched.2.2, reply]
            rfl
    | callback now payload u =>
        intro running task found
        have begun := (sound u).started orderly.1 task found
        have waiting := (sound u).waiting orderly.1 orderly.2 task found
        have row : (exec (.callback now payload u) s).row u = some (TaskService.calledBack now payload task) := by
          have written := TaskService.handleCallback_tasks now payload u s.db u
          rw [if_pos rfl, show s.db.tasks.get u = some task from found] at written
          exact written
        exact (calledBack_fits_iff ((sound u).fits task found) begun waiting now payload).mp (fits _ _ row) running
    | _ => trivial
  · intro fills t task found
    exact (sound_step (sound t) orderly fills).fits task found

/-! ## Runs -/

theorem sound_start {s : History} (noTasks : ∀ t, s.row t = none) (noLaunches : s.launches = []) (t : TaskId) :
    Sound s t := by
  apply sound_of_unlaunched
  · exact .inl (by rw [noLaunches]; rfl)
  · simp [noLaunches]
  · intro task found
    rw [noTasks] at found
    cases found

/-- Along an orderly run that starts without tasks, every row fits its status if and only if
    every launch is accepted and no `running` callback reaches a failed task. -/
theorem rows_fit_iff {s : History} (noTasks : ∀ t, s.row t = none) (noLaunches : s.launches = [])
    {ops : List Platform.Op} (orderly : Runs.Along exec Orderly ops s) :
    Runs.Along exec (fun s op => AllWellFormed (exec op s)) ops s ↔ Runs.Along exec Fills ops s := by
  have congr : Runs.Along exec (fun s op => Orderly s op ∧ AllWellFormed (exec op s)) ops s ↔
      Runs.Along exec (fun s op => Orderly s op ∧ Fills s op) ops s := by
    apply Runs.along_congr (I := fun s => ∀ t, Sound s t) _ _ (sound_start noTasks noLaunches)
    · intro s op sound both t
      exact sound_step (sound t) both.1 ((fits_after_iff sound both.1).mp both.2)
    · intro s op sound
      constructor
      · intro both
        exact ⟨both.1, (fits_after_iff sound both.1).mp both.2⟩
      · intro both
        exact ⟨both.1, (fits_after_iff sound both.1).mpr both.2⟩
  rw [Runs.along_and, Runs.along_and] at congr
  simpa only [orderly, true_and] using congr

/-! ## One node with one GPU -/

open Platform

/-- The node has reported its GPU. -/
def sample : History := { toWorld := Platform.exec (Sample.beat 0 []) {} }

def completed : List Op := Sample.launch "t" "c" 1 ++ [Sample.callback 2 .running "t", Sample.callback 3 .success "t"]

theorem completed_rows_fit : Runs.Along exec (fun s op => AllWellFormed (exec op s)) completed sample := by
  apply (rows_fit_iff (fun _ => rfl) rfl _).mpr
  · refine ⟨trivial, trivial, ?_, ?_, ?_, trivial⟩
    · intro task a planned
      obtain ⟨found, _⟩ := Scheduler.plan_launch planned
      have only : task = TaskService.submitted (TaskService.newTask "t" 1 Sample.user Sample.payload) :=
        List.mem_singleton.mp (Table.mem_of_get found)
      rw [only]
      rfl
    · intro _ task found
      cases found
      decide
    · intro running
      cases running
  · exact ⟨trivial, trivial, trivial, ⟨by decide, by decide⟩, ⟨by decide, by decide⟩, trivial⟩

/-- The agent refuses the launch, and the failed task has no `finished_at`. -/
theorem failed_launch_unfinished : ¬ ∀ (s : History) (ops : List Op), (∀ t, s.row t = none) → s.launches = [] →
    Runs.Along exec Orderly ops s → Runs.Along exec (fun s op => AllWellFormed (exec op s)) ops s := by
  intro all
  have along := all sample
    [.create "t" 1 Sample.user Sample.payload, .submit .none "" Sample.user "t",
      .schedule { agent := fun _ => { response := .error "500 Internal Server Error" } }]
    (fun _ => rfl) rfl ⟨trivial, trivial, trivial, trivial⟩
  have marked := along.2.2.1 "t" _ rfl
  exact absurd (marked.finished.mpr (by decide)) (by decide)

end SuitApi.TaskRows
