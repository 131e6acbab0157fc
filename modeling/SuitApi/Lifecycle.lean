import SuitApi.Platform

/-! # The life of a task

Two laws of the status column over whole runs of the platform.  The scheduler
launches a task at most once, because a launch always leaves `queued` and nothing
leads back to it.  The documented state machine is followed as long as the agents'
callbacks arrive in order, and only as long: `handle_callback` has no guard.
-/

namespace SuitApi.Lifecycle

open Platform

/-! ## At most one launch -/

/-- Either `t` has not been launched, or it has been launched once and has left
    the states from which a launch is possible. -/
def AtMostOnce (t : TaskId) (w : World) : Prop :=
  w.launches.count t = 0 ∨
    (w.launches.count t = 1 ∧
      ∃ task, w.row t = some task ∧ task.status ≠ .pending ∧ task.status ≠ .queued)

/-- A queued task has not been launched. -/
theorem AtMostOnce.not_launched {task : Task} {w : World} (h : AtMostOnce task.id w)
    (found : w.db.tasks.get task.id = some task) (queued : task.status = .queued) : task.id ∉ w.launches := by
  rcases h with none | ⟨_, row, found', _, left⟩
  · exact List.count_eq_zero.mp none
  · rw [World.row, found] at found'
    cases found'
    exact absurd queued left

/-- A row that has left `pending` and `queued` stays outside and is not launched. -/
theorem left_step {t : TaskId} {op : Op} {task : Task} {row : Option Task} {launched : Nat}
    (step : RowStep t op (some task) row launched) (left : task.status ≠ .pending ∧ task.status ≠ .queued) :
    launched = 0 ∧ ∃ task', row = some task' ∧ task'.status ≠ .pending ∧ task'.status ≠ .queued := by
  cases step with
  | kept => exact ⟨rfl, task, rfl, left⟩
  | submitted fault enqueuedAt user pending => exact absurd pending left.1
  | cancelled now user waiting => exact absurd waiting (by simp [left])
  | calledBack now payload =>
      refine ⟨rfl, _, rfl, ?_⟩
      rw [TaskService.calledBack_status]
      cases payload.status <;> decide
  | started env queued => exact absurd queued left.2
  | failed env queued => exact absurd queued left.2
  | cleared => exact ⟨rfl, _, rfl, left⟩
  | lost sweep hit => exact ⟨rfl, _, rfl, nofun, nofun⟩
  | billed rate success => exact ⟨rfl, _, rfl, left⟩

theorem atMostOnce_step (t : TaskId) (w : World) (op : Op) (before : AtMostOnce t w) :
    AtMostOnce t (exec op w) := by
  obtain ⟨launched, step, count⟩ := exec_row op w t
  rcases before with none | ⟨once, task, found, left⟩
  · rw [none, Nat.zero_add] at count
    cases launched with
    | zero => exact .inl count
    | succ more =>
        generalize w.db.tasks.get t = old, new : (exec op w).db.tasks.get t = new' at step
        cases step with
        | started => exact .inr ⟨count, _, new, nofun, nofun⟩
        | failed => exact .inr ⟨count, _, new, nofun, nofun⟩
  · rw [World.row] at found
    rw [found] at step
    obtain ⟨rfl, task', here, left'⟩ := left_step step left
    exact .inr ⟨by rw [count, once], task', here, left'⟩

/-- Whatever stands in the queues and whatever the backend, the agents and the
    monitor do, `ContainerManager.launch` is called at most once for each task. -/
theorem launch_at_most_once (store : Store) (containers : List Container) (ops : List Op) (t : TaskId) :
    (Runs.run exec ops { toStore := store, containers }).launches.count t ≤ 1 := by
  have bounded : AtMostOnce t (Runs.run exec ops { toStore := store, containers }) :=
    Runs.run_invariant (atMostOnce_step t) ops (.inl rfl)
  rcases bounded with none | ⟨once, _⟩
  · omega
  · omega

/-! ## The documented state machine -/

/-- The changes of status that the documentation allows in the step `op`; only
    the scheduler and the node monitor may fail a queued task. -/
inductive Documented (op : Op) : TaskStatus → TaskStatus → Prop
  | submitted : Documented op .pending .queued
  | started : Documented op .queued .running
  | launchFailed (env : Scheduler.Env) (here : op = .schedule env) : Documented op .queued .failed
  | nodeLost (sweep : MonitorService.Sweep) (here : op = .markOffline sweep) : Documented op .queued .failed
  | succeeded : Documented op .running .success
  | failed : Documented op .running .failed
  | withdrawn : Documented op .pending .cancelled
  | cancelled : Documented op .queued .cancelled

/-- Every change of a task's status in this step is documented. -/
def Follows (w : World) (op : Op) : Prop :=
  ∀ t task task', w.row t = some task → (exec op w).row t = some task' →
    task.status ≠ task'.status → Documented op task.status task'.status

/-- A callback with this status may arrive for a task in that state. -/
def inOrder (old : TaskStatus) (arriving : CallbackStatus) : Bool :=
  match old, arriving with
  | .queued, .running | .running, _ | .success, .success | .failed, .failed => true
  | _, _ => false

/-- If the step is a callback for a task that exists, the callback is in order. -/
def InOrder (w : World) : Op → Prop
  | .callback _ payload t => ∀ task, w.row t = some task → inOrder task.status payload.status = true
  | _ => True

theorem callback_documented_iff {op : Op} {now : Time} {payload : TaskCallbackRequest} {t : TaskId}
    (here : op = .callback now payload t) (old : TaskStatus) :
    (old ≠ payload.status.taskStatus → Documented op old payload.status.taskStatus) ↔
      inOrder old payload.status = true := by
  subst here
  constructor
  · intro documented
    cases old <;> cases arriving : payload.status <;> try rfl
    all_goals
      rw [arriving] at documented
      cases documented (by decide) <;> contradiction
  · intro order different
    cases old <;> cases arriving : payload.status <;> rw [arriving] at order different
    all_goals first
      | exact .started
      | exact .succeeded
      | exact .failed
      | exact absurd rfl different
      | cases order

theorem follows_iff (w : World) (op : Op) : Follows w op ↔ InOrder w op := by
  have other : (∀ now payload t, op ≠ .callback now payload t) → Follows w op := by
    intro quiet t task task' found found' different
    obtain ⟨launched, step, _⟩ := exec_row op w t
    rw [World.row] at found found'
    rw [found, found'] at step
    cases step with
    | kept => exact absurd rfl different
    | submitted fault enqueuedAt user pending =>
        rw [pending]
        exact .submitted
    | cancelled now user waiting =>
        rcases waiting with pending | queued
        · rw [pending]
          exact .withdrawn
        · rw [queued]
          exact .cancelled
    | calledBack now payload => exact absurd rfl (quiet now payload t)
    | started env queued =>
        rw [queued]
        exact .started
    | failed env queued =>
        rw [queued]
        exact .launchFailed env rfl
    | cleared => exact absurd rfl different
    | lost sweep hit =>
        rcases hit with queued | running
        · rw [queued]
          exact .nodeLost sweep rfl
        · rw [running]
          exact .failed
    | billed rate success => exact absurd rfl different
  cases op with
  | callback now payload t =>
      have written : ∀ t', (exec (.callback now payload t) w).row t' =
          if t' = t then (w.row t').map (TaskService.calledBack now payload) else w.row t' :=
        fun t' => TaskService.handleCallback_tasks now payload t w.db t'
      constructor
      · intro follows task found
        apply (callback_documented_iff rfl task.status).mp
        intro different
        have documented := follows t task _ found (by rw [written, if_pos rfl, found]; rfl)
        rw [TaskService.calledBack_status] at documented
        exact documented different
      · intro order t' task task' found found' different
        rw [written] at found'
        split at found'
        · rename_i same
          subst same
          rw [found] at found'
          cases found'
          rw [TaskService.calledBack_status] at different ⊢
          exact (callback_documented_iff rfl task.status).mpr (order task found) different
        · rw [found] at found'
          cases found'
          exact absurd rfl different
  | _ => exact ⟨fun _ => trivial, fun _ => other (by simp)⟩

/-- A run follows the documented state machine exactly when every callback in it
    arrives in order. -/
theorem state_machine_iff (w : World) (ops : List Op) :
    Runs.Along exec Follows ops w ↔ Runs.Along exec InOrder ops w :=
  Runs.along_congr (I := fun _ => True) (fun _ _ _ _ => trivial) (fun w op _ => follows_iff w op) trivial

/-- A task is launched and ends in success. -/
def success : List Op :=
  Sample.beat 0 [] :: (Sample.launch "t" "c" 1 ++ [Sample.callback 2 .success "t"])

/-- A repeated `running` callback takes a finished task out of `success`. -/
theorem late_running_callback : ¬ ∀ ops : List Op, Runs.Along exec Follows ops {} := by
  intro all
  have along : Runs.Along exec Follows (success ++ Sample.callback 3 .running "t" :: []) {} := all _
  have change : Documented (Sample.callback 3 .running "t") .success .running :=
    along.here "t" _ _ rfl rfl (by decide)
  cases change

end SuitApi.Lifecycle
