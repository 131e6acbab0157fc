import Mathlib.Data.List.InsertIdx
import SuitApi.Exclusive

/-! # Orders of snapshot, launch and delivery

A heartbeat reports what its agent saw when it was built.  Whether it takes a GPU away when it
arrives depends only on what has been launched in between: a task that was launched before the
snapshot, and whose container is still alive, is in it.
-/

namespace SuitApi.SnapshotOrder

open NodeService
open Platform (RowStep addresses buildPayload exec_frame exec_row schedule)
open HeartbeatRace (Op Net Alive InUse Kept TakesNothing UpToDate reportedUsed)

/-- The net, with the tasks that had been launched when each heartbeat was built. -/
structure Dated where
  world : World := {}
  inFlight : List (HeartbeatPayload × List TaskId) := []

def Dated.net (d : Dated) : Net where
  world := d.world
  inFlight := d.inFlight.map Prod.fst

def exec (op : Op) (d : Dated) : Dated where
  world := (HeartbeatRace.exec op d.net).world
  inFlight := match op with
    | .snapshot reading => d.inFlight ++ [(buildPayload reading d.world, d.world.launches)]
    | .deliver i _ => d.inFlight.eraseIdx i
    | _ => d.inFlight

/-! ## The conditions -/

/-- The task runs on the GPU, and its container is alive. -/
def UsedBy (w : World) (t : TaskId) (node : NodeId) (index : Int) : Prop :=
  ∃ task, w.row t = some task ∧ task.status = .running ∧ task.Lists node index ∧ Alive w t

/-- A heartbeat reports the GPUs used by the tasks launched since its snapshot as used, if it
    reports them at all. -/
def LaterReported (d : Dated) : Op → Prop
  | .deliver i env => ∀ payload earlier, d.inFlight[i]? = some (payload, earlier) →
      (handleHeartbeat env payload d.world.db).isSome = true →
      ∀ node nodes index info, findNode env payload.ip d.world.db = some (node, nodes) →
        (∃ t ∉ earlier, UsedBy d.world t node.id index) → lastReport index payload.gpus = some info →
        reportedUsed payload info
  | _ => True

/-- No launch falls between a snapshot and its delivery. -/
def InOrder (d : Dated) : Op → Prop
  | .deliver i _ => ∀ payload earlier, d.inFlight[i]? = some (payload, earlier) →
      ∀ t ∈ d.world.launches, t ∈ earlier
  | _ => True

/-! ## What every run keeps -/

/-- Containers belong to launched tasks, and have the GPUs that the rows of running tasks list. -/
structure Placed (w : World) : Prop where
  once : ∀ t, Lifecycle.AtMostOnce t w
  launched : ∀ c ∈ w.containers, ∀ t, c.taskId = some t → t ∈ w.launches
  gpus : ∀ c ∈ w.containers, ∀ t task node index, c.taskId = some t → w.row t = some task →
    task.status = .running → task.Lists node index →
      (node, c.nodeIp) ∈ addresses w.db ∧ index ∈ c.gpuIndices

/-- The heartbeat has the GPUs of every live container that was there when it was built. -/
structure Told (w : World) (heartbeat : HeartbeatPayload × List TaskId) : Prop where
  earlier : ∀ t ∈ heartbeat.2, t ∈ w.launches
  active : ∀ c ∈ w.containers, c.alive = true → c.nodeIp = heartbeat.1.ip →
    ∀ t ∈ heartbeat.2, c.taskId = some t → ∀ index ∈ c.gpuIndices, index ∈ activeGpuIndices heartbeat.1

theorem placed_empty : Placed {} where
  once t := .inl rfl
  launched c inside := by cases inside
  gpus c inside := by cases inside

/-- What a launch adds, if there is one, is a container of a task that was not launched before. -/
theorem schedule_added {w : World} (h : Placed w) (env : Scheduler.Env) {c : Container}
    (inside : c ∈ (schedule env w).containers) :
    c ∈ w.containers ∨ ∃ task a run, (Scheduler.scheduleOne env w.toStore).launched = some (task, a, run) ∧
      task.id ∉ w.launches ∧ c.taskId = some task.id ∧ c.gpuIndices = a.gpuIndices ∧
        (a.nodeId, c.nodeIp) ∈ addresses w.db := by
  rcases Exclusive.schedule_launched env w with ⟨_, same, _⟩ | ⟨task, a, run, launch⟩
  · rw [same] at inside
    exact .inl inside
  · rw [launch.containers] at inside
    rcases List.mem_append.mp inside with old | new
    · exact .inl old
    · right
      obtain ⟨_, _, label, here, gpus⟩ := LaunchFailure.mem_startedContainer new
      obtain ⟨planned, _⟩ := Scheduler.launched_eq_some.mp launch.launched
      obtain ⟨found, queued, _⟩ := Scheduler.plan_launch planned
      have fresh := (h.once task.id).not_launched found queued
      exact ⟨task, a, run, launch.launched, fresh, label, gpus, here ▸ launch.address⟩

/-- What runs after a call was running and was not launched, or the call has started it. -/
theorem schedule_running {env : Scheduler.Env} {w : World} {t : TaskId} {row : Task}
    (found : (schedule env w).row t = some row) (running : row.status = .running) :
    (w.row t = some row ∧ ∀ task a run,
      (Scheduler.scheduleOne env w.toStore).launched = some (task, a, run) → t ≠ task.id) ∨
    ∃ task a run id result, (Scheduler.scheduleOne env w.toStore).launched = some (task, a, run) ∧ t = task.id ∧
      w.row task.id = some task ∧ task.status = .queued ∧ row = Scheduler.markRunning a id env.now result task := by
  simp only [schedule, World.row] at found ⊢
  have apart : ∀ {task a run}, (Scheduler.scheduleOne env w.toStore).launched = some (task, a, run) → t ≠ task.id →
      ∀ task' a' run', (Scheduler.scheduleOne env w.toStore).launched = some (task', a', run') → t ≠ task'.id := by
    intro task a run launched other task' a' run' same
    rw [launched] at same
    cases same
    exact other
  cases Scheduler.scheduleOne_rows env w.toStore with
  | kept quiet tasks =>
      rw [tasks] at found
      refine .inl ⟨found, fun task a run launched => ?_⟩
      rw [quiet] at launched
      cases launched
  | failed task a run exc launched _ _ _ tasks =>
      rw [tasks] at found
      split at found
      · cases found
        cases running
      · rename_i other
        exact .inl ⟨found, apart launched other⟩
  | started task a run id result launched _ left =>
      rw [left.tasks] at found
      split at found
      · rename_i same
        exact .inr ⟨task, a, run, id, result, launched, same, left.found, left.queued, (Option.some.inj found).symm⟩
      · rename_i other
        exact .inl ⟨found, apart launched other⟩

theorem Placed.schedule {w : World} (h : Placed w) (env : Scheduler.Env) : Placed (schedule env w) where
  once t := Lifecycle.atMostOnce_step t w (.schedule env) (h.once t)
  launched c inside t label := by
    rcases schedule_added h env inside with old | ⟨task, a, run, launched, _, mine, _⟩
    · exact LaunchFailure.launches_step (.schedule env) w (h.launched c old t label)
    · rw [label, Option.some.injEq] at mine
      simp [Platform.schedule, launched, mine]
  gpus c inside t row node index label found running listed := by
    have address : addresses (Platform.schedule env w).db = addresses w.db :=
      (exec_frame (.schedule env) w (by simp)).1
    rw [address]
    have added := schedule_added h env inside
    rcases schedule_running found running with ⟨before, other⟩ | ⟨task, a, run, id, result, launched, rfl, was, queued, rfl⟩
    · rcases added with old | ⟨task, a, run, launched, _, mine, _⟩
      · exact h.gpus c old t row node index label before running listed
      · rw [label, Option.some.injEq] at mine
        exact absurd mine (other task a run launched)
    · rcases added with old | ⟨task', a', run', launched', _, _, gpus, here⟩
      · have fresh := (h.once task.id).not_launched was queued
        exact absurd (h.launched c old task.id label) fresh
      · rw [launched] at launched'
        cases launched'
        obtain ⟨rfl, inside⟩ : a.nodeId = node ∧ index ∈ a.gpuIndices := ⟨Option.some.inj listed.1, listed.2⟩
        exact ⟨here, gpus ▸ inside⟩

/-- Outside of callbacks and launches no task starts to run. -/
theorem running_before {t : TaskId} {op : Platform.Op} {old new : Option Task} {n : Nat} (step : RowStep t op old new n)
    (other : ∀ env, op ≠ .schedule env) (silent : ∀ now payload t, op ≠ .callback now payload t) {task : Task}
    (here : new = some task) (running : task.status = .running) {node : NodeId} {index : Int}
    (listed : task.Lists node index) : old = some task := by
  subst here
  cases step with
  | kept => rfl
  | created | submitted | cancelled => cases running
  | calledBack now payload => exact absurd rfl (silent now payload t)
  | started env | failed env => exact absurd rfl (other env)
  | cleared => cases listed.2
  | lost => cases running
  | billed rate success =>
      have success' : TaskStatus.success = .running := success.symm.trans running
      cases success'

theorem Placed.step {w : World} (h : Placed w) (op : Platform.Op)
    (silent : ∀ now payload t, op ≠ .callback now payload t) : Placed (Platform.exec op w) := by
  by_cases other : ∀ env, op ≠ .schedule env
  · refine ⟨fun t => Lifecycle.atMostOnce_step t w op (h.once t), ?_, ?_⟩
    · intro c inside t label
      obtain ⟨old, before, same, _⟩ := LaunchFailure.containers_step other w inside
      exact LaunchFailure.launches_step op w (h.launched old before t (same ▸ label))
    · intro c inside t task node index label found running listed
      obtain ⟨old, before, same, sameNode, sameGpus, _⟩ := LaunchFailure.containers_step other w inside
      obtain ⟨launched, step, _⟩ := exec_row op w t
      have was := running_before step other silent found running listed
      obtain ⟨known, has⟩ := h.gpus old before t task node index (same ▸ label) was running listed
      exact ⟨Exclusive.exec_addresses op w (sameNode ▸ known), sameGpus ▸ has⟩
  · push Not at other
    obtain ⟨env, rfl⟩ := other
    exact h.schedule env

theorem Told.step {w : World} (placed : Placed w) {heartbeat : HeartbeatPayload × List TaskId} (h : Told w heartbeat)
    (op : Platform.Op) : Told (Platform.exec op w) heartbeat where
  earlier t inside := LaunchFailure.launches_step op w (h.earlier t inside)
  active c inside alive here t before label index has := by
    by_cases other : ∀ env, op ≠ .schedule env
    · obtain ⟨old, member, same, sameNode, sameGpus, lived⟩ := LaunchFailure.containers_step other w inside
      exact h.active old member (lived alive) (sameNode ▸ here) t before (same ▸ label) index (sameGpus ▸ has)
    · push Not at other
      obtain ⟨env, rfl⟩ := other
      rcases schedule_added placed env inside with old | ⟨task, a, run, _, fresh, mine, _⟩
      · exact h.active c old alive here t before label index has
      · rw [label, Option.some.injEq] at mine
        exact absurd (mine ▸ h.earlier t before) fresh

theorem told_snapshot (w : World) (reading : HeartbeatPayload) : Told w (buildPayload reading w, w.launches) where
  earlier _ inside := inside
  active _ inside alive here _ _ _ _ has := Exclusive.mem_active_buildPayload inside alive here has

structure Inv (d : Dated) : Prop where
  kept : Kept d.world
  placed : Placed d.world
  told : ∀ heartbeat ∈ d.inFlight, Told d.world heartbeat

theorem inv_start : Inv {} where
  kept := HeartbeatRace.kept_empty
  placed := placed_empty
  told heartbeat inside := by cases inside

/-! ## The steps -/

theorem exec_net (op : Op) (d : Dated) : (exec op d).net = HeartbeatRace.exec op d.net := by
  cases op with
  | create | submit | schedule | container => rfl
  | snapshot reading => simp [exec, Dated.net, HeartbeatRace.exec]
  | deliver i env =>
      simp only [exec, Dated.net, HeartbeatRace.exec]
      split
      · rw [List.eraseIdx_map]
      · rename_i missing
        rw [← List.eraseIdx_map, List.eraseIdx_of_length_le (List.getElem?_eq_none_iff.mp missing)]

/-- What a step does to the world, an operation of the platform other than a callback does, or none. -/
theorem exec_world (op : Op) (d : Dated) : (exec op d).world = d.world ∨
    ∃ op', (∀ now payload t, op' ≠ .callback now payload t) ∧ (exec op d).world = Platform.exec op' d.world := by
  cases op with
  | create t now user payload => exact .inr ⟨.create t now user payload, by simp, rfl⟩
  | submit fault enqueuedAt user t => exact .inr ⟨.submit fault enqueuedAt user t, by simp, rfl⟩
  | schedule env => exact .inr ⟨.schedule env, by simp, rfl⟩
  | container id status => exact .inr ⟨.container id status, by simp, rfl⟩
  | snapshot reading => exact .inl rfl
  | deliver i env =>
      simp only [exec, HeartbeatRace.exec]
      split
      · rename_i payload _
        exact .inr ⟨.heartbeat env payload, by simp, rfl⟩
      · exact .inl rfl

theorem inv_step (d : Dated) (op : Op) (h : Inv d) (takes : TakesNothing d.net op) : Inv (exec op d) := by
  have kept : Kept (exec op d).world := HeartbeatRace.kept_step d.net op h.kept takes
  have lasts : Placed (exec op d).world ∧ ∀ heartbeat, Told d.world heartbeat → Told (exec op d).world heartbeat := by
    rcases exec_world op d with same | ⟨op', silent, moved⟩
    · rw [same]
      exact ⟨h.placed, fun _ told => told⟩
    · rw [moved]
      exact ⟨h.placed.step op' silent, fun _ told => told.step h.placed op'⟩
  refine ⟨kept, lasts.1, ?_⟩
  intro heartbeat inside
  cases op with
  | create | submit | schedule | container => exact lasts.2 heartbeat (h.told heartbeat inside)
  | deliver i env => exact lasts.2 heartbeat (h.told heartbeat (List.mem_of_mem_eraseIdx inside))
  | snapshot reading =>
      rcases List.mem_append.mp inside with old | new
      · exact lasts.2 heartbeat (h.told heartbeat old)
      · rw [List.mem_singleton.mp new]
        exact told_snapshot d.world reading

/-- What a task launched before the snapshot uses, the heartbeat reports as used. -/
theorem Inv.earlier {d : Dated} (h : Inv d) {payload : HeartbeatPayload} {earlier : List TaskId}
    (waiting : (payload, earlier) ∈ d.inFlight) {env : NodeService.Env} {node : Node} {nodes : Table Node.id}
    (located : findNode env payload.ip d.world.db = some (node, nodes)) {t : TaskId} (before : t ∈ earlier)
    {index : Int} (used : UsedBy d.world t node.id index) {info : GpuInfo}
    (reported : lastReport index payload.gpus = some info) : reportedUsed payload info := by
  obtain ⟨task, found, running, listed, c, inside, label, alive⟩ := used
  obtain ⟨known, has⟩ := h.placed.gpus c inside t task node.id index label found running listed
  have here : c.nodeIp = payload.ip := Exclusive.located_address located known
  left
  rw [lastReport_index reported]
  exact (h.told _ waiting).active c inside alive here t before label index has

theorem takesNothing_iff_laterReported (d : Dated) (op : Op) (h : Inv d) :
    TakesNothing d.net op ↔ LaterReported d op := by
  rw [HeartbeatRace.takesNothing_iff d.net op h.kept]
  cases op with
  | create | submit | schedule | container | snapshot => exact Iff.rfl
  | deliver i env =>
      have lookup : d.net.inFlight[i]? = (d.inFlight[i]?).map Prod.fst := List.getElem?_map
      simp only [UpToDate, LaterReported, lookup]
      constructor
      · rintro upToDate payload earlier waiting committed node nodes index info located ⟨t, _, used⟩ reported
        have first : (d.inFlight[i]?).map Prod.fst = some payload := by rw [waiting, Option.map_some]
        exact upToDate payload first committed node nodes index info located ⟨t, used⟩ reported
      · rintro later payload first committed node nodes index info located ⟨t, used⟩ reported
        obtain ⟨⟨_, earlier⟩, waiting, rfl⟩ := Option.map_eq_some_iff.mp first
        by_cases before : t ∈ earlier
        · exact h.earlier (List.mem_of_getElem? waiting) located before used reported
        · exact later _ earlier waiting committed node nodes index info located ⟨t, before, used⟩ reported

/-! ## Runs -/

theorem along_net {P : Net → Op → Prop} (ops : List Op) (d : Dated) :
    Runs.Along HeartbeatRace.exec P ops d.net ↔ Runs.Along exec (fun d op => P d.net op) ops d := by
  induction ops generalizing d with
  | nil => exact Iff.rfl
  | cons op rest ih =>
      rw [Runs.Along, Runs.Along, ← exec_net, ih]

/-- Only the launches between a snapshot and its delivery decide: a run takes no GPU away exactly
    when every heartbeat reports what was launched since its snapshot as used. -/
theorem later_launches_iff (ops : List Op) :
    Runs.Along HeartbeatRace.exec TakesNothing ops {} ↔ Runs.Along exec LaterReported ops {} := by
  refine (along_net ops {}).trans ?_
  exact Runs.along_congr (I := Inv) inv_step takesNothing_iff_laterReported inv_start

theorem InOrder.laterReported {d : Dated} {op : Op} (h : Inv d) (ordered : InOrder d op) : LaterReported d op := by
  cases op with
  | create | submit | schedule | container | snapshot => trivial
  | deliver i env =>
      rintro payload earlier waiting _ node nodes index info _ ⟨t, later, task, _, _, _, c, inside, label, _⟩ _
      exact absurd (ordered payload earlier waiting t (h.placed.launched c inside t label)) later

/-- Every order in which no launch falls between a snapshot and its delivery is safe. -/
theorem in_order_takes_nothing (ops : List Op) (ordered : Runs.Along exec InOrder ops {}) :
    Runs.Along HeartbeatRace.exec TakesNothing ops {} := by
  refine (along_net ops {}).mpr ?_
  refine Runs.Along.strengthen (I := Inv) ?_ ?_ ordered inv_start
  · exact fun d op h here => inv_step d op h ((takesNothing_iff_laterReported d op h).mpr (here.laterReported h))
  · exact fun d op h here => (takesNothing_iff_laterReported d op h).mpr (here.laterReported h)

end SuitApi.SnapshotOrder
