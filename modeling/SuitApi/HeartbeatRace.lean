import SuitApi.Platform

/-! # Heartbeats in flight

The agent takes a snapshot of its containers and GPUs; the platform handles it
some time later and overwrites the status of every reported GPU.  A launch that
commits in between is not in the snapshot.  Here the condition is one on the payload;
`SnapshotOrder` has it in terms of what is launched when.
-/

namespace SuitApi.HeartbeatRace

open Platform NodeService

structure Net where
  world : World := {}
  /-- The heartbeats that have been built and not delivered. -/
  inFlight : List HeartbeatPayload := []

inductive Op where
  | create (t : TaskId) (now : Time) (user : User) (payload : TaskCreate)
  | submit (fault : QueueService.Fault) (enqueuedAt : String) (user : User) (t : TaskId)
  | schedule (env : Scheduler.Env)
  | container (id : ContainerId) (status : ContainerStatus)
  /-- `build_payload`: what the agent reads about its host, and its containers. -/
  | snapshot (reading : HeartbeatPayload)
  | deliver (i : Nat) (env : NodeService.Env)

def exec : Op → Net → Net
  | .create t now user payload, net =>
      { net with world := Platform.exec (.create t now user payload) net.world }
  | .submit fault enqueuedAt user t, net =>
      { net with world := Platform.exec (.submit fault enqueuedAt user t) net.world }
  | .schedule env, net => { net with world := Platform.exec (.schedule env) net.world }
  | .container id status, net => { net with world := Platform.exec (.container id status) net.world }
  | .snapshot reading, net => { net with inFlight := net.inFlight ++ [buildPayload reading net.world] }
  | .deliver i env, net =>
      match net.inFlight[i]? with
      | some payload =>
          { world := Platform.exec (.heartbeat env payload) net.world
            inFlight := net.inFlight.eraseIdx i }
      | none => net

/-! ## The property and its condition -/

/-- The container of the task, recognised by its label, has not stopped. -/
def Alive (w : World) (t : TaskId) : Prop := ∃ c ∈ w.containers, c.taskId = some t ∧ c.alive = true

/-- The GPU is listed by a running task whose container is alive. -/
def InUse (w : World) (node : NodeId) (index : Int) : Prop :=
  ∃ t task, w.row t = some task ∧ task.status = .running ∧ task.Lists node index ∧ Alive w t

/-- No GPU in use is idle. -/
def Kept (w : World) : Prop :=
  ∀ node index gpu, InUse w node index → w.db.gpus.get (node, index) = some gpu → gpu.status ≠ .idle

/-- After a heartbeat has been handled and committed, no GPU in use is idle. -/
def TakesNothing (net : Net) : Op → Prop
  | .deliver i env => ∀ payload, net.inFlight[i]? = some payload →
      (handleHeartbeat env payload net.world.db).isSome = true → Kept (exec (.deliver i env) net).world
  | _ => True

/-- The GPU of this report carries an active container of the payload, or is under
    load. -/
def reportedUsed (payload : HeartbeatPayload) (info : GpuInfo) : Prop :=
  info.index ∈ activeGpuIndices payload ∨ info.processes ≠ [] ∨ info.utilizationGpu > 0 ∨
    info.memoryUsed > 0

/-- The heartbeat reports every GPU of its node that is in use when it arrives as
    used, if it reports it at all. -/
def UpToDate (net : Net) : Op → Prop
  | .deliver i env => ∀ payload, net.inFlight[i]? = some payload →
      (handleHeartbeat env payload net.world.db).isSome = true →
      ∀ node nodes index info, findNode env payload.ip net.world.db = some (node, nodes) →
        InUse net.world node.id index → lastReport index payload.gpus = some info →
        reportedUsed payload info
  | _ => True

theorem gpuStatus_ne_idle_iff (payload : HeartbeatPayload) (info : GpuInfo) :
    gpuStatus (activeGpuIndices payload) info ≠ .idle ↔ reportedUsed payload info := by
  unfold gpuStatus reportedUsed
  by_cases active : info.index ∈ activeGpuIndices payload
  · simp [active]
  · by_cases loaded : info.processes ≠ [] ∨ info.utilizationGpu > 0 ∨ info.memoryUsed > 0
    · simp only [active, if_false, loaded, if_true, false_or, iff_true]
      decide
    · simp only [active, loaded, if_false, ne_eq, not_true_eq_false, or_self]

/-! ## The steps -/

theorem kept_deliver_iff {w : World} (kept : Kept w) {env : NodeService.Env} {payload : HeartbeatPayload}
    {db : Database} (handled : handleHeartbeat env payload w.db = some db) :
    Kept { w with db } ↔ ∀ node nodes index info, findNode env payload.ip w.db = some (node, nodes) →
      InUse w node.id index → lastReport index payload.gpus = some info → reportedUsed payload info := by
  obtain ⟨row, nodes, spec⟩ := handleHeartbeat_spec handled
  have inUse_iff : ∀ node index, InUse { w with db } node index ↔ InUse w node index := by
    intro node index
    simp only [InUse, World.row, spec.tasks]
    exact Iff.rfl
  constructor
  · intro after node nodes' index info located used reported
    rw [spec.located] at located
    cases located
    rw [← gpuStatus_ne_idle_iff]
    have status := spec.status index
    rw [reported, Option.map_some, Option.map_eq_some_iff] at status
    obtain ⟨gpu, found, same⟩ := status
    rw [← same]
    exact after row.id index gpu ((inUse_iff row.id index).mpr used) found
  · intro upToDate node index gpu used found
    rw [inUse_iff] at used
    by_cases here : node = row.id
    · subst here
      have status := spec.status index
      rw [found, Option.map_some, eq_comm, Option.map_eq_some_iff] at status
      obtain ⟨info, reported, same⟩ := status
      rw [← same, gpuStatus_ne_idle_iff]
      exact upToDate row nodes index info spec.located used reported
    · apply kept node index gpu used
      rw [← spec.others node index here]
      exact found

/-- A step that puts nothing into use and leaves the GPU rows alone. -/
theorem Kept.calm {w w' : World} (kept : Kept w) (gpus : w'.db.gpus = w.db.gpus)
    (used : ∀ node index, InUse w' node index → InUse w node index) : Kept w' := by
  intro node index gpu inUse found
  rw [gpus] at found
  exact kept node index gpu (used node index inUse) found

/-- The container that a call starts carries the label of the launched task. -/
theorem schedule_containers {env : Scheduler.Env} {w : World} {c : Container}
    (inside : c ∈ (Platform.schedule env w).containers) :
    c ∈ w.containers ∨ ∃ task a run, (Scheduler.scheduleOne env w.toStore).launched = some (task, a, run) ∧
      c.taskId = some task.id := by
  rcases List.mem_append.mp inside with old | new
  · exact .inl old
  · right
    rw [Option.mem_toList] at new
    obtain ⟨⟨task, a, run⟩, launched, started⟩ := Option.bind_eq_some_iff.mp new
    obtain ⟨id, _, rfl⟩ := Option.map_eq_some_iff.mp started
    exact ⟨task, a, run, launched, rfl⟩

theorem Kept.schedule {w : World} (kept : Kept w) (env : Scheduler.Env) :
    Kept (Platform.schedule env w) := by
  rintro node index gpu ⟨t, row, found, running, listed, c, inside, label, alive⟩ here
  simp only [Platform.schedule, World.row] at found here
  -- What was in use and listed by another task than the launched one still is.
  have used : w.row t = some row → (∀ task a run,
      (Scheduler.scheduleOne env w.toStore).launched = some (task, a, run) → t ≠ task.id) →
      InUse w node index := by
    intro before other
    refine ⟨t, row, before, running, listed, c, ?_, label, alive⟩
    rcases schedule_containers inside with old | ⟨task, a, run, launched, new⟩
    · exact old
    · rw [label, Option.some.injEq] at new
      exact absurd new (other task a run launched)
  cases Scheduler.scheduleOne_rows env w.toStore with
  | kept quiet tasks gpus =>
      rw [tasks] at found
      rw [gpus] at here
      refine kept node index gpu (used found ?_) here
      intro task a run launched
      rw [quiet] at launched
      cases launched
  | failed task a run exc launched _ _ _ tasks gpus =>
      rw [tasks] at found
      rw [gpus] at here
      split at found
      · cases found
        cases running
      · rename_i other
        refine kept node index gpu (used found ?_) here
        intro task' a' run' same
        rw [launched] at same
        cases same
        exact other
  | started task a run id result launched _ left =>
      rw [left.tasks] at found
      rw [left.gpus, GpuAllocator.mark_get] at here
      obtain ⟨before, present, rfl⟩ := Option.map_eq_some_iff.mp here
      split at found
      · cases found
        have covered : node = a.nodeId ∧ index ∈ a.gpuIndices :=
          ⟨(Option.some.inj listed.1).symm, listed.2⟩
        rw [if_pos covered]
        exact fun idle => by cases idle
      · rename_i other
        split
        · exact fun idle => by cases idle
        · refine kept node index before (used found ?_) present
          intro task' a' run' same
          rw [launched] at same
          cases same
          exact other

/-- A container that is alive after a change of state was alive before. -/
theorem setStatus_alive {id : ContainerId} {status : ContainerStatus} {c : Container}
    (alive : (setStatus id status c).alive = true) :
    c.alive = true ∧ (setStatus id status c).taskId = c.taskId := by
  unfold setStatus at alive ⊢
  split
  · rename_i matched
    exact ⟨matched.2, rfl⟩
  · rename_i other
    rw [if_neg other] at alive
    exact ⟨alive, rfl⟩

theorem kept_step (net : Net) (op : Op) (kept : Kept net.world) (takes : TakesNothing net op) :
    Kept (exec op net).world := by
  cases op with
  | schedule env => exact kept.schedule env
  | snapshot reading => exact kept
  | create t now user payload =>
      apply kept.calm
      · exact exec_gpus (.create t now user payload) net.world rfl
      · rintro node index ⟨u, task', found, running, listed, alive⟩
        obtain ⟨launched, step, _⟩ := exec_row (.create t now user payload) net.world u
        simp only [exec, World.row] at found
        rw [found] at step
        refine ⟨u, task', ?_, running, listed, ?_⟩
        · generalize old : net.world.db.tasks.get u = row at step
          cases step with
          | kept => exact old
          | created => cases running
        · simp only [exec, Platform.exec, Alive] at alive
          split at alive <;> exact alive
  | submit fault enqueuedAt user t =>
      apply kept.calm
      · exact exec_gpus (.submit fault enqueuedAt user t) net.world rfl
      · rintro node index ⟨u, task', found, running, listed, alive⟩
        obtain ⟨launched, step, _⟩ := exec_row (.submit fault enqueuedAt user t) net.world u
        simp only [exec, World.row] at found
        rw [found] at step
        refine ⟨u, task', ?_, running, listed, alive⟩
        generalize old : net.world.db.tasks.get u = row at step
        cases step with
        | kept => exact old
        | submitted => cases running
  | container id status =>
      apply kept.calm
      · rfl
      · rintro node index ⟨t, task, found, running, listed, c, inside, label, alive⟩
        obtain ⟨before, member, rfl⟩ := List.mem_map.mp inside
        obtain ⟨alive', same⟩ := setStatus_alive alive
        exact ⟨t, task, found, running, listed, before, member, same ▸ label, alive'⟩
  | deliver i env =>
      cases waiting : net.inFlight[i]? with
      | none =>
          simp only [exec, waiting]
          exact kept
      | some payload =>
          cases handled : handleHeartbeat env payload net.world.db with
          | none =>
              simp only [exec, waiting, Platform.exec, handled]
              exact kept
          | some db => exact takes payload waiting (by rw [handled]; rfl)

theorem takesNothing_iff (net : Net) (op : Op) (kept : Kept net.world) :
    TakesNothing net op ↔ UpToDate net op := by
  cases op with
  | deliver i env =>
      simp only [TakesNothing, UpToDate]
      apply forall_congr'
      intro payload
      apply imp_congr_right
      intro waiting
      apply imp_congr_right
      intro committed
      obtain ⟨db, handled⟩ := Option.isSome_iff_exists.mp committed
      simp only [exec, waiting, Platform.exec, handled]
      exact kept_deliver_iff kept handled
  | _ => exact Iff.rfl

/-- A run in which no heartbeat takes a GPU away from a live task is one in which
    every heartbeat, when it arrives, reports the GPUs in use as used. -/
theorem heartbeats_take_nothing_iff (net : Net) (start : Kept net.world) (ops : List Op) :
    Runs.Along exec TakesNothing ops net ↔ Runs.Along exec UpToDate ops net :=
  Runs.along_congr (I := fun net : Net => Kept net.world) kept_step
    (fun net op kept => takesNothing_iff net op kept) start

/-! ## One launch and two snapshots -/

def reading : HeartbeatPayload where
  hostname := "n1"
  ip := "10.0.0.1"
  gpus := [{ index := 0, model := "A100" }]

/-- The node reports for the first time and a task is submitted. -/
def setup : List Op :=
  [.snapshot reading, .deliver 0 { nodeId := "n1", now := 0 },
    .create "t" 0 Sample.user Sample.payload, .submit .none "" Sample.user "t"]

def launched : List Op := [.schedule (Sample.env "c" 1), .container "c" .running]

theorem kept_empty : Kept {} := by
  rintro node index gpu ⟨t, task, found, _⟩
  cases found

/-- A snapshot taken after the launch. -/
theorem fresh_snapshot :
    Runs.Along exec TakesNothing
      (setup ++ launched ++ [.snapshot reading, .deliver 0 { nodeId := "", now := 2 }])
      {} := by
  apply (heartbeats_take_nothing_iff {} kept_empty _).mpr
  refine ⟨trivial, ?_, trivial, trivial, trivial, trivial, trivial, ?_, trivial⟩
  · rintro payload waiting _ node nodes index info _ ⟨t, task, found, _⟩
    cases found
  · rintro payload waiting _ node nodes index info _ _ reported
    cases waiting
    rcases Option.or_eq_some_iff.mp reported with none | ⟨_, here⟩
    · cases none
    · split at here
      · cases here
        exact .inl (by decide)
      · cases here

/-- A snapshot taken before the launch and delivered after it idles the GPU of the
    running task. -/
theorem stale_snapshot : ¬ ∀ ops : List Op, Runs.Along exec TakesNothing ops {} := by
  intro all
  have along : Runs.Along exec TakesNothing
      ((setup ++ [.snapshot reading] ++ launched) ++ .deliver 0 { nodeId := "", now := 2 } :: []) {} :=
    all _
  have kept := along.here _ rfl rfl
  exact kept "n1" 0 _ ⟨"t", _, rfl, rfl, by decide, _, List.mem_singleton_self _, rfl, rfl⟩ rfl rfl

end SuitApi.HeartbeatRace
