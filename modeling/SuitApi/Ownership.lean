import SuitApi.Platform

/-! # Whose GPUs a finish notification frees

`release_by_task` frees the GPUs that the task's row lists.  That is harmless as
long as no other task lists them.  The sweep over lost nodes and the heartbeats
free GPUs without touching the rows that list them, and from then on the record
of a dead task can cover GPUs that somebody else was given.
-/

namespace SuitApi.Ownership

open Platform

/-- A finish notification for `t` would change a GPU which another task, running on
    that node, lists. -/
def FreesOthers (w : World) (t : TaskId) : Prop :=
  ∃ u task node index, u ≠ t ∧ w.row u = some task ∧ task.status = .running ∧ task.Lists node index ∧
    (exec (.finished t) w).db.gpus.get (node, index) ≠ w.db.gpus.get (node, index)

/-- In the state that the step leaves, a finish notification frees only its own
    task's GPUs. -/
def FreesOnlyOwn (w : World) (op : Op) : Prop := ∀ t, ¬ FreesOthers (exec op w) t

/-- Where the step launches a task, no other task lists a GPU that the launch takes. -/
def LaunchesUnlisted (w : World) : Op → Prop
  | .schedule env => ∀ task a run, (Scheduler.scheduleOne env w.toStore).launched = some (task, a, run) →
      (Scheduler.accepted run).isOk = true →
      ∀ index ∈ a.gpuIndices, ∀ t, t ≠ task.id → ¬ w.db.Holds t a.nodeId index
  | _ => True

/-! ## Unique records -/

/-- No GPU is listed by two tasks, and a notification can name every task. -/
structure Distinct (w : World) : Prop where
  named : w.row "" = none
  unique : ∀ t u node index, w.db.Holds t node index → w.db.Holds u node index → t = u

/-- Only a launch adds to the list of a task. -/
theorem lists_step {t : TaskId} {op : Op} {old : Option Task} {task' : Task} {launched : Nat}
    (step : RowStep t op old (some task') launched) (quiet : ∀ env, op ≠ .schedule env)
    {node : NodeId} {index : Int} (listed : task'.Lists node index) :
    ∃ task, old = some task ∧ task.Lists node index := by
  cases step with
  | kept => exact ⟨task', rfl, listed⟩
  | created now user payload named => cases listed.2
  | submitted fault enqueuedAt user pending => exact ⟨_, rfl, listed⟩
  | cancelled now user waiting => exact ⟨_, rfl, listed⟩
  | calledBack now payload task =>
      obtain ⟨sameNode, sameIndices⟩ := TaskService.calledBack_assignment now payload task
      rw [Task.Lists, Task.gpuIndices, sameNode, sameIndices] at listed
      exact ⟨task, rfl, listed⟩
  | started env => exact absurd rfl (quiet env)
  | failed env => exact absurd rfl (quiet env)
  | cleared => cases listed.2
  | lost sweep hit => exact ⟨_, rfl, listed⟩
  | billed rate success => exact ⟨_, rfl, listed⟩

theorem holds_step {op : Op} {w : World} (quiet : ∀ env, op ≠ .schedule env) {t : TaskId}
    {node : NodeId} {index : Int} (held : (exec op w).db.Holds t node index) :
    w.db.Holds t node index := by
  obtain ⟨task', found, listed⟩ := held
  obtain ⟨launched, step, _⟩ := exec_row op w t
  rw [found] at step
  exact lists_step step quiet listed

theorem markRunning_lists (a : Allocation) (id : ContainerId) (now : Time) (result : Dict) (task : Task)
    (node : NodeId) (index : Int) :
    (Scheduler.markRunning a id now result task).Lists node index ↔ node = a.nodeId ∧ index ∈ a.gpuIndices := by
  simp [Task.Lists, Task.gpuIndices, Scheduler.markRunning, eq_comm]

/-- Where a call adds to the list of a task, it has launched the task there. -/
theorem schedule_holds {env : Scheduler.Env} {w : World} {t : TaskId} {node : NodeId} {index : Int}
    (held : (schedule env w).db.Holds t node index) :
    (∃ task a run, (Scheduler.scheduleOne env w.toStore).launched = some (task, a, run) ∧
        (Scheduler.accepted run).isOk = true ∧ t = task.id ∧ node = a.nodeId ∧ index ∈ a.gpuIndices) ∨
      w.db.Holds t node index := by
  obtain ⟨row, found, listed⟩ := held
  simp only [schedule] at found
  cases Scheduler.scheduleOne_rows env w.toStore with
  | kept _ tasks =>
      rw [tasks] at found
      exact .inr ⟨row, found, listed⟩
  | failed task a run exc _ _ here _ tasks =>
      rw [tasks] at found
      split at found
      · rename_i same
        cases found
        exact .inr ⟨task, by rw [same, here], listed⟩
      · exact .inr ⟨row, found, listed⟩
  | started task a run id result launched reply after =>
      rw [after.tasks] at found
      split at found
      · rename_i same
        cases found
        left
        exact ⟨task, a, run, launched, by rw [reply]; rfl, same, (markRunning_lists a id env.now result task
          node index).mp listed⟩
      · exact .inr ⟨row, found, listed⟩

theorem named_step {w : World} (named : w.row "" = none) (op : Op) : (exec op w).row "" = none := by
  obtain ⟨launched, step, _⟩ := exec_row op w ""
  rw [World.row] at named ⊢
  rw [named] at step
  generalize (exec op w).db.tasks.get "" = row at step ⊢
  cases step with
  | kept => rfl
  | created now user payload named => exact absurd rfl named

theorem distinct_step {w : World} (h : Distinct w) (op : Op) (unlisted : LaunchesUnlisted w op) :
    Distinct (exec op w) where
  named := named_step h.named op
  unique := by
    intro t u node index first second
    by_cases scheduling : ∃ env, op = .schedule env
    · obtain ⟨env, rfl⟩ := scheduling
      rcases schedule_holds first with ⟨task, a, run, launched, accepted, rfl, rfl, inside⟩ | held
      · have fresh := unlisted task a run launched accepted index inside u
        rcases schedule_holds second with ⟨task', a', run', launched', _, rfl, _⟩ | held'
        · rw [launched] at launched'
          cases launched'
          rfl
        · by_contra other
          exact fresh (Ne.symm other) held'
      · rcases schedule_holds second with ⟨task, a, run, launched, accepted, rfl, rfl, inside⟩ | held'
        · have fresh := unlisted task a run launched accepted index inside t
          by_contra other
          exact fresh other held
        · exact h.unique t u node index held held'
    · have quiet : ∀ env, op ≠ .schedule env := fun env same => scheduling ⟨env, same⟩
      exact h.unique t u node index (holds_step quiet first) (holds_step quiet second)

theorem Distinct.frees_own {w : World} (h : Distinct w) (t : TaskId) : ¬ FreesOthers w t := by
  rintro ⟨u, task, node, index, other, row, _, listed, changed⟩
  apply changed
  simp only [exec]
  split
  · rfl
  · rw [Scheduler.finishTask_gpus]
    cases mine : w.db.tasks.get t with
    | none => rw [GpuAllocator.releaseByTask_unknown mine]
    | some finished =>
        rw [GpuAllocator.releaseByTask_get mine]
        have unlisted : ¬ finished.Lists node index := fun also =>
          other (h.unique u t node index ⟨task, row, listed⟩ ⟨finished, mine, also⟩)
        simp only [if_neg unlisted, Option.map_id']

/-- A launch on a GPU that another task lists lets a notification for that task free
    the GPU. -/
theorem launchesUnlisted_of_freesOnlyOwn {w : World} {op : Op} (named : w.row "" = none)
    (own : FreesOnlyOwn w op) : LaunchesUnlisted w op := by
  cases op with
  | schedule env =>
      intro task a run launched accepted index inside t other held
      obtain ⟨old, here, listed⟩ := held
      obtain ⟨id, result, after⟩ := Scheduler.scheduleOne_started launched accepted
      have kept : (schedule env w).db.tasks.get t = some old := by
        rw [schedule, after.tasks, if_neg other, here]
      obtain ⟨gpu, present, _⟩ := after.selected.idle index inside
      have taken : (schedule env w).db.gpus.get (a.nodeId, index) = some (gpu.withStatus .allocated) := by
        rw [schedule, after.gpus, GpuAllocator.mark_get, present, Option.map_some, if_pos ⟨rfl, inside⟩]
      have addressed : t ≠ "" := by
        rintro rfl
        rw [World.row, here] at named
        cases named
      apply own t
      refine ⟨task.id, Scheduler.markRunning a id env.now result task, a.nodeId, index, Ne.symm other, ?_,
        rfl, (markRunning_lists a id env.now result task a.nodeId index).mpr ⟨rfl, inside⟩, ?_⟩
      · simp only [exec, schedule, World.row]
        rw [after.tasks, if_pos rfl]
      · simp only [exec, if_neg addressed]
        rw [Scheduler.finishTask_gpus, GpuAllocator.releaseByTask_get kept, taken, Option.map_some,
          if_pos listed]
        intro same
        have status := congrArg (Option.map GpuDevice.status) same
        cases status
  | _ => trivial

theorem freesOnlyOwn_iff {w : World} (h : Distinct w) (op : Op) : FreesOnlyOwn w op ↔ LaunchesUnlisted w op := by
  constructor
  · exact launchesUnlisted_of_freesOnlyOwn h.named
  · intro unlisted
    exact (distinct_step h op unlisted).frees_own

theorem distinct_start {w : World} (named : w.row "" = none)
    (free : ∀ t task, w.row t = some task → task.gpuIndices = []) : Distinct w where
  named := named
  unique := by
    rintro t u node index ⟨task, found, listed⟩
    have inside := listed.2
    rw [free t task found] at inside
    cases inside

/-- From a platform on which no task holds GPUs: in no state of the run would a finish
    notification change a GPU of another running task, if and only if every launch of
    the run takes GPUs that no other task lists. -/
theorem finish_frees_only_own_iff (w : World) (named : w.row "" = none)
    (free : ∀ t task, w.row t = some task → task.gpuIndices = []) (ops : List Op) :
    Runs.Along exec FreesOnlyOwn ops w ↔ Runs.Along exec LaunchesUnlisted ops w := by
  apply Runs.along_congr (I := Distinct)
  · intro w op h own
    exact distinct_step h op ((freesOnlyOwn_iff h op).mp own)
  · exact fun w op h => freesOnlyOwn_iff h op
  · exact distinct_start named free

theorem one_task_frees_only_own :
    Runs.Along exec FreesOnlyOwn (Sample.beat 0 [] :: (Sample.launch "a" "c" 1 ++ [.finished "a"])) {} := by
  apply (finish_frees_only_own_iff {} rfl (fun t task found => by cases found) _).mpr
  refine ⟨trivial, trivial, trivial, ?_, trivial, trivial⟩
  intro task a run launched accepted index inside t other
  rintro ⟨row, found, listed⟩
  have mine : task.id = "a" := by
    cases launched
    rfl
  rw [mine] at other
  cases Table.mem_of_get found with
  | head => exact other (Table.key_of_get found).symm
  | tail _ rest => cases rest

/-! ## Where a launch can find a listed GPU

Only an idle GPU is launched on.  A listed GPU becomes idle when its node is taken
offline or a heartbeat reports it as unused.
-/

/-- Some task lists the GPU. -/
def Listed (w : World) (node : NodeId) (index : Int) : Prop := ∃ t, w.db.Holds t node index

/-- The step takes no node offline, and reports no GPU as unused, that some task
    still lists. -/
def RespectsRecords (w : World) : Op → Prop
  | .markOffline sweep => ∀ node index, Listed w node index → node ∉ MonitorService.lostNodes sweep w.db
  | .heartbeat env payload => ∀ node nodes index info, Listed w node.id index →
      NodeService.findNode env payload.ip w.db = some (node, nodes) →
      NodeService.lastReport index payload.gpus = some info →
      NodeService.gpuStatus (NodeService.activeGpuIndices payload) info ≠ .idle
  | _ => True

/-- No listed GPU is idle. -/
def Occupied (w : World) : Prop :=
  ∀ node index gpu, Listed w node index → w.db.gpus.get (node, index) = some gpu → gpu.status ≠ .idle

theorem Occupied.unlisted {w : World} (occupied : Occupied w) (op : Op) : LaunchesUnlisted w op := by
  cases op with
  | schedule env =>
      intro task a run launched accepted index inside t _ held
      obtain ⟨_, _, after⟩ := Scheduler.scheduleOne_started launched accepted
      obtain ⟨gpu, found, idle⟩ := after.selected.idle index inside
      exact occupied a.nodeId index gpu ⟨t, held⟩ found idle
  | _ => trivial

/-- A step that launches nothing and idles nothing that is listed. -/
theorem Occupied.quiet {w : World} {op : Op} (occupied : Occupied w) (quiet : ∀ env, op ≠ .schedule env)
    (gpus : ∀ node index gpu', Listed (exec op w) node index →
      (exec op w).db.gpus.get (node, index) = some gpu' → gpu'.status = .idle →
      ∃ gpu, w.db.gpus.get (node, index) = some gpu ∧ gpu.status = .idle) : Occupied (exec op w) := by
  intro node index gpu' listed found idle
  obtain ⟨gpu, before, idle'⟩ := gpus node index gpu' listed found idle
  obtain ⟨t, held⟩ := listed
  exact occupied node index gpu ⟨t, holds_step quiet held⟩ before idle'

theorem Occupied.still {w : World} {op : Op} (occupied : Occupied w) (still : op.writesGpus = false) :
    Occupied (exec op w) := by
  have quiet : ∀ env, op ≠ .schedule env := by
    rintro env rfl
    cases still
  apply occupied.quiet quiet
  intro node index gpu' _ found idle
  rw [exec_gpus op w still] at found
  exact ⟨gpu', found, idle⟩

theorem Occupied.schedule {w : World} (occupied : Occupied w) (env : Scheduler.Env) :
    Occupied (exec (.schedule env) w) := by
  rintro node index gpu ⟨t, held⟩ found
  simp only [exec, Platform.schedule] at found
  cases Scheduler.scheduleOne_rows env w.toStore with
  | kept quiet _ gpus =>
      rw [gpus] at found
      rcases schedule_holds held with ⟨_, _, _, launched, _⟩ | held'
      · rw [quiet] at launched
        cases launched
      · exact occupied node index gpu ⟨t, held'⟩ found
  | failed task a run exc launched reply _ _ _ gpus =>
      rw [gpus] at found
      rcases schedule_holds held with ⟨_, _, _, launched', accepted, _⟩ | held'
      · rw [launched] at launched'
        cases launched'
        rw [reply] at accepted
        cases accepted
      · exact occupied node index gpu ⟨t, held'⟩ found
  | started task a run id result launched _ after =>
      rw [after.gpus, GpuAllocator.mark_get] at found
      obtain ⟨before, row, rfl⟩ := Option.map_eq_some_iff.mp found
      rcases schedule_holds held with ⟨_, _, _, launched', _, _, rfl, inside⟩ | held'
      · rw [launched] at launched'
        cases launched'
        rw [if_pos ⟨rfl, inside⟩]
        exact fun idle => by cases idle
      · split
        · exact fun idle => by cases idle
        · exact occupied node index before ⟨t, held'⟩ row

theorem Occupied.finish {w : World} (occupied : Occupied w) (h : Distinct w) (t : TaskId) :
    Occupied (exec (.finished t) w) := by
  apply occupied.quiet (fun env same => by cases same)
  rintro node index gpu' ⟨u, held⟩ found idle
  simp only [exec] at found held
  split at found
  · exact ⟨gpu', found, idle⟩
  · rename_i named
    rw [if_neg named] at held
    cases row : w.db.tasks.get t with
    | none =>
        rw [Scheduler.finishTask_gpus, GpuAllocator.releaseByTask_unknown row] at found
        exact ⟨gpu', found, idle⟩
    | some task =>
        rw [Scheduler.finishTask_gpus, GpuAllocator.releaseByTask_get row] at found
        obtain ⟨gpu, before, rfl⟩ := Option.map_eq_some_iff.mp found
        refine ⟨gpu, before, ?_⟩
        by_cases mine : task.Lists node index
        · -- The finished task lists nothing any more, so it is another one.
          obtain ⟨other, here, listed⟩ := held
          rw [Scheduler.finishTask_tasks] at here
          by_cases same : u = t
          · rw [if_pos same, same, row] at here
            cases here
            cases listed.2
          · rw [if_neg same] at here
            exact absurd (h.unique u t node index ⟨other, here, listed⟩ ⟨task, row, mine⟩) same
        · rwa [if_neg mine] at idle

theorem occupied_step {w : World} (occupied : Occupied w) (h : Distinct w) (op : Op)
    (respects : RespectsRecords w op) : Occupied (exec op w) := by
  cases op with
  | schedule env => exact occupied.schedule env
  | finished t => exact occupied.finish h t
  | markOffline sweep =>
      have quiet : ∀ env, Op.markOffline sweep ≠ .schedule env := fun env same => by cases same
      apply occupied.quiet quiet
      rintro node index gpu' ⟨t, held⟩ found idle
      have stays := respects node index ⟨t, holds_step quiet held⟩
      simp only [exec, MonitorService.markOfflineNodes_gpus, if_neg stays, Option.map_id'] at found
      exact ⟨gpu', found, idle⟩
  | heartbeat env payload =>
      have quiet : ∀ env', Op.heartbeat env payload ≠ .schedule env' := fun env' same => by cases same
      apply occupied.quiet quiet
      rintro node index gpu' ⟨t, held⟩ found idle
      have listed : Listed w node index := ⟨t, holds_step quiet held⟩
      simp only [exec] at found
      split at found
      · rename_i db handled
        obtain ⟨row, nodes, spec⟩ := NodeService.handleHeartbeat_spec handled
        by_cases here : node = row.id
        · subst here
          have status := spec.status index
          rw [found, Option.map_some, idle, eq_comm, Option.map_eq_some_iff] at status
          obtain ⟨info, reported, unused⟩ := status
          exact absurd unused (respects row nodes index info listed spec.located reported)
        · rw [spec.others node index here] at found
          exact ⟨gpu', found, idle⟩
      · exact ⟨gpu', found, idle⟩
  | create | submit | cancel | callback | billing | queues | container | remove =>
      exact occupied.still rfl

/-- As long as no node is taken offline, and no GPU reported unused, while a task still
    lists it, every launch takes GPUs that no other task lists. -/
theorem respecting_launches_unlisted {w : World} (named : w.row "" = none)
    (free : ∀ t task, w.row t = some task → task.gpuIndices = []) {ops : List Op}
    (respects : Runs.Along exec RespectsRecords ops w) : Runs.Along exec LaunchesUnlisted ops w := by
  apply Runs.Along.strengthen (I := fun w => Distinct w ∧ Occupied w) _ _ respects
  · refine ⟨distinct_start named free, ?_⟩
    rintro node index gpu ⟨t, task, found, listed⟩
    have inside := listed.2
    rw [free t task found] at inside
    cases inside
  · intro w op h respected
    exact ⟨distinct_step h.1 op (h.2.unlisted op), occupied_step h.2 h.1 op respected⟩
  · exact fun w op h _ => h.2.unlisted op

/-! ## A node loss

The node of task `a` is taken offline and comes back without the container; its
GPU goes to `b`, whose GPU the late notification for `a` frees.
-/

/-- A heartbeat lists the containers that the agent has when it is delivered. -/
def Truthful (w : World) : Op → Prop
  | .heartbeat _ payload =>
      payload.runningContainers = ContainerTracker.listManagedContainers payload.ip w.containers
  | _ => True

def exitedContainer : RunningContainerInfo where
  containerId := "c"
  taskId := some "a"
  image := some "image"
  status := .exited
  gpuIndices := [0]

def nodeLoss : List Op :=
  [Sample.beat 0 []] ++ Sample.launch "a" "c" 1 ++
    [.markOffline { checkedAt := 100000000, failedAt := 100000000 }, .container "c" .exited,
      Sample.beat 100000001 [exitedContainer]] ++ Sample.launch "b" "d" 100000002

theorem finish_frees_other : ¬ ∀ ops : List Op, Runs.Along exec Truthful ops {} →
    ∀ t, ¬ FreesOthers (Runs.run exec ops {}) t := by
  intro all
  have truthful : Runs.Along exec Truthful nodeLoss {} :=
    ⟨rfl, trivial, trivial, trivial, trivial, trivial, rfl, trivial, trivial, trivial, trivial⟩
  apply all nodeLoss truthful "a"
  refine ⟨"b", _, "n1", 0, by decide, rfl, rfl, by decide, ?_⟩
  intro same
  have status := congrArg (fun row => row.map GpuDevice.status) same
  cases status

end SuitApi.Ownership
