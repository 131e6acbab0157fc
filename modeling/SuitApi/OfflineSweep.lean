import SuitApi.MonitorService

/-! # One sweep over the silent nodes

`mark_offline_nodes` writes three tables.  Which rows it writes, and that a second
sweep at the same time finds nothing to do, is stated row by row.
-/

namespace SuitApi.OfflineSweep

open MonitorService

/-- The last heartbeat is missing or older than the timeout allows. -/
def Silent (sweep : Sweep) (node : Node) : Prop :=
  ∀ beat, node.lastHeartbeat = some beat → beat < sweep.checkedAt - sweep.timeoutSeconds * 1000000

/-- The nodes that a sweep is to change. -/
def TimedOut (sweep : Sweep) (node : Node) : Prop := node.status ≠ .offline ∧ Silent sweep node

/-- The node with this id is one of them. -/
def Lost (sweep : Sweep) (db : Database) (id : NodeId) : Prop :=
  ∃ node ∈ db.nodes.rows, node.id = id ∧ TimedOut sweep node

/-- The task waits or runs on a lost node. -/
def Stranded (sweep : Sweep) (db : Database) (task : Task) : Prop :=
  (task.status = .queued ∨ task.status = .running) ∧
    ∃ id, task.assignedNodeId = some id ∧ Lost sweep db id

/-- What becomes of a stranded task. -/
structure Failed (sweep : Sweep) (task task' : Task) : Prop where
  columns : task' =
    { task with status := .failed, finishedAt := some sweep.failedAt, resultJson := task'.resultJson }
  kept : ∀ key, key ≠ "reason" → key ≠ "failed_at" →
    Dict.get (task'.resultJson.getD []) key = Dict.get (task.resultJson.getD []) key
  reason : Dict.get (task'.resultJson.getD []) "reason" = some (.str "Node heartbeat timeout")
  failedAt : Dict.get (task'.resultJson.getD []) "failed_at" = some (.str (sweep.isoformat sweep.failedAt))

/-- What becomes of a GPU of a lost node. -/
structure Reset (gpu gpu' : GpuDevice) : Prop where
  columns : gpu' =
    { gpu with
      status := .idle, utilization := 0, utilizationMemory := 0, memoryUsedMb := 0
      memoryFreeMb := gpu'.memoryFreeMb, temperature := 0, powerUsage := 0 }
  free : ∀ total, gpu.memoryTotalMb = some total → gpu'.memoryFreeMb = total
  unknown : gpu.memoryTotalMb = none → gpu'.memoryFreeMb = 0

/-- The effect of a sweep on each row. -/
structure Swept (sweep : Sweep) (db db' : Database) : Prop where
  lost : ∀ node ∈ db.nodes.rows, TimedOut sweep node →
    db'.nodes.get node.id = some { node with status := .offline, cpuPercent := 0, memoryPercent := 0 }
  nodes : ∀ node ∈ db.nodes.rows, ¬ TimedOut sweep node → db'.nodes.get node.id = some node
  reset : ∀ gpu ∈ db.gpus.rows, Lost sweep db gpu.nodeId →
    ∃ gpu', db'.gpus.get gpu.slot = some gpu' ∧ Reset gpu gpu'
  gpus : ∀ gpu ∈ db.gpus.rows, ¬ Lost sweep db gpu.nodeId → db'.gpus.get gpu.slot = some gpu
  failed : ∀ task ∈ db.tasks.rows, Stranded sweep db task →
    ∃ task', db'.tasks.get task.id = some task' ∧ Failed sweep task task'
  tasks : ∀ task ∈ db.tasks.rows, ¬ Stranded sweep db task → db'.tasks.get task.id = some task
  /-- No row comes or goes, and the other tables stay. -/
  rows : db'.nodes.rows.map (·.id) = db.nodes.rows.map (·.id) ∧
    db'.gpus.rows.map (·.slot) = db.gpus.rows.map (·.slot) ∧
    db'.tasks.rows.map (·.id) = db.tasks.rows.map (·.id)
  others : db' = { db with nodes := db'.nodes, gpus := db'.gpus, tasks := db'.tasks }

/-! ## The code's predicates -/

theorem timedOut_iff {sweep : Sweep} {node : Node} : timedOut sweep node = true ↔ TimedOut sweep node := by
  rw [timedOut, TimedOut, Silent, Bool.and_eq_true, decide_eq_true_eq]
  apply and_congr_right
  intro _
  cases node.lastHeartbeat with
  | none => simp
  | some beat => simp

theorem mem_lostNodes {sweep : Sweep} {db : Database} {id : NodeId} :
    id ∈ lostNodes sweep db ↔ Lost sweep db id := by
  simp only [lostNodes, List.mem_map, List.mem_filter, timedOut_iff, Lost]
  constructor
  · rintro ⟨node, ⟨inside, out⟩, same⟩
    exact ⟨node, inside, same, out⟩
  · rintro ⟨node, inside, same, out⟩
    exact ⟨node, ⟨inside, out⟩, same⟩

theorem impacted_iff {sweep : Sweep} {db : Database} {task : Task} :
    impacted (lostNodes sweep db) task = true ↔ Stranded sweep db task := by
  rw [impacted, Stranded, Bool.and_eq_true, Bool.or_eq_true, decide_eq_true_eq, decide_eq_true_eq, and_comm]
  apply and_congr_right
  intro _
  cases task.assignedNodeId with
  | none => simp
  | some id => simp [mem_lostNodes]

theorem failLost_failed (sweep : Sweep) (task : Task) : Failed sweep task (failLost sweep task) := by
  constructor
  case columns => rfl
  case kept =>
    intro key other other'
    simp only [failLost, Option.getD_some, Dict.get_set, if_neg other, if_neg other']
  case reason => simp [failLost, Dict.get_set]
  case failedAt => simp [failLost, Dict.get_set]

theorem resetGpu_reset (gpu : GpuDevice) : Reset gpu (resetGpu gpu) := by
  constructor
  case columns => rfl
  case free =>
    intro total known
    simp [resetGpu, known]
  case unknown =>
    intro unknown
    simp [resetGpu, unknown]

/-! ## One sweep -/

/-- The early return makes no difference: without a lost node the writes select no row. -/
theorem markOfflineNodes_eq (sweep : Sweep) (db : Database) :
    markOfflineNodes sweep db =
      ({ db with
          nodes := db.nodes.updateWhere (timedOut sweep) offlineNode offlineNode_id
          gpus := db.gpus.updateWhere (fun gpu => (lostNodes sweep db).contains gpu.nodeId) resetGpu resetGpu_slot
          tasks := db.tasks.updateWhere (impacted (lostNodes sweep db)) (failLost sweep) (failLost_id sweep) },
        (lostNodes sweep db).length) := by
  unfold markOfflineNodes
  simp only
  split
  · rename_i empty
    have none := List.isEmpty_iff.mp empty
    have nodes : db.nodes.updateWhere (timedOut sweep) offlineNode offlineNode_id = db.nodes := by
      apply Table.updateWhere_same
      intro node inside out
      have lost : node.id ∈ lostNodes sweep db := mem_lostNodes.mpr ⟨node, inside, rfl, timedOut_iff.mp out⟩
      rw [none] at lost
      cases lost
    rw [none, nodes, Table.updateWhere_same resetGpu_slot (by simp),
      Table.updateWhere_same (failLost_id sweep) (by simp [impacted_none])]
    rfl
  · rfl

section

variable (sweep : Sweep) (db : Database)

theorem node_after {node : Node} (inside : node ∈ db.nodes.rows) :
    (markOfflineNodes sweep db).1.nodes.get node.id =
      some (if timedOut sweep node then offlineNode node else node) := by
  rw [markOfflineNodes_eq, Table.get_updateWhere _ _ _ offlineNode_id, Table.get_of_mem inside, Option.map_some]

theorem gpu_after {gpu : GpuDevice} (inside : gpu ∈ db.gpus.rows) :
    (markOfflineNodes sweep db).1.gpus.get gpu.slot =
      some (if gpu.nodeId ∈ lostNodes sweep db then resetGpu gpu else gpu) := by
  have found : db.gpus.get (gpu.nodeId, gpu.gpuIndex) = some gpu := Table.get_of_mem inside
  rw [GpuDevice.slot, markOfflineNodes_gpus, found, Option.map_some]

theorem task_after {task : Task} (inside : task ∈ db.tasks.rows) :
    (markOfflineNodes sweep db).1.tasks.get task.id =
      some (if impacted (lostNodes sweep db) task then failLost sweep task else task) := by
  rw [markOfflineNodes_tasks, Table.get_of_mem inside, Option.map_some]

/-- A node row changes exactly if it is timed out. -/
theorem node_changed {node : Node} (inside : node ∈ db.nodes.rows) :
    (markOfflineNodes sweep db).1.nodes.get node.id ≠ some node ↔ TimedOut sweep node := by
  rw [node_after sweep db inside, ← timedOut_iff, ne_eq, Option.some.injEq]
  cases out : timedOut sweep node with
  | false => simp
  | true =>
      have online := (timedOut_iff.mp out).1
      refine iff_of_true ?_ rfl
      intro same
      exact online (congrArg Node.status same).symm

theorem swept : Swept sweep db (markOfflineNodes sweep db).1 := by
  constructor
  case lost =>
    intro node inside out
    rw [node_after sweep db inside, if_pos (timedOut_iff.mpr out)]
    rfl
  case nodes =>
    intro node inside stays
    rw [node_after sweep db inside, if_neg (mt timedOut_iff.mp stays)]
  case reset =>
    intro gpu inside lost
    refine ⟨resetGpu gpu, ?_, resetGpu_reset gpu⟩
    rw [gpu_after sweep db inside, if_pos (mem_lostNodes.mpr lost)]
  case gpus =>
    intro gpu inside stays
    rw [gpu_after sweep db inside, if_neg (mt mem_lostNodes.mp stays)]
  case failed =>
    intro task inside stranded
    refine ⟨failLost sweep task, ?_, failLost_failed sweep task⟩
    rw [task_after sweep db inside, if_pos (impacted_iff.mpr stranded)]
  case tasks =>
    intro task inside stays
    rw [task_after sweep db inside, if_neg (mt impacted_iff.mp stays)]
  case rows =>
    rw [markOfflineNodes_eq]
    refine ⟨?_, ?_, ?_⟩
    · exact Table.map_updateWhere _ _ _ offlineNode_id _ fun _ _ _ => rfl
    · exact Table.map_updateWhere _ _ _ resetGpu_slot _ fun _ _ _ => rfl
    · exact Table.map_updateWhere _ _ _ (failLost_id sweep) _ fun _ _ _ => rfl
  case others =>
    rw [markOfflineNodes_eq]

theorem count_changed :
    (markOfflineNodes sweep db).2 =
      (db.nodes.rows.filter fun node => (markOfflineNodes sweep db).1.nodes.get node.id ≠ some node).length := by
  have number : (markOfflineNodes sweep db).2 = (lostNodes sweep db).length := by
    rw [markOfflineNodes_eq]
  rw [number, lostNodes, List.length_map]
  congr 1
  apply List.filter_congr
  intro node inside
  rw [Bool.eq_iff_iff, decide_eq_true_eq, node_changed sweep db inside, timedOut_iff]

/-- No node that a sweep leaves is timed out at the time of the sweep. -/
theorem lostNodes_after : lostNodes sweep (markOfflineNodes sweep db).1 = [] := by
  rw [List.eq_nil_iff_forall_not_mem]
  intro id lost
  obtain ⟨node, inside, _, out⟩ := mem_lostNodes.mp lost
  rw [markOfflineNodes_eq] at inside
  obtain ⟨old, _, rfl⟩ := List.mem_map.mp inside
  split at out
  · exact out.1 rfl
  · rename_i stays
    exact stays (timedOut_iff.mpr out)

theorem sweep_again (later : Time) :
    markOfflineNodes { sweep with failedAt := later } (markOfflineNodes sweep db).1 =
      ((markOfflineNodes sweep db).1, 0) := by
  have none : lostNodes { sweep with failedAt := later } (markOfflineNodes sweep db).1 = [] :=
    lostNodes_after sweep db
  rw [markOfflineNodes]
  simp only [none, List.isEmpty_nil, if_true]

end

/-- A sweep changes the timed-out nodes, their GPUs and their tasks and nothing else, returns
    their number, and leaves nothing to do for another sweep at the same time. -/
theorem sweep_exact (sweep : Sweep) (later : Time) (db : Database) :
    let (db', count) := markOfflineNodes sweep db
    (∀ node ∈ db.nodes.rows, db'.nodes.get node.id ≠ some node ↔ TimedOut sweep node) ∧
      Swept sweep db db' ∧
      count = (db.nodes.rows.filter fun node => db'.nodes.get node.id ≠ some node).length ∧
      markOfflineNodes { sweep with failedAt := later } db' = (db', 0) :=
  ⟨fun _ inside => node_changed sweep db inside, swept sweep db, count_changed sweep db,
    sweep_again sweep db later⟩

namespace Sample

/-- The last heartbeat was a hundred seconds ago. -/
def sweep : Sweep := { checkedAt := 100000000, failedAt := 100000000 }

/-- A GPU whose memory nobody has reported. -/
def gpu : GpuDevice := { id := "g", nodeId := "n", gpuIndex := 0, status := .allocated }

def db : Database where
  nodes := .singleton { id := "n", ip := "10.0.0.1", status := .online, lastHeartbeat := some 0 }
  gpus := .singleton gpu

end Sample

/-- A GPU of unknown memory is left with 0 as its free memory. -/
theorem unknown_memory : ¬ ∀ (sweep : Sweep) (db : Database), ∀ gpu ∈ db.gpus.rows,
    Lost sweep db gpu.nodeId → ∃ gpu', (markOfflineNodes sweep db).1.gpus.get gpu.slot = some gpu' ∧
      some gpu'.memoryFreeMb = gpu'.memoryTotalMb := by
  intro all
  have lost : Lost Sample.sweep Sample.db Sample.gpu.nodeId := mem_lostNodes.mp (by decide)
  obtain ⟨gpu', found, free⟩ := all Sample.sweep Sample.db Sample.gpu (List.mem_singleton_self _) lost
  have after := gpu_after Sample.sweep Sample.db (List.mem_singleton_self Sample.gpu)
  rw [found, if_pos (mem_lostNodes.mpr lost), Option.some.injEq] at after
  rw [after] at free
  cases free

end SuitApi.OfflineSweep
