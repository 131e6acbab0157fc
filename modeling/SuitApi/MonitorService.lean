import SuitApi.Schema

/-! # The backend's node monitor

`mark_offline_nodes` is the periodic sweep over the nodes whose heartbeat is
overdue.  It resets their GPUs and fails their tasks, whose assignment columns
it leaves as they are.
-/

namespace SuitApi.MonitorService

/-- The settings and clock readings of one sweep. -/
structure Sweep where
  timeoutSeconds : Int := 60
  checkedAt : Time
  failedAt : Time
  isoformat : Time → String := fun _ => ""

def timedOut (sweep : Sweep) (node : Node) : Bool :=
  node.status ≠ .offline &&
    match node.lastHeartbeat with
    | none => true
    | some beat => beat < sweep.checkedAt - sweep.timeoutSeconds * 1000000

def offlineNode (node : Node) : Node :=
  { node with status := .offline, cpuPercent := 0, memoryPercent := 0 }

theorem offlineNode_id (node : Node) : (offlineNode node).id = node.id := rfl

def resetGpu (gpu : GpuDevice) : GpuDevice :=
  { gpu with
    status := .idle
    utilization := 0
    utilizationMemory := 0
    memoryUsedMb := 0
    memoryFreeMb := gpu.memoryTotalMb.getD 0
    temperature := 0
    powerUsage := 0 }

theorem resetGpu_slot (gpu : GpuDevice) : (resetGpu gpu).slot = gpu.slot := rfl

/-- The columns written to a task that ran, or waited, on a lost node. -/
def failLost (sweep : Sweep) (task : Task) : Task :=
  { task with
    status := .failed
    finishedAt := some sweep.failedAt
    resultJson := some (Dict.set (Dict.set (task.resultJson.getD []) "reason" (.str "Node heartbeat timeout"))
      "failed_at" (.str (sweep.isoformat sweep.failedAt))) }

theorem failLost_id (sweep : Sweep) (task : Task) : (failLost sweep task).id = task.id := rfl

def lostNodes (sweep : Sweep) (db : Database) : List NodeId :=
  (db.nodes.rows.filter fun node => timedOut sweep node).map (·.id)

def impacted (lost : List NodeId) (task : Task) : Bool :=
  (match task.assignedNodeId with
    | some node => lost.contains node
    | none => false) &&
  (task.status = .queued || task.status = .running)

def markOfflineNodes (sweep : Sweep) (db : Database) : Database × Nat :=
  let lost := lostNodes sweep db
  if lost.isEmpty then (db, 0)
  else
    ({ db with
        nodes := db.nodes.updateWhere (timedOut sweep) offlineNode offlineNode_id
        gpus := db.gpus.updateWhere (fun gpu => lost.contains gpu.nodeId) resetGpu resetGpu_slot
        tasks := db.tasks.updateWhere (impacted lost) (failLost sweep) (failLost_id sweep) },
      lost.length)

/-! ## The rows one sweep writes -/

theorem impacted_none (task : Task) : impacted [] task = false := by
  unfold impacted
  cases task.assignedNodeId <;> simp

theorem impacted_status {lost : List NodeId} {task : Task} (hit : impacted lost task = true) :
    task.status = .queued ∨ task.status = .running := by
  rw [impacted, Bool.and_eq_true, Bool.or_eq_true] at hit
  exact hit.2.imp of_decide_eq_true of_decide_eq_true

theorem markOfflineNodes_tasks (sweep : Sweep) (db : Database) (t : TaskId) :
    (markOfflineNodes sweep db).1.tasks.get t = (db.tasks.get t).map fun task =>
      if impacted (lostNodes sweep db) task then failLost sweep task else task := by
  unfold markOfflineNodes
  simp only
  split
  · rename_i none
    rw [List.isEmpty_iff.mp none]
    simp only [impacted_none, Bool.false_eq_true, if_false, Option.map_id']
  · exact Table.get_updateWhere _ _ _ (failLost_id sweep) _

theorem markOfflineNodes_gpus (sweep : Sweep) (db : Database) (node : NodeId) (index : Int) :
    (markOfflineNodes sweep db).1.gpus.get (node, index) = (db.gpus.get (node, index)).map fun gpu =>
      if node ∈ lostNodes sweep db then resetGpu gpu else gpu := by
  unfold markOfflineNodes
  simp only
  split
  · rename_i none
    rw [List.isEmpty_iff.mp none]
    simp only [List.not_mem_nil, if_false, Option.map_id']
  · refine (Table.get_updateWhere _ _ _ resetGpu_slot _).trans ?_
    cases found : db.gpus.get (node, index) with
    | none => rfl
    | some gpu =>
        have here := Table.key_of_get found
        rw [GpuDevice.slot, Prod.mk.injEq] at here
        simp only [Option.map_some, List.contains_iff_mem, here.1]

end SuitApi.MonitorService
