import SuitApi.AIService
import SuitApi.MonitorService

/-! # A lost node and the model instances on it

The sweep that takes a node offline frees its GPUs and fails its tasks.  The rows of
the model instances on the node stay as they are, so they keep the freed GPUs, and
the gateway goes on to route requests to them.
-/

namespace SuitApi.NodeLoss

open MonitorService AIService

/-- The statuses with which an instance occupies its GPUs. -/
def Active (row : ModelInstance) : Prop := row.status = "starting" ∨ row.status = "running"

instance (row : ModelInstance) : Decidable (Active row) := inferInstanceAs (Decidable (_ ∨ _))

/-- A node that the sweep takes offline is out of service. -/
structure OutOfService (sweep : Sweep) (db : Database) : Prop where
  tasks : ∀ task ∈ (markOfflineNodes sweep db).1.tasks.rows, task.status = .queued ∨ task.status = .running →
    ∀ node ∈ lostNodes sweep db, task.assignedNodeId ≠ some node
  gpus : ∀ gpu ∈ db.gpus.rows, gpu.nodeId ∈ lostNodes sweep db →
    ∀ row ∈ (markOfflineNodes sweep db).1.modelInstances.rows, Active row → ¬ row.Lists gpu.nodeId gpu.gpuIndex
  gateway : ∀ startedAt counters id row,
    (selectRunningInstance startedAt counters id (markOfflineNodes sweep db).1).1 = .ok row →
      row.nodeId ∉ lostNodes sweep db

/-! ## What one sweep leaves -/

theorem modelInstances_kept (sweep : Sweep) (db : Database) :
    (markOfflineNodes sweep db).1.modelInstances = db.modelInstances := by
  unfold markOfflineNodes
  simp only
  split <;> rfl

theorem impacted_of_assigned {lost : List NodeId} {task : Task} {node : NodeId}
    (waits : task.status = .queued ∨ task.status = .running) (assigned : task.assignedNodeId = some node)
    (inside : node ∈ lost) : impacted lost task = true := by
  simp [impacted, assigned, inside, waits]

/-- The tasks of a lost node have failed. -/
theorem tasks_out_of_service (sweep : Sweep) (db : Database) :
    ∀ task ∈ (markOfflineNodes sweep db).1.tasks.rows, task.status = .queued ∨ task.status = .running →
      ∀ node ∈ lostNodes sweep db, task.assignedNodeId ≠ some node := by
  intro task stored waits node lost assigned
  have found := Table.get_of_mem stored
  rw [markOfflineNodes_tasks, Option.map_eq_some_iff] at found
  obtain ⟨before, _, written⟩ := found
  by_cases hit : impacted (lostNodes sweep db) before = true
  · rw [if_pos hit] at written
    subst written
    simp [failLost] at waits
  · rw [if_neg hit] at written
    subst written
    exact hit (impacted_of_assigned waits assigned lost)

/-! ## When the instances are out of service -/

/-- A lost node is out of service exactly when it had no running instance, and no
    instance that is starting lists a GPU of it. -/
theorem outOfService_iff (sweep : Sweep) (db : Database) :
    OutOfService sweep db ↔
      ∀ row ∈ db.modelInstances.rows, row.nodeId ∈ lostNodes sweep db →
        row.status ≠ "running" ∧
          (row.status = "starting" → ∀ gpu ∈ db.gpus.rows, ¬ row.Lists gpu.nodeId gpu.gpuIndex) := by
  constructor
  · intro out row stored lost
    constructor
    · intro running
      have routed : row ∈ runningInstances (fun _ => 0) row.modelId (markOfflineNodes sweep db).1 := by
        rw [mem_runningInstances, modelInstances_kept]
        exact ⟨stored, rfl, running⟩
      obtain ⟨counters, selected⟩ := selectRunningInstance_of_mem routed
      exact out.gateway _ counters row.modelId row selected lost
    · intro starting gpu present lists
      have node : gpu.nodeId ∈ lostNodes sweep db := lists.1 ▸ lost
      exact out.gpus gpu present node row (modelInstances_kept sweep db ▸ stored) (.inl starting) lists
  · intro vacated
    constructor
    case tasks => exact tasks_out_of_service sweep db
    case gpus =>
      intro gpu present lost row stored active lists
      rw [modelInstances_kept] at stored
      obtain ⟨idle, unlisted⟩ := vacated row stored (lists.1.symm ▸ lost)
      cases active with
      | inl starting => exact unlisted starting gpu present lists
      | inr running => exact idle running
    case gateway =>
      intro startedAt counters id row selected lost
      cases selectRunningInstance_spec startedAt counters id (markOfflineNodes sweep db).1 with
      | inl refused =>
          obtain ⟨refusal, fails, _⟩ := refused
          rw [fails] at selected
          cases selected
      | inr routed =>
          obtain ⟨chosen, inside, succeeds⟩ := routed
          rw [succeeds] at selected
          cases selected
          obtain ⟨stored, _, running⟩ := mem_runningInstances.mp inside
          rw [modelInstances_kept] at stored
          exact (vacated row stored lost).1 running

namespace Sample

/-- The last heartbeat was a hundred seconds ago. -/
def sweep : Sweep := { checkedAt := 100000000, failedAt := 100000000 }

def instance_ : ModelInstance :=
  { id := "i", modelId := "m", nodeId := "n", assignedGpuIndices := some [0], port := some 8001,
    status := "running" }

def db : Database where
  nodes := .singleton { id := "n", ip := "10.0.0.1", status := .online, lastHeartbeat := some 0 }
  gpus := .singleton { id := "g", nodeId := "n", gpuIndex := 0, status := .allocated }
  models := .singleton { id := "m", name := "llama", status := "online" }
  modelInstances := .singleton instance_

end Sample

/-- The gateway still routes to the instance of a node that is lost. -/
theorem lost_instance_routed : ¬ ∀ (sweep : Sweep) (db : Database), OutOfService sweep db := by
  intro out
  have selected : (selectRunningInstance (fun _ => 0) (fun _ => 0) "m"
      (markOfflineNodes Sample.sweep Sample.db).1).1 = .ok Sample.instance_ := by decide
  exact (out Sample.sweep Sample.db).gateway _ _ _ _ selected (by decide)

end SuitApi.NodeLoss
