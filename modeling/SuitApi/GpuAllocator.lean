import Mathlib.Data.List.Sort
import Mathlib.Data.List.Infix
import Mathlib.Data.Rat.Lemmas
import Mathlib.Algebra.Order.Ring.Unbundled.Rat
import SuitApi.Schema

/-! # GPU allocation

`allocate` looks for a node with enough matching idle GPUs, prefers the node with
most of them, and marks the lowest indices.  It runs inside the scheduler's
transaction and locks what it reads, so it is modelled on one database value.
-/

namespace SuitApi

structure Allocation where
  nodeId : NodeId
  nodeIp : String
  agentPort : Int
  gpuIndices : List Int
  deriving Repr, DecidableEq

/-- The row of the GPU lies in the allocation. -/
def Allocation.covers (a : Allocation) (gpu : GpuDevice) : Bool :=
  gpu.nodeId = a.nodeId && a.gpuIndices.contains gpu.gpuIndex

namespace GpuAllocator

def matchesRequirements (gpu : GpuDevice) (requiredModel : Option String)
    (minMemoryMb : Option Int) : Bool :=
  (match truthyText requiredModel with
    | some model => decide (model.toList <:+: (gpu.gpuModel.getD "").toList)
    | none => true) &&
  (match minMemoryMb with
    | some least => least = 0 || least ≤ gpu.memoryTotalMb.getD 0
    | none => true)

/-- The idle GPUs of a node, in the order of their index. -/
def availableGpus (db : Database) (node : Node) : List GpuDevice :=
  (db.gpus.rows.filter fun gpu => gpu.nodeId = node.id && gpu.status = .idle).insertionSort
    fun a b => a.gpuIndex ≤ b.gpuIndex

def requiredGpuCount (task : Task) : Int :=
  match task.configJson with
  | some config => config.gpuCount
  | none => 1

def filteredGpus (db : Database) (task : Task) (node : Node) : List GpuDevice :=
  (availableGpus db node).filter fun gpu =>
    matchesRequirements gpu (task.configJson.bind (·.gpuModel)) (task.configJson.bind (·.minMemoryMb))

/-- The nodes that can serve the task, each with its usable GPUs. -/
def candidates (db : Database) (task : Task) (nodes : List Node) : List (Node × List GpuDevice) :=
  (nodes.map fun node => (node, filteredGpus db task node)).filter fun candidate =>
    requiredGpuCount task ≤ candidate.2.length

/-- The sort key: most GPUs first, then lowest mean utilization, then node id. -/
def candidateKey (count : Int) (candidate : Node × List GpuDevice) : Int × ℚ × NodeId :=
  (-candidate.2.length,
    ((candidate.2.take count.toNat).map fun gpu => (gpu.utilization : ℚ)).sum / count,
    candidate.1.id)

def keyLe (a b : Int × ℚ × NodeId) : Bool :=
  a.1 < b.1 || (a.1 = b.1 && (a.2.1 < b.2.1 || (a.2.1 = b.2.1 && a.2.2 ≤ b.2.2)))

def selectNodeForCpuTask (db : Database) (nodes : List Node) : Option Node :=
  let score (node : Node) : Int × ℚ × NodeId :=
    (-((db.gpus.rows.filter fun gpu => gpu.nodeId = node.id && gpu.status = .idle).length : Int),
      0, node.id)
  (nodes.insertionSort fun a b => keyLe (score a) (score b)).head?

/-- The decision of `allocate`, before any row is marked. -/
def select (db : Database) (task : Task) (nodes : List Node) : Option Allocation :=
  let count := requiredGpuCount task
  if count ≤ 0 then
    (selectNodeForCpuTask db nodes).map fun node => ⟨node.id, node.ip, node.agentPort, []⟩
  else
    ((candidates db task nodes).insertionSort fun a b =>
        keyLe (candidateKey count a) (candidateKey count b)).head?.map fun (node, gpus) =>
      ⟨node.id, node.ip, node.agentPort, (gpus.take count.toNat).map (·.gpuIndex)⟩

/-- Set the status of every GPU of the allocation. -/
def mark (db : Database) (a : Allocation) (status : GpuStatus) : Database :=
  { db with
    gpus := db.gpus.updateWhere a.covers (GpuDevice.withStatus status)
      (GpuDevice.withStatus_slot status) }

def allocate (db : Database) (task : Task) (nodes : List Node) : Option (Allocation × Database) :=
  (select db task nodes).map fun a => (a, mark db a .allocated)

def release (db : Database) (a : Allocation) : Database :=
  if a.gpuIndices.isEmpty then db else mark db a .idle

def releaseByTask (db : Database) (taskId : TaskId) : Database :=
  match db.tasks.get taskId with
  | none => db
  | some task =>
      -- The id of a node is a generated UUID, never the empty text.
      match task.assignedNodeId with
      | none => db
      | some nodeId =>
          if task.gpuIndices.isEmpty then db
          else release db ⟨nodeId, "", 0, task.gpuIndices⟩

/-! ## What a decision guarantees -/

theorem mem_availableGpus {db : Database} {node : Node} {gpu : GpuDevice} :
    gpu ∈ availableGpus db node ↔ gpu ∈ db.gpus.rows ∧ gpu.nodeId = node.id ∧ gpu.status = .idle := by
  simp [availableGpus, List.mem_insertionSort]

theorem mem_filteredGpus {db : Database} {task : Task} {node : Node} {gpu : GpuDevice}
    (member : gpu ∈ filteredGpus db task node) :
    gpu ∈ db.gpus.rows ∧ gpu.nodeId = node.id ∧ gpu.status = .idle :=
  mem_availableGpus.mp (List.mem_of_mem_filter member)

theorem availableGpus_indices_nodup (db : Database) (node : Node) :
    ((availableGpus db node).map (·.gpuIndex)).Nodup := by
  have distinct : (db.gpus.rows.filter fun gpu =>
      gpu.nodeId = node.id && gpu.status = .idle).Nodup :=
    (List.Nodup.of_map _ db.gpus.unique).filter _
  apply List.Nodup.map_on
  · intro a ha b hb same
    obtain ⟨insideA, nodeA, _⟩ := mem_availableGpus.mp ha
    obtain ⟨insideB, nodeB, _⟩ := mem_availableGpus.mp hb
    apply List.inj_on_of_nodup_map db.gpus.unique insideA insideB
    simp only [GpuDevice.slot, nodeA, nodeB, same]
  · exact (List.perm_insertionSort _ _).nodup_iff.mpr distinct

/-- Everything later proofs need to know of a successful selection. -/
structure Selected (db : Database) (nodes : List Node) (a : Allocation) : Prop where
  node : ∃ node ∈ nodes, node.id = a.nodeId
  nodup : a.gpuIndices.Nodup
  idle : ∀ index ∈ a.gpuIndices, ∃ gpu, db.gpus.get (a.nodeId, index) = some gpu ∧ gpu.status = .idle

theorem select_spec {db : Database} {task : Task} {nodes : List Node} {a : Allocation}
    (chosen : select db task nodes = some a) : Selected db nodes a := by
  simp only [select] at chosen
  split at chosen
  · obtain ⟨node, found, rfl⟩ := Option.map_eq_some_iff.mp chosen
    refine ⟨⟨node, ?_, rfl⟩, List.nodup_nil, fun _ h => by cases h⟩
    exact (List.mem_insertionSort _).mp (List.mem_of_head? found)
  · obtain ⟨⟨node, gpus⟩, found, rfl⟩ := Option.map_eq_some_iff.mp chosen
    have candidate := (List.mem_insertionSort _).mp (List.mem_of_head? found)
    obtain ⟨node', member, pair⟩ := List.mem_map.mp (List.mem_of_mem_filter candidate)
    obtain ⟨rfl, rfl⟩ := Prod.mk.inj pair
    refine ⟨⟨node', member, rfl⟩, ?_, ?_⟩
    · have sorted := availableGpus_indices_nodup db node'
      exact sorted.sublist (((List.take_sublist _ _).trans List.filter_sublist).map _)
    · intro index inside
      obtain ⟨gpu, taken, rfl⟩ := List.mem_map.mp inside
      obtain ⟨row, here, idle⟩ := mem_filteredGpus (List.mem_of_mem_take taken)
      refine ⟨gpu, ?_, idle⟩
      have found := Table.get_of_mem row
      rwa [GpuDevice.slot, here] at found

/-! ## Marking rows -/

@[simp] theorem mark_tasks (db : Database) (a status) : (mark db a status).tasks = db.tasks := rfl

theorem covers_iff {a : Allocation} {gpu : GpuDevice} :
    a.covers gpu = true ↔ gpu.nodeId = a.nodeId ∧ gpu.gpuIndex ∈ a.gpuIndices := by
  simp [Allocation.covers]

theorem mark_get (db : Database) (a : Allocation) (status : GpuStatus) (node : NodeId) (index : Int) :
    (mark db a status).gpus.get (node, index) =
      (db.gpus.get (node, index)).map fun gpu =>
        if node = a.nodeId ∧ index ∈ a.gpuIndices then gpu.withStatus status else gpu := by
  rw [mark, Table.get_updateWhere]
  cases found : db.gpus.get (node, index) with
  | none => rfl
  | some gpu =>
      have here := Table.key_of_get found
      rw [GpuDevice.slot, Prod.mk.injEq] at here
      simp only [Option.map_some, covers_iff, here.1, here.2]

theorem mark_get_of_not_covered {db : Database} {a : Allocation} {status : GpuStatus} {node : NodeId}
    {index : Int} (outside : ¬ (node = a.nodeId ∧ index ∈ a.gpuIndices)) :
    (mark db a status).gpus.get (node, index) = db.gpus.get (node, index) := by
  rw [mark_get]
  cases db.gpus.get (node, index) with
  | none => rfl
  | some gpu => rw [Option.map_some, if_neg outside]

theorem release_eq_mark (db : Database) (a : Allocation) (node : NodeId) (index : Int) :
    (release db a).gpus.get (node, index) = (mark db a .idle).gpus.get (node, index) := by
  unfold release
  split
  · rename_i none
    refine (mark_get_of_not_covered ?_).symm
    rintro ⟨_, inside⟩
    rw [List.isEmpty_iff.mp none] at inside
    cases inside
  · rfl

@[simp] theorem release_tasks (db : Database) (a) : (release db a).tasks = db.tasks := by
  unfold release
  split <;> rfl

@[simp] theorem releaseByTask_tasks (db : Database) (t) : (releaseByTask db t).tasks = db.tasks := by
  unfold releaseByTask
  split
  · rfl
  · split
    · rfl
    · split
      · rfl
      · exact release_tasks _ _

theorem release_frame (db : Database) (a : Allocation) :
    (release db a).nodes = db.nodes ∧ (release db a).runningContainers = db.runningContainers ∧
      (release db a).modelInstances = db.modelInstances := by
  unfold release
  split <;> exact ⟨rfl, rfl, rfl⟩

theorem releaseByTask_frame (db : Database) (t : TaskId) :
    (releaseByTask db t).nodes = db.nodes ∧
      (releaseByTask db t).runningContainers = db.runningContainers := by
  unfold releaseByTask
  split
  · exact ⟨rfl, rfl⟩
  · split
    · exact ⟨rfl, rfl⟩
    · split
      · exact ⟨rfl, rfl⟩
      · exact ⟨(release_frame db _).1, (release_frame db _).2.1⟩

/-- Releasing by task touches exactly the GPUs its row lists. -/
theorem releaseByTask_get {db : Database} {t : TaskId} {task : Task}
    (found : db.tasks.get t = some task) (node : NodeId) (index : Int) :
    (releaseByTask db t).gpus.get (node, index) =
      (db.gpus.get (node, index)).map fun gpu =>
        if task.Lists node index then gpu.withStatus .idle else gpu := by
  unfold releaseByTask
  simp only [found]
  have untouched : (∀ node index, ¬ task.Lists node index) →
      db.gpus.get (node, index) = (db.gpus.get (node, index)).map fun gpu =>
        if task.Lists node index then gpu.withStatus .idle else gpu := by
    intro none
    simp only [none, if_false, Option.map_id']
  cases assigned : task.assignedNodeId with
  | none => exact untouched fun node index h => by rw [Task.Lists, assigned] at h; cases h.1
  | some nodeId =>
      simp only
      split
      · rename_i empty
        refine untouched fun node index h => ?_
        have inside := h.2
        rw [List.isEmpty_iff.mp empty] at inside
        cases inside
      · rw [release_eq_mark, mark_get]
        simp only [Task.Lists, assigned, Option.some.injEq, eq_comm]

theorem releaseByTask_unknown {db : Database} {t : TaskId} (missing : db.tasks.get t = none) :
    releaseByTask db t = db := by
  unfold releaseByTask
  rw [missing]

/-- Giving back what was just taken restores every row. -/
theorem release_mark {db : Database} {nodes : List Node} {a : Allocation} (chosen : Selected db nodes a)
    (node : NodeId) (index : Int) :
    (release (mark db a .allocated) a).gpus.get (node, index) = db.gpus.get (node, index) := by
  rw [release_eq_mark]
  by_cases covered : node = a.nodeId ∧ index ∈ a.gpuIndices
  · obtain ⟨rfl, inside⟩ := covered
    obtain ⟨gpu, found, idle⟩ := chosen.idle index inside
    rw [mark_get, mark_get, found]
    simp [inside, ← idle, GpuDevice.withStatus_same]
  · rw [mark_get_of_not_covered covered, mark_get_of_not_covered covered]

end GpuAllocator

end SuitApi
