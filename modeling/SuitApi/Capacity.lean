import SuitApi.Deployment
import SuitApi.Library.Packing

/-! # What a deployment needs

Each replica takes its GPUs from one node, the first that has enough of them.  All replicas
of a model are alike, so the order in which the nodes are tried decides where a replica runs
but not how many there can be.
-/

namespace SuitApi.Capacity

open ModelService Deployment

/-! ## Free GPUs -/

/-- The GPUs of the node that a replica could get. -/
def available (lower : String → String) (hint : Option String) (db : Database) (node : NodeId) : List GpuDevice :=
  (gpusOf db node).filter (suits lower hint)

def free (lower : String → String) (hint : Option String) (db : Database) (node : NodeId) : Nat :=
  (available lower hint db node).length

/-- How many replicas of the model there is room for. -/
def capacity (lower : String → String) (model : Model) (db : Database) : Nat :=
  Packing.capacity (parseGpuRequirement model.gpuRequirement).1
    (free lower (parseGpuRequirement model.gpuRequirement).2 db) ((deploymentNodes db).map (·.id))

theorem available_nodup (lower : String → String) (hint : Option String) (db : Database) (node : NodeId) :
    (available lower hint db node).Nodup := by
  have rows : (db.gpus.rows.filter fun gpu => gpu.nodeId = node).Nodup :=
    (List.Nodup.of_map _ db.gpus.unique).filter _
  exact ((List.perm_insertionSort _ _).nodup_iff.mpr rows).filter _

/-! ## One allocation -/

section

variable {lower : String → String} {count : Nat} {hint : Option String}

/-- The GPUs are the least used ones of a node that has enough. -/
theorem chooseGpus_taken {nodes : List (Node × List GpuDevice)} {node : Node} {gpus : List GpuDevice}
    (chosen : chooseGpus lower count hint nodes = some (node, gpus)) :
    ∃ shown, (node, shown) ∈ nodes ∧ count ≤ (shown.filter (suits lower hint)).length ∧
      gpus = ((shown.filter (suits lower hint)).insertionSort fun a b => lessUsed a b).take count := by
  induction nodes with
  | nil => cases chosen
  | cons first rest ih =>
      rw [chooseGpus] at chosen
      split at chosen
      · obtain ⟨shown, inside, enough⟩ := ih chosen
        exact ⟨shown, List.mem_cons_of_mem _ inside, enough⟩
      · rename_i enough
        cases chosen
        exact ⟨first.2, List.mem_cons_self, not_lt.mp enough, rfl⟩

end

section

variable {lower : String → String} {model : Model} {db : Database}

/-- The allocation is of as many GPUs as the model asks for, all of them available. -/
theorem allocateForModel_taken {a : ModelService.Allocation} (granted : allocateForModel lower model db = .ok a) :
    a.nodeId ∈ (deploymentNodes db).map (·.id) ∧
      ∃ taken : List GpuDevice, a.gpuIndices = taken.map (·.gpuIndex) ∧ taken.Nodup ∧
        taken.length = (parseGpuRequirement model.gpuRequirement).1 ∧
        ∀ gpu ∈ taken, gpu ∈ available lower (parseGpuRequirement model.gpuRequirement).2 db a.nodeId := by
  unfold allocateForModel allocateFrom at granted
  simp only at granted
  split at granted
  · cases granted
  · split at granted
    · cases granted
    · rename_i node gpus chosen
      cases granted
      obtain ⟨shown, inside, enough, rfl⟩ := chooseGpus_taken chosen
      obtain ⟨other, listed, same⟩ := List.mem_map.mp inside
      obtain ⟨rfl, rfl⟩ := Prod.mk.inj same
      refine ⟨List.mem_map_of_mem listed, _, rfl, ?_, ?_, ?_⟩
      · have sorted := (List.perm_insertionSort (fun a b => lessUsed a b = true) _).nodup_iff.mpr
          (available_nodup lower (parseGpuRequirement model.gpuRequirement).2 db other.id)
        exact sorted.sublist (List.take_sublist _ _)
      · rw [List.length_take, List.length_insertionSort]
        exact Nat.min_eq_left enough
      · intro gpu taken
        exact (List.mem_insertionSort _).mp (List.mem_of_mem_take taken)

end

/-! ## One replica takes one place -/

section

variable {lower : String → String} {hint : Option String} {db db' : Database} {a : ModelService.Allocation}
  {taken : List GpuDevice}

def inside (a : ModelService.Allocation) (gpu : GpuDevice) : Bool :=
  gpu.nodeId = a.nodeId && a.gpuIndices.contains gpu.gpuIndex

end

end SuitApi.Capacity
