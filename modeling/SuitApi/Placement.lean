import Mathlib.Data.String.Basic
import SuitApi.GpuAllocator
import SuitApi.Library.Selection

/-! # Where a task is placed

`allocate` sorts and takes the first; what it is for is an optimum.  A node can serve
a task with as many of its idle GPUs as suit the task.  Of the nodes that have
enough, the one of least rank is taken, and of its GPUs those of lowest index.
-/

namespace SuitApi.Placement

open GpuAllocator

/-! ## What is asked of a placement -/

/-- The GPU has the model and the memory that the task asks for.  A `min_memory_mb` of
    zero asks for nothing, as one that is absent. -/
def Suits (config : TaskConfig) (gpu : GpuDevice) : Prop :=
  (∀ model ∈ config.gpuModel, model.toList <:+: (gpu.gpuModel.getD "").toList) ∧
    ∀ least ∈ config.minMemoryMb, least ≠ 0 → least ≤ gpu.memoryTotalMb.getD 0

instance (config : TaskConfig) (gpu : GpuDevice) : Decidable (Suits config gpu) :=
  inferInstanceAs (Decidable (_ ∧ _))

/-- The idle GPUs of the node that suit the task. -/
def Serves (config : TaskConfig) (node : Node) (gpu : GpuDevice) : Prop :=
  gpu.nodeId = node.id ∧ gpu.status = .idle ∧ Suits config gpu

instance (config : TaskConfig) (node : Node) (gpu : GpuDevice) : Decidable (Serves config node gpu) :=
  inferInstanceAs (Decidable (_ ∧ _))

/-- They, by increasing index. -/
def serving (db : Database) (config : TaskConfig) (node : Node) : List GpuDevice :=
  (db.gpus.rows.filter fun gpu => Serves config node gpu).insertionSort fun a b => a.gpuIndex ≤ b.gpuIndex

/-- Most suitable GPUs first, then the lowest mean utilization of those to be taken, then
    the node id. -/
def rank (db : Database) (config : TaskConfig) (node : Node) : ℤ ×ₗ ℚ ×ₗ NodeId :=
  toLex (-((serving db config node).length : ℤ), toLex
    ((((serving db config node).take config.gpuCount.toNat).map fun gpu => (gpu.utilization : ℚ)).sum /
      config.gpuCount, node.id))

/-! ## The lists of the code -/

theorem matchesRequirements_iff (config : TaskConfig) (gpu : GpuDevice) :
    matchesRequirements gpu config.gpuModel config.minMemoryMb = true ↔ Suits config gpu := by
  unfold matchesRequirements Suits
  rw [Bool.and_eq_true]
  apply and_congr
  · cases config.gpuModel with
    | none => simp [truthyText]
    | some model =>
        by_cases empty : model = ""
        · subst empty
          have absent : truthyText (some "") = none := rfl
          simp [absent]
        · have given : truthyText (some model) = some model := by
            rw [truthyText, Option.filter_some, if_pos (decide_eq_true empty)]
          simp [given]
  · cases config.minMemoryMb with
    | none => simp
    | some least =>
        simp only [Bool.or_eq_true, decide_eq_true_eq, Option.mem_def, Option.some.injEq, forall_eq']
        exact or_iff_not_imp_left

theorem filteredGpus_eq {db : Database} {task : Task} {config : TaskConfig} (configured : task.configJson = some config)
    (node : Node) : filteredGpus db task node = serving db config node := by
  unfold filteredGpus serving availableGpus
  simp only [configured, Option.bind_some]
  have distinct : ((db.gpus.rows.filter fun gpu => gpu.nodeId = node.id && gpu.status = .idle).map
      (·.gpuIndex)).Nodup := by
    have sorted := availableGpus_indices_nodup db node
    exact ((List.perm_insertionSort _ _).map _).nodup_iff.mp sorted
  have sorts : ∀ a b : GpuDevice, a.gpuIndex ≤ b.gpuIndex ↔ a.gpuIndex ≤ b.gpuIndex := fun _ _ => Iff.rfl
  rw [Selection.filter_insertionSort sorts distinct, List.filter_filter]
  congr 1
  apply List.filter_congr
  intro gpu _
  have suits := matchesRequirements_iff config gpu
  rw [Bool.eq_iff_iff, Bool.and_eq_true, Bool.and_eq_true, suits, decide_eq_true_iff, decide_eq_true_iff,
    decide_eq_true_iff, Serves]
  tauto

theorem mem_serving {db : Database} {config : TaskConfig} {node : Node} {gpu : GpuDevice} :
    gpu ∈ serving db config node ↔ gpu ∈ db.gpus.rows ∧ Serves config node gpu := by
  simp [serving, List.mem_insertionSort]

theorem serving_indices (db : Database) (config : TaskConfig) (node : Node) :
    ((serving db config node).map (·.gpuIndex)).Pairwise (· < ·) := by
  apply Selection.map_insertionSort_lt (fun _ _ => Iff.rfl)
  apply List.Nodup.map_on
  · intro a ha b hb same
    obtain ⟨insideA, servesA⟩ := List.mem_filter.mp ha
    obtain ⟨insideB, servesB⟩ := List.mem_filter.mp hb
    apply List.inj_on_of_nodup_map db.gpus.unique insideA insideB
    simp only [GpuDevice.slot, (of_decide_eq_true servesA).1, (of_decide_eq_true servesB).1, same]
  · exact (List.Nodup.of_map _ db.gpus.unique).filter _

theorem mem_candidates {db : Database} {task : Task} {config : TaskConfig} (configured : task.configJson = some config)
    {nodes : List Node} {candidate : Node × List GpuDevice} :
    candidate ∈ candidates db task nodes ↔ candidate.1 ∈ nodes ∧ candidate.2 = serving db config candidate.1 ∧
      config.gpuCount ≤ candidate.2.length := by
  have count : requiredGpuCount task = config.gpuCount := by simp only [requiredGpuCount, configured]
  unfold candidates
  rw [List.mem_filter, List.mem_map, count, decide_eq_true_iff, ← and_assoc]
  apply and_congr_left
  intro _
  constructor
  · rintro ⟨node, inside, rfl⟩
    exact ⟨inside, filteredGpus_eq configured node⟩
  · intro ⟨inside, gpus⟩
    exact ⟨candidate.1, inside, by rw [filteredGpus_eq configured, ← gpus]⟩

theorem keyLe_iff (a b : Int × ℚ × NodeId) :
    keyLe a b = true ↔ (toLex (a.1, toLex a.2) : ℤ ×ₗ ℚ ×ₗ NodeId) ≤ toLex (b.1, toLex b.2) := by
  refine Iff.trans ?_ Selection.toLex_le_iff.symm
  simp [keyLe]

/-- The node that a placement is to take. -/
structure Best (db : Database) (config : TaskConfig) (nodes : List Node) (node : Node) : Prop where
  listed : node ∈ nodes
  enough : config.gpuCount ≤ (serving db config node).length
  least : ∀ other ∈ nodes, config.gpuCount ≤ (serving db config other).length →
    rank db config node ≤ rank db config other

/-- The allocation of the node's first serving GPUs. -/
def taken (db : Database) (config : TaskConfig) (node : Node) : Allocation where
  nodeId := node.id
  nodeIp := node.ip
  agentPort := node.agentPort
  gpuIndices := ((serving db config node).take config.gpuCount.toNat).map (·.gpuIndex)

theorem select_best {db : Database} {task : Task} {config : TaskConfig} (configured : task.configJson = some config)
    (positive : 1 ≤ config.gpuCount) {nodes : List Node} {a : Allocation} (chosen : select db task nodes = some a) :
    ∃ node, Best db config nodes node ∧ a = taken db config node := by
  have count : requiredGpuCount task = config.gpuCount := by simp only [requiredGpuCount, configured]
  simp only [select, count, if_neg (by omega : ¬ config.gpuCount ≤ 0)] at chosen
  obtain ⟨⟨node, gpus⟩, first, rfl⟩ := Option.map_eq_some_iff.mp chosen
  have key := fun x y => keyLe_iff (candidateKey config.gpuCount x) (candidateKey config.gpuCount y)
  obtain ⟨inside, least⟩ := Selection.least (κ := ℤ ×ₗ ℚ ×ₗ NodeId) key first
  obtain ⟨listed, same, enough⟩ := (mem_candidates configured).mp inside
  simp only at listed same enough
  subst same
  refine ⟨node, ⟨listed, enough, ?_⟩, rfl⟩
  intro other member able
  exact least (other, serving db config other) ((mem_candidates configured).mpr ⟨member, rfl, able⟩)

theorem select_eq_none_iff {db : Database} {task : Task} {config : TaskConfig}
    (configured : task.configJson = some config) (positive : 1 ≤ config.gpuCount) (nodes : List Node) :
    select db task nodes = none ↔ ∀ node ∈ nodes, ((serving db config node).length : ℤ) < config.gpuCount := by
  have count : requiredGpuCount task = config.gpuCount := by simp only [requiredGpuCount, configured]
  simp only [select, count, if_neg (by omega : ¬ config.gpuCount ≤ 0), Option.map_eq_none_iff,
    List.head?_eq_none_iff]
  rw [← List.length_eq_zero_iff, List.length_insertionSort, List.length_eq_zero_iff, List.eq_nil_iff_forall_not_mem]
  constructor
  · intro empty node listed
    by_contra able
    exact empty (node, serving db config node) ((mem_candidates configured).mpr ⟨listed, rfl, not_lt.mp able⟩)
  · intro short candidate inside
    obtain ⟨listed, gpus, enough⟩ := (mem_candidates configured).mp inside
    have few := short candidate.1 listed
    rw [gpus] at enough
    omega

/-! ## What is taken -/

section

variable {db : Database} {config : TaskConfig} {node : Node}

theorem taken_length (positive : 1 ≤ config.gpuCount) (enough : config.gpuCount ≤ (serving db config node).length) :
    ((taken db config node).gpuIndices.length : ℤ) = config.gpuCount := by
  simp only [taken, List.length_map, List.length_take]
  omega

theorem taken_increasing (db : Database) (config : TaskConfig) (node : Node) :
    (taken db config node).gpuIndices.Pairwise (· < ·) := by
  rw [taken, List.map_take]
  exact (serving_indices db config node).sublist (List.take_sublist _ _)

theorem taken_serves {index : Int} (inside : index ∈ (taken db config node).gpuIndices) :
    ∃ gpu ∈ db.gpus.rows, gpu.gpuIndex = index ∧ Serves config node gpu := by
  obtain ⟨gpu, member, rfl⟩ := List.mem_map.mp inside
  obtain ⟨row, serves⟩ := mem_serving.mp (List.mem_of_mem_take member)
  exact ⟨gpu, row, rfl, serves⟩

/-- The GPUs that serve and are not taken lie above all that are. -/
theorem taken_lowest {gpu : GpuDevice} (row : gpu ∈ db.gpus.rows) (serves : Serves config node gpu)
    (left : gpu.gpuIndex ∉ (taken db config node).gpuIndices) {index : Int}
    (inside : index ∈ (taken db config node).gpuIndices) : index < gpu.gpuIndex := by
  have sorted := serving_indices db config node
  have split : (serving db config node).map (·.gpuIndex) = (taken db config node).gpuIndices ++
      ((serving db config node).drop config.gpuCount.toNat).map (·.gpuIndex) := by
    rw [taken, ← List.map_append, List.take_append_drop]
  have whole : gpu.gpuIndex ∈ (serving db config node).map (·.gpuIndex) :=
    List.mem_map_of_mem (mem_serving.mpr ⟨row, serves⟩)
  rw [split] at sorted whole
  have after := (List.mem_append.mp whole).resolve_left left
  exact (List.pairwise_append.mp sorted).2.2 index inside gpu.gpuIndex after

theorem taken_covers {gpu : GpuDevice} (row : gpu ∈ db.gpus.rows)
    (covered : (taken db config node).covers gpu = true) :
    Serves config node gpu := by
  obtain ⟨here, inside⟩ := covers_iff.mp covered
  obtain ⟨other, member, same, serves⟩ := taken_serves inside
  have equal : other = gpu := by
    apply List.inj_on_of_nodup_map db.gpus.unique member row
    rw [GpuDevice.slot, GpuDevice.slot, serves.1, same, here]
    rfl
  exact equal ▸ serves

/-- Giving the allocation back restores the database. -/
theorem release_taken (positive : 1 ≤ config.gpuCount)
    (enough : config.gpuCount ≤ (serving db config node).length) :
    release (mark db (taken db config node) .allocated) (taken db config node) = db := by
  have several : (taken db config node).gpuIndices.isEmpty = false := by
    have length := taken_length positive enough
    rw [List.isEmpty_eq_false_iff, ← List.length_pos_iff]
    omega
  rw [release, if_neg (by rw [several]; exact Bool.false_ne_true)]
  have undone : (mark (mark db (taken db config node) .allocated) (taken db config node) .idle).gpus = db.gpus := by
    apply Table.updateWhere_undo _ _ _ _ (GpuDevice.withStatus_slot .allocated) (GpuDevice.withStatus_slot .idle)
    · intro gpu
      rfl
    · intro gpu row covered
      have idle := (taken_covers row covered).2.1
      rw [GpuDevice.withStatus_withStatus, ← idle, GpuDevice.withStatus_same]
  have whole : mark (mark db (taken db config node) .allocated) (taken db config node) .idle =
      { db with gpus := (mark (mark db (taken db config node) .allocated) (taken db config node) .idle).gpus } := rfl
  rw [whole, undone]

end

/-! ## The stamps of the rows -/

/-- The database with the column `gpu_devices.updated_at`, which the mapping sets to the
    time of every statement that changes a row. -/
structure Stamped where
  db : Database
  updatedAt : NodeId × Int → Time

/-- The flush of changed GPU rows. -/
def flush (now : Time) (db' : Database) (s : Stamped) : Stamped where
  db := db'
  updatedAt := fun slot => if db'.gpus.get slot = s.db.gpus.get slot then s.updatedAt slot else now

/-- `allocate` and its flush. -/
def allocateAt (now : Time) (task : Task) (nodes : List Node) (s : Stamped) : Option Allocation × Stamped :=
  match allocate s.db task nodes with
  | none => (none, s)
  | some (a, db') => (some a, flush now db' s)

/-- `release` and its flush. -/
def releaseAt (now : Time) (a : Allocation) (s : Stamped) : Stamped := flush now (release s.db a) s

/-- Marking taken GPUs changes the rows of their slots and no others. -/
theorem mark_taken_get (db : Database) (config : TaskConfig) (node : Node) (slot : NodeId × Int) :
    (mark db (taken db config node) .allocated).gpus.get slot = db.gpus.get slot ↔
      ¬ (slot.1 = (taken db config node).nodeId ∧ slot.2 ∈ (taken db config node).gpuIndices) := by
  constructor
  · intro same covered
    obtain ⟨gpu, row, index, serves⟩ := taken_serves covered.2
    have here : gpu.slot = slot := Prod.ext (serves.1.trans covered.1.symm) index
    have found : db.gpus.get slot = some gpu := here ▸ Table.get_of_mem row
    rw [mark_get, found, Option.map_some, if_pos covered, Option.some.injEq] at same
    have status : GpuStatus.allocated = gpu.status := congrArg GpuDevice.status same
    rw [serves.2.1] at status
    cases status
  · exact mark_get_of_not_covered

/-- What a successful placement does. -/
structure Placed (config : TaskConfig) (nodes : List Node) (now later : Time) (s s' : Stamped) (a : Allocation) :
    Prop where
  node : ∃ node, Best s.db config nodes node ∧ a = taken s.db config node
  count : (a.gpuIndices.length : ℤ) = config.gpuCount
  increasing : a.gpuIndices.Pairwise (· < ·)
  /-- Each index is that of an idle GPU of the node that suits the task, and there is none
      below that is left out. -/
  serves : ∀ index ∈ a.gpuIndices, ∃ gpu ∈ s.db.gpus.rows, gpu.gpuIndex = index ∧ gpu.nodeId = a.nodeId ∧
    gpu.status = .idle ∧ Suits config gpu
  lowest : ∀ gpu ∈ s.db.gpus.rows, gpu.nodeId = a.nodeId → gpu.status = .idle → Suits config gpu →
    gpu.gpuIndex ∉ a.gpuIndices → ∀ index ∈ a.gpuIndices, index < gpu.gpuIndex
  rows : s'.db.gpus.rows = s.db.gpus.rows.map fun gpu =>
    if gpu.nodeId = a.nodeId ∧ gpu.gpuIndex ∈ a.gpuIndices then { gpu with status := .allocated } else gpu
  others : s'.db = { s.db with gpus := s'.db.gpus }
  stamps : ∀ slot, s'.updatedAt slot =
    if slot.1 = a.nodeId ∧ slot.2 ∈ a.gpuIndices then now else s.updatedAt slot
  restored : (releaseAt later a s').db = s.db
  restamped : ∀ slot, (releaseAt later a s').updatedAt slot =
    if slot.1 = a.nodeId ∧ slot.2 ∈ a.gpuIndices then later else s.updatedAt slot

/-- `allocate` finds a placement exactly where there is one, takes the best, changes the
    rows it takes and nothing else, and `release` undoes it. -/
theorem allocate_correct {task : Task} {config : TaskConfig} (configured : task.configJson = some config)
    (positive : 1 ≤ config.gpuCount) (nodes : List Node) (now later : Time) (s : Stamped) :
    ((allocateAt now task nodes s).1 = none ↔
        ∀ node ∈ nodes, ((serving s.db config node).length : ℤ) < config.gpuCount) ∧
      ((allocateAt now task nodes s).1 = none → (allocateAt now task nodes s).2 = s) ∧
      ∀ a, (allocateAt now task nodes s).1 = some a →
        Placed config nodes now later s (allocateAt now task nodes s).2 a := by
  rw [← select_eq_none_iff configured positive nodes]
  unfold allocateAt allocate
  cases chosen : select s.db task nodes with
  | none => simp
  | some a =>
      refine ⟨by simp, by simp, ?_⟩
      simp only [Option.map_some, Option.some.injEq, forall_eq']
      obtain ⟨node, best, rfl⟩ := select_best configured positive chosen
      have back := release_taken positive best.enough
      constructor
      case node => exact ⟨node, best, rfl⟩
      case count => exact taken_length positive best.enough
      case increasing => exact taken_increasing s.db config node
      case serves =>
        intro index inside
        obtain ⟨gpu, row, here, own, idle, suits⟩ := taken_serves inside
        exact ⟨gpu, row, here, own, idle, suits⟩
      case lowest =>
        intro gpu row own idle suits left index inside
        exact taken_lowest row ⟨own, idle, suits⟩ left inside
      case rows =>
        apply List.map_congr_left
        intro gpu _
        simp only [covers_iff]
        rfl
      case others => rfl
      case stamps =>
        intro slot
        simp only [flush, mark_taken_get]
        split <;> rename_i here <;> simp [here]
      case restored => exact back
      case restamped =>
        intro slot
        have changed := mark_taken_get s.db config node slot
        rw [eq_comm] at changed
        simp only [releaseAt, flush, back, changed]
        rw [eq_comm] at changed
        simp only [changed]
        split <;> rename_i here <;> simp [here]

/-! ## Samples -/

def sampleNode : Node := { id := "n1", ip := "10.0.0.1" }

/-- The agent reports a negative amount of memory. -/
def sampleDb : Database where
  gpus := .singleton { id := "g", nodeId := "n1", gpuIndex := 0, memoryTotalMb := some (-1) }

def sampleTask (config : TaskConfig) : Task := { id := "t", userId := "u", configJson := some config }

def sample : Stamped := { db := sampleDb, updatedAt := fun _ => 0 }

/-- Three online nodes. -/
def rack : List Node :=
  [{ id := "n1", ip := "10.0.0.1" }, { id := "n2", ip := "10.0.0.2" }, { id := "n3", ip := "10.0.0.3" }]

def rackGpu (nodeId : NodeId) (gpuIndex utilization memoryTotalMb : Int) (gpuModel : String) (status : GpuStatus) :
    GpuDevice where
  id := nodeId ++ "-" ++ toString gpuIndex
  nodeId
  gpuIndex
  gpuModel := some gpuModel
  memoryTotalMb := some memoryTotalMb
  utilization
  status

/-- The second and the third node have three GPUs that serve, the first has two. -/
def rackDb : Database where
  gpus :=
    { rows := [
        rackGpu "n1" 0 0 80000 "NVIDIA A100" .idle, rackGpu "n1" 1 0 80000 "NVIDIA A100" .idle,
        rackGpu "n2" 0 0 80000 "NVIDIA A100" .allocated, rackGpu "n2" 1 50 80000 "NVIDIA A100" .idle,
        rackGpu "n2" 2 70 80000 "NVIDIA A100" .idle, rackGpu "n2" 3 0 80000 "NVIDIA A100" .idle,
        rackGpu "n3" 0 0 80000 "NVIDIA V100" .idle, rackGpu "n3" 4 20 80000 "NVIDIA A100" .idle,
        rackGpu "n3" 1 10 80000 "NVIDIA A100" .idle, rackGpu "n3" 2 0 20000 "NVIDIA A100" .idle,
        rackGpu "n3" 6 90 80000 "NVIDIA A100" .idle]
      unique := by decide }

def rackConfig : TaskConfig where
  gpuCount := 2
  gpuModel := some "A100"
  minMemoryMb := some 40000

/-- The third node wins by the mean utilization of its first two GPUs that serve. -/
theorem sample_placed :
    Placed rackConfig rack 1 2 ⟨rackDb, fun _ => 0⟩
      (allocateAt 1 (sampleTask rackConfig) rack ⟨rackDb, fun _ => 0⟩).2 ⟨"n3", "10.0.0.3", 9000, [1, 4]⟩ :=
  (allocate_correct rfl (by decide) rack 1 2 ⟨rackDb, fun _ => 0⟩).2.2 _ (by decide +kernel)

/-- Every GPU whose memory is at least zero is too little for a task that asks for zero,
    and the stamps are not restored. -/
theorem zero_memory_and_stamps :
    (¬ ∀ (task : Task) (config : TaskConfig) (nodes : List Node) (db : Database), task.configJson = some config →
        1 ≤ config.gpuCount → (allocate db task nodes = none ↔ ∀ node ∈ nodes,
          ((db.gpus.rows.filter fun gpu => gpu.nodeId = node.id ∧ gpu.status = .idle ∧
            (∀ model ∈ config.gpuModel, model.toList <:+: (gpu.gpuModel.getD "").toList) ∧
            ∀ least ∈ config.minMemoryMb, least ≤ gpu.memoryTotalMb.getD 0).length : ℤ) < config.gpuCount)) ∧
      ¬ ∀ (task : Task) (config : TaskConfig) (nodes : List Node) (now later : Time) (s s' : Stamped) (a : Allocation),
        task.configJson = some config → 1 ≤ config.gpuCount → allocateAt now task nodes s = (some a, s') →
          releaseAt later a s' = s := by
  constructor
  · intro all
    have refused := (all (sampleTask { gpuCount := 1, minMemoryMb := some 0 }) _ [sampleNode] sampleDb rfl
      (by decide)).mpr (by decide +kernel)
    exact absurd (congrArg Option.isSome refused) (by decide +kernel)
  · intro all
    have same := all (sampleTask { gpuCount := 1 }) _ [sampleNode] 1 2 sample _ _ rfl (by decide) rfl
    have stamp := congrArg (fun s : Stamped => s.updatedAt ("n1", 0)) same
    exact absurd stamp (by decide +kernel)

end SuitApi.Placement
