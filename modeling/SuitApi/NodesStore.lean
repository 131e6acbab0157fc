import Mathlib.Data.List.Forall2
import SuitApi.ModelService

/-! # The console's view of the nodes

The console asks for all nodes with their GPUs and for the idle GPUs of online nodes, and
merges the two answers.  Where a node has idle GPUs they take the place of all of its own.
-/

namespace SuitApi

def NodeStatus.text : NodeStatus → String
  | .online => "online"
  | .offline => "offline"
  | .maintenance => "maintenance"

def GpuStatus.text : GpuStatus → String
  | .idle => "idle"
  | .allocated => "allocated"
  | .busy => "busy"

namespace NodesStore

/-! ## What the backend answers -/

/-- A GPU in an answer; the first of the two serializers leaves out the node, the second
    the id. -/
structure GpuInfo where
  id : Option String := none
  nodeId : Option NodeId := none
  nodeIp : Option String := none
  hostname : Option String := none
  gpuIndex : Int
  gpuUuid : Option String
  gpuModel : Option String
  memoryTotalMb : Option Int
  memoryUsedMb : Int
  memoryFreeMb : Int
  utilizationGpu : Int
  utilizationMemory : Int
  temperature : Int
  powerUsage : Int
  powerLimit : Int
  status : Option String
  processes : List ProcessInfo
  deriving Repr, DecidableEq

structure NodeInfo where
  id : NodeId
  hostname : Option String
  ip : String
  agentPort : Int
  gpuCount : Option Nat
  gpuModel : Option String
  totalMemoryMb : Option Int
  status : Option String
  cpuPercent : ℚ
  memoryPercent : ℚ
  lastHeartbeat : Option Time
  gpus : Option (List GpuInfo)
  runningContainers : List RunningContainer
  deriving Repr, DecidableEq

/-- The columns of a GPU that both answers have. -/
def gpuColumns (gpu : GpuDevice) : GpuInfo where
  gpuIndex := gpu.gpuIndex
  gpuUuid := gpu.gpuUuid
  gpuModel := gpu.gpuModel
  memoryTotalMb := gpu.memoryTotalMb
  memoryUsedMb := gpu.memoryUsedMb
  memoryFreeMb := gpu.memoryFreeMb
  utilizationGpu := gpu.utilization
  utilizationMemory := gpu.utilizationMemory
  temperature := gpu.temperature
  powerUsage := gpu.powerUsage
  powerLimit := gpu.powerLimit
  status := some gpu.status.text
  processes := gpu.processes

def serializeNode (db : Database) (node : Node) : NodeInfo where
  id := node.id
  hostname := node.hostname
  ip := node.ip
  agentPort := node.agentPort
  gpuCount := some node.gpuCount
  gpuModel := node.gpuModel
  totalMemoryMb := node.totalMemoryMb
  status := some node.status.text
  cpuPercent := node.cpuPercent
  memoryPercent := node.memoryPercent
  lastHeartbeat := node.lastHeartbeat
  gpus := some ((ModelService.gpusOf db node.id).map fun gpu => { gpuColumns gpu with id := some gpu.id })
  runningContainers := db.runningContainers.rows.filter fun row => row.nodeId = node.id

def serializeGpu (gpu : GpuDevice) (node : Node) : GpuInfo :=
  { gpuColumns gpu with nodeId := some node.id, nodeIp := some node.ip, hostname := node.hostname }

section

-- the order of the database on texts
variable (collate : String → String → Bool)

def nodeRows (db : Database) : List Node := db.nodes.rows.insertionSort fun a b => collate a.ip b.ip

def listNodes (db : Database) : List NodeInfo := (nodeRows collate db).map (serializeNode db)

/-- `select(GpuDevice).join(Node)` with the filters of `list_idle_gpus`. -/
def idleRows (db : Database) : List (GpuDevice × Node) :=
  (db.gpus.rows.filterMap fun gpu => (db.nodes.get gpu.nodeId).map fun node => (gpu, node)).filter
    fun row => row.2.status = .online && row.1.status = .idle

def listIdleGpus (db : Database) : List GpuInfo :=
  ((idleRows db).insertionSort fun a b =>
    if a.2.ip = b.2.ip then a.1.gpuIndex ≤ b.1.gpuIndex else collate a.2.ip b.2.ip).map fun row =>
      serializeGpu row.1 row.2

end

/-! ## The store -/

def toArray {α : Type} (value : Option (List α)) : List α := value.getD []

/-- `gpu.node_id === node.id || gpu.node_ip === node.ip`. -/
def belongs (node : NodeInfo) (gpu : GpuInfo) : Bool := gpu.nodeId = some node.id || gpu.nodeIp = some node.ip

def mergeNodesWithGpus (nodes : List NodeInfo) (gpuResources : List GpuInfo) : List NodeInfo :=
  if gpuResources = [] then nodes
  else
    nodes.map fun node =>
      let gpus := gpuResources.filter (belongs node)
      { node with
        gpus := some (if gpus ≠ [] then gpus else toArray node.gpus)
        gpuCount := some (node.gpuCount.getD gpus.length) }

def isIdle (gpu : GpuInfo) : Bool := ["idle", "free", "available"].contains ((truthyText gpu.status).getD "idle")

def idleGpus (nodes : List NodeInfo) : Nat :=
  (nodes.map fun node => ((toArray node.gpus).filter isIdle).length).sum

/-- The nodes after `refresh`, from the two answers; `none` where a request fails. -/
def refresh (nodes : Option (List NodeInfo)) (gpuResources : Option (List GpuInfo)) : List NodeInfo :=
  mergeNodesWithGpus (toArray nodes) (toArray gpuResources)

/-! ## What the view should be -/

/-- The constraints of the schema: an address belongs to one node, and a GPU refers to a
    node. -/
structure Constrained (db : Database) : Prop where
  ips : (db.nodes.rows.map (·.ip)).Nodup
  referenced : ∀ gpu ∈ db.gpus.rows, (db.nodes.get gpu.nodeId).isSome = true

/-- The node is shown with each of its GPUs once, under its status. -/
def Shows (db : Database) (node : Node) (shown : NodeInfo) : Prop :=
  shown.id = node.id ∧
    ((toArray shown.gpus).map fun gpu => (gpu.gpuIndex, gpu.status)).Perm
      ((ModelService.gpusOf db node.id).map fun gpu => (gpu.gpuIndex, some gpu.status.text))

/-- All nodes are, in the order of the query. -/
def Complete (collate : String → String → Bool) (db : Database) (view : List NodeInfo) : Prop :=
  List.Forall₂ (Shows db) (nodeRows collate db) view

/-- Some of the node's GPUs are idle and some are not. -/
def Mixed (db : Database) (node : Node) : Prop :=
  (∃ gpu ∈ db.gpus.rows, gpu.nodeId = node.id ∧ gpu.status = .idle) ∧
    ∃ gpu ∈ db.gpus.rows, gpu.nodeId = node.id ∧ gpu.status ≠ .idle

section

variable {collate : String → String → Bool} {db : Database} {node : Node}

theorem mem_nodeRows : node ∈ nodeRows collate db ↔ node ∈ db.nodes.rows := List.mem_insertionSort _

theorem mem_idleRows {row : GpuDevice × Node} :
    row ∈ idleRows db ↔ row.1 ∈ db.gpus.rows ∧ db.nodes.get row.1.nodeId = some row.2 ∧
      row.2.status = .online ∧ row.1.status = .idle := by
  obtain ⟨gpu, node⟩ := row
  simp only [idleRows, List.mem_filter, List.mem_filterMap, Option.map_eq_some_iff, Prod.mk.injEq,
    Bool.and_eq_true, decide_eq_true_eq]
  constructor
  · rintro ⟨⟨_, inside, _, joined, rfl, rfl⟩, online, idle⟩
    exact ⟨inside, joined, online, idle⟩
  · rintro ⟨inside, joined, online, idle⟩
    exact ⟨⟨gpu, inside, node, joined, rfl, rfl⟩, online, idle⟩

/-- The idle GPUs that the second answer has for a node. -/
def idleOf (db : Database) (node : Node) : List GpuDevice :=
  if node.status = .online then (ModelService.gpusOf db node.id).filter fun gpu => gpu.status = .idle else []

theorem mem_idleOf {gpu : GpuDevice} :
    gpu ∈ idleOf db node ↔
      node.status = .online ∧ gpu ∈ db.gpus.rows ∧ gpu.nodeId = node.id ∧ gpu.status = .idle := by
  unfold idleOf
  split
  · rename_i online
    rw [List.mem_filter, ModelService.mem_gpusOf, decide_eq_true_eq, and_assoc, and_iff_right online]
  · rename_i away
    exact iff_of_false (List.not_mem_nil) fun shown => away shown.1

theorem gpus_nodup (db : Database) : db.gpus.rows.Nodup := db.gpus.unique.of_map

theorem idleOf_nodup (node : Node) : (idleOf db node).Nodup := by
  unfold idleOf
  split
  · apply List.Nodup.filter
    exact (List.perm_insertionSort _ _).nodup_iff.mpr ((gpus_nodup db).filter _)
  · exact List.nodup_nil

theorem idleRows_nodup : (idleRows db).Nodup := by
  apply List.Nodup.filter
  apply (gpus_nodup db).filterMap
  intro first second row one other
  obtain ⟨_, _, rfl⟩ := Option.map_eq_some_iff.mp one
  obtain ⟨_, _, same⟩ := Option.map_eq_some_iff.mp other
  exact (congrArg Prod.fst same).symm

/-- A resource carries the id and the address of its node, and both name only one. -/
theorem eq_of_belongs (schema : Constrained db) (stored : node ∈ db.nodes.rows) {row : GpuDevice × Node}
    (inside : row.2 ∈ db.nodes.rows)
    (own : belongs (serializeNode db node) (serializeGpu row.1 row.2) = true) : row.2 = node := by
  simp only [belongs, serializeGpu, serializeNode, Option.some.injEq, Bool.or_eq_true, decide_eq_true_eq] at own
  rcases own with id | ip
  · exact List.inj_on_of_nodup_map db.nodes.unique inside stored id
  · exact List.inj_on_of_nodup_map schema.ips inside stored ip

/-- The resources that are taken for a node are those of its own idle GPUs. -/
theorem resources_perm (schema : Constrained db) (stored : node ∈ db.nodes.rows) :
    ((listIdleGpus collate db).filter (belongs (serializeNode db node))).Perm
      ((idleOf db node).map fun gpu => serializeGpu gpu node) := by
  have rows : ((idleRows db).filter fun row => belongs (serializeNode db node) (serializeGpu row.1 row.2)).Perm
      ((idleOf db node).map fun gpu => (gpu, node)) := by
    apply (List.perm_ext_iff_of_nodup (idleRows_nodup.filter _) ((idleOf_nodup node).map ?_)).mpr
    · intro row
      rw [List.mem_filter, mem_idleRows, List.mem_map]
      constructor
      · rintro ⟨⟨inside, joined, online, idle⟩, own⟩
        have same := eq_of_belongs schema stored (db.nodes.mem_of_get joined) own
        rw [same] at joined online
        refine ⟨row.1, mem_idleOf.mpr ⟨online, inside, (db.nodes.key_of_get joined).symm, idle⟩, ?_⟩
        rw [← same]
      · rintro ⟨gpu, shown, rfl⟩
        obtain ⟨online, inside, home, idle⟩ := mem_idleOf.mp shown
        refine ⟨⟨inside, ?_, online, idle⟩, ?_⟩
        · rw [home]
          exact db.nodes.get_of_mem stored
        · simp [belongs, serializeGpu, serializeNode]
    · intro first second same
      exact congrArg Prod.fst same
  have sorted := List.perm_insertionSort (fun a b : GpuDevice × Node =>
    (if a.2.ip = b.2.ip then a.1.gpuIndex ≤ b.1.gpuIndex else collate a.2.ip b.2.ip)) (idleRows db)
  rw [listIdleGpus, List.filter_map]
  refine ((sorted.filter _).map _).trans ?_
  have taken := rows.map fun row => serializeGpu row.1 row.2
  rw [List.map_map] at taken
  exact taken

/-- What the merge shows for a node. -/
def gpusShown (gpuResources : List GpuInfo) (node : NodeInfo) : List GpuInfo :=
  if gpuResources.filter (belongs node) ≠ [] then gpuResources.filter (belongs node) else toArray node.gpus

theorem map_merge (nodes : List NodeInfo) (gpuResources : List GpuInfo) :
    (mergeNodesWithGpus nodes gpuResources).map (fun shown => (shown.id, toArray shown.gpus)) =
      nodes.map fun node => (node.id, gpusShown gpuResources node) := by
  unfold mergeNodesWithGpus
  split
  · rename_i none
    apply List.map_congr_left
    intro node _
    rw [gpusShown, none, List.filter_nil, if_neg fun some => some rfl]
  · rw [List.map_map]
    rfl

/-- The place and the status of a GPU. -/
def labelOf (gpu : GpuDevice) : Int × Option String := (gpu.gpuIndex, some gpu.status.text)

/-- The GPUs whose labels a node is shown with. -/
def chosen (db : Database) (node : Node) : List GpuDevice :=
  if idleOf db node ≠ [] then idleOf db node else ModelService.gpusOf db node.id

theorem gpusShown_labels (schema : Constrained db) (stored : node ∈ db.nodes.rows) :
    ((gpusShown (listIdleGpus collate db) (serializeNode db node)).map fun gpu => (gpu.gpuIndex, gpu.status)).Perm
      ((chosen db node).map labelOf) := by
  have taken : ((listIdleGpus collate db).filter (belongs (serializeNode db node))).Perm _ :=
    resources_perm schema stored
  unfold gpusShown chosen
  by_cases none : idleOf db node = []
  · rw [none, List.map_nil] at taken
    rw [taken.eq_nil, if_neg fun some => some rfl, if_neg fun some => some none]
    simp only [toArray, serializeNode, Option.getD_some, List.map_map]
    exact List.Perm.refl _
  · have some : (listIdleGpus collate db).filter (belongs (serializeNode db node)) ≠ [] := by
      intro empty
      rw [empty] at taken
      exact none (List.map_eq_nil_iff.mp taken.symm.eq_nil)
    rw [if_pos some, if_pos none]
    have labels := taken.map fun gpu => (gpu.gpuIndex, gpu.status)
    rw [List.map_map] at labels
    exact labels

theorem mixed_iff : Mixed db node ↔ (∃ gpu ∈ ModelService.gpusOf db node.id, gpu.status = .idle) ∧
    ∃ gpu ∈ ModelService.gpusOf db node.id, gpu.status ≠ .idle := by
  simp only [Mixed, ModelService.mem_gpusOf, and_assoc]

/-- The labels are those of all GPUs unless an online node has both kinds. -/
theorem chosen_labels_iff : ((chosen db node).map labelOf).Perm ((ModelService.gpusOf db node.id).map labelOf) ↔
    (node.status = .online → ¬ Mixed db node) := by
  rw [mixed_iff, chosen]
  by_cases none : idleOf db node = []
  · rw [if_neg fun some => some none]
    refine iff_of_true (List.Perm.refl _) ?_
    rintro online ⟨⟨gpu, inside, idle⟩, _⟩
    obtain ⟨stored, home⟩ := ModelService.mem_gpusOf.mp inside
    have shown := mem_idleOf.mpr ⟨online, stored, home, idle⟩
    rw [none] at shown
    cases shown
  · rw [if_pos none]
    obtain ⟨gpu, shown⟩ := List.exists_mem_of_ne_nil _ none
    obtain ⟨online, stored, home, idle⟩ := mem_idleOf.mp shown
    have some := ModelService.mem_gpusOf.mpr ⟨stored, home⟩
    rw [idleOf, if_pos online]
    constructor
    · rintro perm _ ⟨_, other, inside, busy⟩
      have length := perm.length_eq
      rw [List.length_map, List.length_map, List.length_filter_eq_length_iff] at length
      exact busy (of_decide_eq_true (length other inside))
    · intro uniform
      rw [List.filter_eq_self.mpr]
      intro other inside
      by_contra busy
      exact uniform online ⟨⟨gpu, some, idle⟩, other, inside, fun idle => busy (decide_eq_true idle)⟩

/-! ## The number of idle GPUs -/

/-- Counting by the keys of a list counts each member once. -/
theorem sum_countP {α κ : Type} [DecidableEq κ] {key : α → κ} {keys : List κ} (distinct : keys.Nodup) {l : List α}
    (covered : ∀ x ∈ l, key x ∈ keys) : (keys.map fun k => l.countP fun x => key x = k).sum = l.length := by
  induction keys generalizing l with
  | nil =>
      cases l with
      | nil => rfl
      | cons x rest => exact absurd (covered x List.mem_cons_self) List.not_mem_nil
  | cons k rest ih =>
      obtain ⟨new, distinct⟩ := List.nodup_cons.mp distinct
      have others : rest.map (fun k' => l.countP fun x => key x = k') =
          rest.map fun k' => (l.filter fun x => key x ≠ k).countP fun x => key x = k' := by
        apply List.map_congr_left
        intro k' inside
        rw [List.countP_filter]
        apply List.countP_congr
        intro x _
        simp only [decide_eq_true_eq, Bool.and_eq_true]
        exact ⟨fun here => ⟨here, fun same => new (same ▸ here ▸ inside)⟩, And.left⟩
      have left : ∀ x ∈ l.filter (fun x => key x ≠ k), key x ∈ rest := by
        intro x inside
        obtain ⟨member, apart⟩ := List.mem_filter.mp inside
        exact (List.mem_cons.mp (covered x member)).resolve_left (of_decide_eq_true apart)
      rw [List.map_cons, List.sum_cons, others, ih distinct left, ← List.countP_eq_length_filter,
        List.length_eq_countP_add_countP (fun x => decide (key x = k)) (l := l)]
      simp

theorem isIdle_text (status : GpuStatus) :
    ["idle", "free", "available"].contains ((truthyText (some status.text)).getD "idle") =
      decide (status = .idle) := by
  cases status <;> decide

theorem countP_chosen : (chosen db node).countP (fun gpu => gpu.status = .idle) =
    (ModelService.gpusOf db node.id).countP fun gpu => gpu.status = .idle := by
  unfold chosen idleOf
  split
  · split
    · rw [List.countP_filter]
      simp only [Bool.and_self]
    · rfl
  · rfl

/-- A node is shown with as many idle GPUs as it has. -/
theorem idle_shown (schema : Constrained db) (stored : node ∈ db.nodes.rows) :
    ((gpusShown (listIdleGpus collate db) (serializeNode db node)).filter isIdle).length =
      (db.gpus.rows.filter fun gpu => gpu.status = .idle).countP fun gpu => gpu.nodeId = node.id := by
  have labels : ((gpusShown (listIdleGpus collate db) (serializeNode db node)).map _).Perm _ :=
    gpusShown_labels schema stored
  have count := labels.countP_eq fun label =>
    ["idle", "free", "available"].contains ((truthyText label.2).getD "idle")
  rw [List.countP_map, List.countP_map] at count
  have idle : ((fun label : Int × Option String =>
      ["idle", "free", "available"].contains ((truthyText label.2).getD "idle")) ∘ labelOf) =
        fun gpu => decide (gpu.status = .idle) := funext fun gpu => isIdle_text gpu.status
  have own := (List.perm_insertionSort (fun a b : GpuDevice => a.gpuIndex ≤ b.gpuIndex)
    (db.gpus.rows.filter fun gpu => gpu.nodeId = node.id)).countP_eq fun gpu => decide (gpu.status = .idle)
  rw [idle, countP_chosen, ModelService.gpusOf, own, List.countP_filter] at count
  rw [← List.countP_eq_length_filter, List.countP_filter]
  refine (show _ = _ from count).trans (List.countP_congr fun gpu _ => ?_)
  rw [Bool.and_comm]

theorem idleGpus_eq (schema : Constrained db) :
    idleGpus (refresh (some (listNodes collate db)) (some (listIdleGpus collate db))) =
      (db.gpus.rows.filter fun gpu => gpu.status = .idle).length := by
  have shown := congrArg (List.map fun node : NodeId × List GpuInfo => (node.2.filter isIdle).length)
    (map_merge (listNodes collate db) (listIdleGpus collate db))
  rw [listNodes, List.map_map, List.map_map, List.map_map] at shown
  have each : (nodeRows collate db).map (fun node =>
      ((gpusShown (listIdleGpus collate db) (serializeNode db node)).filter isIdle).length) =
        ((nodeRows collate db).map (·.id)).map fun id =>
          (db.gpus.rows.filter fun gpu => gpu.status = .idle).countP fun gpu => gpu.nodeId = id := by
    rw [List.map_map]
    exact List.map_congr_left fun node inside => idle_shown schema (mem_nodeRows.mp inside)
  have distinct : ((nodeRows collate db).map (·.id)).Nodup :=
    ((List.perm_insertionSort _ _).map _).nodup_iff.mpr db.nodes.unique
  have covered : ∀ gpu ∈ db.gpus.rows.filter (fun gpu => gpu.status = .idle),
      gpu.nodeId ∈ (nodeRows collate db).map (·.id) := by
    intro gpu inside
    obtain ⟨node, found⟩ := Option.isSome_iff_exists.mp (schema.referenced gpu (List.mem_filter.mp inside).1)
    exact List.mem_map.mpr ⟨node, mem_nodeRows.mpr (db.nodes.mem_of_get found), db.nodes.key_of_get found⟩
  rw [← sum_countP distinct covered, ← each]
  exact congrArg List.sum shown

theorem complete_iff (schema : Constrained db) :
    Complete collate db (refresh (some (listNodes collate db)) (some (listIdleGpus collate db))) ↔
      ∀ node ∈ db.nodes.rows, node.status = .online → ¬ Mixed db node := by
  have pairs : Complete collate db (refresh (some (listNodes collate db)) (some (listIdleGpus collate db))) ↔
      List.Forall₂ (fun node (shown : NodeId × List GpuInfo) => shown.1 = node.id ∧
        (shown.2.map fun gpu => (gpu.gpuIndex, gpu.status)).Perm ((ModelService.gpusOf db node.id).map labelOf))
        (nodeRows collate db) ((nodeRows collate db).map fun node =>
          (node.id, gpusShown (listIdleGpus collate db) (serializeNode db node))) := by
    have shown : (refresh (some (listNodes collate db)) (some (listIdleGpus collate db))).map
        (fun shown => (shown.id, toArray shown.gpus)) = (nodeRows collate db).map fun node =>
          (node.id, gpusShown (listIdleGpus collate db) (serializeNode db node)) := by
      rw [refresh, toArray, toArray, Option.getD_some, Option.getD_some, map_merge, listNodes, List.map_map]
      rfl
    rw [← shown, List.forall₂_map_right_iff]
    rfl
  rw [pairs, List.forall₂_map_right_iff, List.forall₂_same]
  constructor
  · intro complete node stored
    have shows := (complete node (mem_nodeRows.mpr stored)).2
    exact chosen_labels_iff.mp ((gpusShown_labels schema stored).symm.trans shows)
  · intro plain node inside
    have stored := mem_nodeRows.mp inside
    exact ⟨rfl, (gpusShown_labels schema stored).trans (chosen_labels_iff.mpr (plain node stored))⟩

/-- The merged view shows every GPU of every node exactly when no online node has GPUs
    that are idle beside GPUs that are not.  The number of idle GPUs is right in any case. -/
theorem view_iff (collate : String → String → Bool) {db : Database} (schema : Constrained db) :
    (Complete collate db (refresh (some (listNodes collate db)) (some (listIdleGpus collate db))) ↔
      ∀ node ∈ db.nodes.rows, node.status = .online → ¬ Mixed db node) ∧
    idleGpus (refresh (some (listNodes collate db)) (some (listIdleGpus collate db))) =
      (db.gpus.rows.filter fun gpu => gpu.status = .idle).length :=
  ⟨complete_iff schema, idleGpus_eq schema⟩

end

namespace Sample

def node : Node := { id := "n", ip := "10.0.0.1", status := .online }

def gpu (index : Int) (status : GpuStatus) : GpuDevice :=
  { id := s!"g{index}", nodeId := "n", gpuIndex := index, status }

/-- One GPU of the node is idle, the other one is in use. -/
def mixed : Database where
  nodes := .singleton node
  gpus := ⟨[gpu 0 .idle, gpu 1 .allocated], by decide⟩

/-- Both are idle. -/
def plain : Database where
  nodes := .singleton node
  gpus := ⟨[gpu 0 .idle, gpu 1 .idle], by decide⟩

def collate (a b : String) : Bool := a ≤ b

theorem plain_constrained : Constrained plain where
  ips := by decide
  referenced := by decide

theorem mixed_constrained : Constrained mixed where
  ips := by decide
  referenced := by decide

theorem plain_complete :
    Complete collate plain (refresh (some (listNodes collate plain)) (some (listIdleGpus collate plain))) := by
  apply (view_iff collate plain_constrained).1.mpr
  rintro node _ _ ⟨_, gpu, inside, _, busy⟩
  have idle : ∀ gpu ∈ plain.gpus.rows, gpu.status = .idle := by decide
  exact busy (idle gpu inside)

/-- The GPU in use is not shown. -/
theorem mixed_incomplete : ¬ ∀ (collate : String → String → Bool) (db : Database), Constrained db →
    Complete collate db (refresh (some (listNodes collate db)) (some (listIdleGpus collate db))) ∧
      idleGpus (refresh (some (listNodes collate db)) (some (listIdleGpus collate db))) =
        (db.gpus.rows.filter fun gpu => gpu.status = .idle).length := by
  intro always
  have plain := (complete_iff mixed_constrained).mp (always collate mixed mixed_constrained).1
  have both : Mixed mixed node :=
    ⟨⟨gpu 0 .idle, by decide, by decide, rfl⟩, gpu 1 .allocated, by decide, by decide, by decide⟩
  exact plain node (by decide) rfl both

end Sample

end NodesStore

end SuitApi
