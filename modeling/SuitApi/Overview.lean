import SuitApi.Capacity
import SuitApi.GpuHistory
import SuitApi.Library.Decimal
import SuitApi.NodesStore
import SuitApi.OfflineSweep

/-! # The overview of the nodes

The dashboard's rows mix columns that heartbeats write, columns that the monitor resets, and
a count over GPU rows that four services write.  They fit together in every state that the
system reaches.
-/

namespace SuitApi.Overview

open NodeService
open ModelService (gpusOf mem_gpusOf)
open GpuHistory (State Op exec Unmeasured accepted)

/-! ## The rows -/

structure NodeOverview where
  nodeId : NodeId
  hostname : Option String
  ip : String
  status : NodeStatus
  gpuCount : Nat
  gpuUsed : Nat
  cpuPercent : ℚ
  memoryPercent : ℚ
  lastHeartbeat : Option Time
  deriving DecidableEq

def used (gpu : GpuDevice) : Bool := gpu.status ≠ .idle || 0 < gpu.utilization || 0 < gpu.memoryUsedMb

def gpuUsed (db : Database) (node : NodeId) : Nat := ((gpusOf db node).filter used).length

/-- `round(x, 2)`: the exact value of the float to the nearest hundredth, ties to even. -/
def round2 (x : ℚ) : ℚ := Decimal.roundHalfEven (x * 100) / 100

theorem round2_zero : round2 0 = 0 := by
  have zero := Decimal.roundHalfEven_intCast 0
  rw [Int.cast_zero] at zero
  rw [round2, zero_mul, zero, Int.cast_zero, zero_div]

def overviewOf (db : Database) (node : Node) : NodeOverview where
  nodeId := node.id
  hostname := node.hostname
  ip := node.ip
  status := node.status
  gpuCount := if node.gpuCount = 0 then (gpusOf db node.id).length else node.gpuCount
  gpuUsed := gpuUsed db node.id
  cpuPercent := round2 node.cpuPercent
  memoryPercent := round2 node.memoryPercent
  lastHeartbeat := node.lastHeartbeat

/-- `get_nodes_overview`; `collate` is the order of the database on texts. -/
def nodesOverview (collate : String → String → Bool) (db : Database) : List NodeOverview :=
  (NodesStore.nodeRows collate db).map (overviewOf db)

/-- What a row of the overview says is so. -/
structure Truthful (s : State) (row : NodeOverview) : Prop where
  within : row.gpuUsed ≤ row.gpuCount
  offline : row.status = .offline → row.gpuUsed = 0 ∧ row.cpuPercent = 0 ∧ row.memoryPercent = 0
  online : row.status = .online → ∃ payload, s.beats.lookup row.nodeId = some payload ∧
    row.hostname = some payload.hostname ∧ row.gpuCount = payload.gpus.length ∧
    row.cpuPercent = round2 payload.cpuPercent ∧ row.memoryPercent = round2 payload.memoryPercent

/-! ## The invariant -/

/-- The columns of the node are those of the payload. -/
structure Reported (payload : HeartbeatPayload) (node : Node) : Prop where
  hostname : node.hostname = some payload.hostname
  gpuCount : node.gpuCount = payload.gpus.length
  cpu : node.cpuPercent = payload.cpuPercent
  memory : node.memoryPercent = payload.memoryPercent

structure Shown (beats : List (NodeId × HeartbeatPayload)) (db : Database) : Prop where
  online : ∀ node, db.nodes.get node.id = some node → node.status = .online →
    ∃ payload, beats.lookup node.id = some payload ∧ Reported payload node
  offline : ∀ node, db.nodes.get node.id = some node → node.status = .offline →
    node.cpuPercent = 0 ∧ node.memoryPercent = 0 ∧
      ∀ index gpu, db.gpus.get (node.id, index) = some gpu → used gpu = false
  counted : ∀ node, db.nodes.get node.id = some node → (gpusOf db node.id).length ≤ node.gpuCount

theorem indices_nodup (db : Database) (node : NodeId) : ((gpusOf db node).map (·.gpuIndex)).Nodup := by
  have rows : (gpusOf db node).Nodup :=
    (List.perm_insertionSort _ _).nodup_iff.mpr ((List.Nodup.of_map _ db.gpus.unique).filter _)
  apply List.Nodup.map_on _ rows
  intro gpu inside other inside' same
  obtain ⟨member, here⟩ := mem_gpusOf.mp inside
  obtain ⟨member', here'⟩ := mem_gpusOf.mp inside'
  exact List.inj_on_of_nodup_map db.gpus.unique member member' (Prod.ext (here.trans here'.symm) same)

theorem mem_indices {db : Database} {node : NodeId} {index : Int} :
    index ∈ (gpusOf db node).map (·.gpuIndex) ↔ (db.gpus.get (node, index)).isSome = true := by
  constructor
  · intro inside
    obtain ⟨gpu, member, rfl⟩ := List.mem_map.mp inside
    obtain ⟨stored, rfl⟩ := mem_gpusOf.mp member
    rw [Option.isSome_iff_exists]
    exact ⟨gpu, Table.get_of_mem stored⟩
  · intro present
    obtain ⟨gpu, found⟩ := Option.isSome_iff_exists.mp present
    have here : gpu.nodeId = node := congrArg Prod.fst (Table.key_of_get found)
    have there : gpu.gpuIndex = index := congrArg Prod.snd (Table.key_of_get found)
    exact List.mem_map.mpr ⟨gpu, mem_gpusOf.mpr ⟨Table.mem_of_get found, here⟩, there⟩

/-- A node has no more rows than there are indices that may have one. -/
theorem length_gpusOf_le {db : Database} {node : NodeId} {indices : List Int}
    (covered : ∀ index, (db.gpus.get (node, index)).isSome = true → index ∈ indices) :
    (gpusOf db node).length ≤ indices.length := by
  have inside : (gpusOf db node).map (·.gpuIndex) ⊆ indices :=
    fun index member => covered index (mem_indices.mp member)
  have fewer := (List.subperm_of_subset (indices_nodup db node) inside).length_le
  rwa [List.length_map] at fewer

theorem length_gpusOf_mono {db db' : Database} {node : NodeId}
    (kept : ∀ index, (db'.gpus.get (node, index)).isSome = true → (db.gpus.get (node, index)).isSome = true) :
    (gpusOf db' node).length ≤ (gpusOf db node).length := by
  have covered := @length_gpusOf_le db' node ((gpusOf db node).map (·.gpuIndex))
    fun index present => mem_indices.mpr (kept index present)
  rwa [List.length_map] at covered

/-! ## Steps that measure nothing -/

section

variable {beats : List (NodeId × HeartbeatPayload)} {db db' : Database}

/-- A GPU of an offline node that was idle stays idle. -/
def Resting (db db' : Database) : Prop :=
  ∀ node, db.nodes.get node.id = some node → node.status = .offline → ∀ index gpu gpu',
    db.gpus.get (node.id, index) = some gpu → db'.gpus.get (node.id, index) = some gpu' →
      gpu.status = .idle → gpu'.status = .idle

theorem resting_of_eq (gpus : db'.gpus = db.gpus) : Resting db db' := by
  intro node _ _ index gpu gpu' found found' idle
  rw [gpus, found] at found'
  cases found'
  exact idle

/-- Setting statuses disturbs no offline node if it sets them to idle, or elsewhere. -/
theorem resting_of_status {status : GpuStatus} (S : NodeId → Int → Prop) [∀ node index, Decidable (S node index)]
    (gpus : ∀ node index, db'.gpus.get (node, index) =
      (db.gpus.get (node, index)).map fun gpu => if S node index then gpu.withStatus status else gpu)
    (harmless : status = .idle ∨ ∀ node, db.nodes.get node.id = some node → node.status = .offline →
      ∀ index, ¬ S node.id index) : Resting db db' := by
  intro node stored offline index gpu gpu' found found' idle
  rw [gpus, found, Option.map_some, Option.some.injEq] at found'
  rw [← found']
  split
  · rename_i hit
    rcases harmless with rest | elsewhere
    · exact rest
    · exact absurd hit (elsewhere node stored offline index)
  · exact idle

theorem used_eq_false {gpu : GpuDevice} :
    used gpu = false ↔ gpu.status = .idle ∧ gpu.utilization ≤ 0 ∧ gpu.memoryUsedMb ≤ 0 := by
  simp [used, and_assoc]

theorem Shown.unmeasured (h : Shown beats db) (quiet : Unmeasured db db') (resting : Resting db db') :
    Shown beats db' := by
  have present : ∀ node index, (db'.gpus.get (node, index)).isSome = (db.gpus.get (node, index)).isSome := by
    intro node index
    have same := congrArg Option.isSome (quiet.gpus node index)
    rwa [Option.isSome_map, Option.isSome_map] at same
  constructor
  case online =>
    rw [quiet.nodes]
    exact h.online
  case offline =>
    intro node stored offline
    rw [quiet.nodes] at stored
    obtain ⟨cpu, memory, unused⟩ := h.offline node stored offline
    refine ⟨cpu, memory, ?_⟩
    intro index gpu' found'
    have reading := quiet.gpus node.id index
    rw [found', Option.map_some] at reading
    obtain ⟨gpu, found, same⟩ := Option.map_eq_some_iff.mp reading.symm
    obtain ⟨idle, utilization, memoryUsed⟩ := used_eq_false.mp (unused index gpu found)
    simp only [GpuHistory.reading, GpuHistory.Reading.mk.injEq] at same
    apply used_eq_false.mpr
    refine ⟨resting node stored offline index gpu gpu' found found' idle, ?_, ?_⟩ <;> omega
  case counted =>
    intro node stored
    rw [quiet.nodes] at stored
    have fewer : (gpusOf db' node.id).length ≤ (gpusOf db node.id).length := by
      apply length_gpusOf_mono
      intro index here
      rw [← present]
      exact here
    exact fewer.trans (h.counted node stored)

end

theorem schedule_resting (env : Scheduler.Env) (w : World) : Resting w.db (Platform.schedule env w).db := by
  cases Scheduler.scheduleOne_effect env w.toStore with
  | quiet taskLogs launched wrote =>
      apply resting_of_eq
      rw [Platform.schedule, wrote]
  | launch task a found queued selected launched wrote =>
      have marked : Resting w.db (GpuAllocator.mark w.db a .allocated) := by
        apply resting_of_status (fun node index => node = a.nodeId ∧ index ∈ a.gpuIndices)
          (GpuAllocator.mark_get w.db a .allocated)
        right
        intro node stored offline index hit
        -- the scheduler looks at online nodes only
        obtain ⟨candidate, listed, id⟩ := selected.node
        rw [Scheduler.getOnlineNodes, List.mem_insertionSort, List.mem_filter] at listed
        have here := Table.get_of_mem listed.1
        rw [id, ← hit.1, stored] at here
        cases here
        rw [offline] at listed
        simp at listed
      intro node stored offline index gpu gpu' before after idle
      rw [Platform.schedule, wrote, Scheduler.settle_gpus env task _ selected] at after
      split at after
      · exact marked node stored offline index gpu gpu' before after idle
      · cases before.symm.trans after
        exact idle

theorem finishTask_resting (db : Database) (t : TaskId) : Resting db (Scheduler.finishTask db t) := by
  have gpus := Scheduler.finishTask_gpus db t
  cases found : db.tasks.get t with
  | none =>
      apply resting_of_eq
      rw [gpus, GpuAllocator.releaseByTask_unknown found]
  | some task =>
      apply resting_of_status task.Lists _ (.inl rfl)
      intro node index
      rw [gpus]
      exact GpuAllocator.releaseByTask_get found node index

theorem exec_resting (op : Platform.Op) (w : World) (beat : ∀ env payload, op ≠ .heartbeat env payload)
    (sweep : ∀ sweep, op ≠ .markOffline sweep) : Resting w.db (Platform.exec op w).db := by
  cases op with
  | heartbeat env payload => exact absurd rfl (beat env payload)
  | markOffline s => exact absurd rfl (sweep s)
  | schedule env => exact schedule_resting env w
  | finished t =>
      simp only [Platform.exec]
      split
      · exact resting_of_eq rfl
      · exact finishTask_resting w.db t
  | _ => exact resting_of_eq (Platform.exec_gpus _ w rfl)

/-- Deployments take GPUs of nodes that are in service. -/
theorem shown_preserved (beats : List (NodeId × HeartbeatPayload)) : ModelService.Preserved (Shown beats) where
  mark _ _ _ h := h.unmeasured (.of_eq rfl rfl) (resting_of_eq rfl)
  store lower model a id containerId db db' h granted stored := by
    obtain ⟨modelInstances, _, rfl⟩ := Option.map_eq_some_iff.mp stored
    refine h.unmeasured ((GpuHistory.setGpus_unmeasured _ _ _ db).trans (.of_eq rfl rfl)) ?_
    apply resting_of_status (fun node index => node = a.nodeId ∧ index ∈ a.gpuIndices)
      (ModelService.setGpus_get .allocated a.nodeId a.gpuIndices db)
    right
    intro node found offline index hit
    obtain ⟨candidate, listed, id⟩ := List.mem_map.mp (Capacity.allocateForModel_taken granted).1
    rw [ModelService.deploymentNodes, List.mem_insertionSort, List.mem_filter] at listed
    have here := Table.get_of_mem listed.1
    rw [id, ← hit.1, found] at here
    cases here
    simp [offline] at listed
  run _ _ _ h := h.unmeasured (.of_eq rfl rfl) (resting_of_eq rfl)
  release id db h := by
    unfold ModelService.releaseInstance
    split
    · exact h
    · rename_i row found
      refine h.unmeasured ((GpuHistory.setGpus_unmeasured _ _ _ db).trans (.of_eq rfl rfl)) ?_
      exact resting_of_status (fun node index => node = row.nodeId ∧ index ∈ row.assignedGpuIndices.getD [])
        (ModelService.setGpus_get .idle row.nodeId (row.assignedGpuIndices.getD []) db) (.inl rfl)

/-! ## Sweeps and heartbeats -/

theorem sweep_shown {beats : List (NodeId × HeartbeatPayload)} {db : Database} (h : Shown beats db)
    (sweep : MonitorService.Sweep) : Shown beats (MonitorService.markOfflineNodes sweep db).1 := by
  have before : ∀ node, (MonitorService.markOfflineNodes sweep db).1.nodes.get node.id = some node →
      ∃ old, db.nodes.get node.id = some old ∧
        node = if MonitorService.timedOut sweep old then MonitorService.offlineNode old else old := by
    intro node found
    rw [OfflineSweep.markOfflineNodes_eq, Table.get_updateWhere] at found
    obtain ⟨old, here, same⟩ := Option.map_eq_some_iff.mp found
    exact ⟨old, here, same.symm⟩
  have kept : ∀ node index, ((MonitorService.markOfflineNodes sweep db).1.gpus.get (node, index)).isSome = true →
      (db.gpus.get (node, index)).isSome = true := by
    intro node index present
    rwa [MonitorService.markOfflineNodes_gpus, Option.isSome_map] at present
  constructor
  case online =>
    intro node found online
    obtain ⟨old, here, rfl⟩ := before node found
    split at online
    · cases online
    · rename_i timely
      rw [if_neg timely] at here ⊢
      exact h.online old here online
  case offline =>
    intro node found offline
    obtain ⟨old, here, same⟩ := before node found
    by_cases out : MonitorService.timedOut sweep old = true
    · rw [if_pos out] at same
      have id : old.id = node.id := Table.key_of_get here
      have lost : node.id ∈ MonitorService.lostNodes sweep db := by
        rw [← id]
        exact List.mem_map_of_mem (List.mem_filter.mpr ⟨Table.mem_of_get here, out⟩)
      rw [same]
      refine ⟨rfl, rfl, ?_⟩
      intro index gpu stored
      rw [show (MonitorService.offlineNode old).id = node.id from id,
        MonitorService.markOfflineNodes_gpus] at stored
      obtain ⟨previous, _, rfl⟩ := Option.map_eq_some_iff.mp stored
      rw [if_pos lost]
      rfl
    · rw [if_neg out] at same
      subst same
      obtain ⟨cpu, memory, unused⟩ := h.offline node here offline
      refine ⟨cpu, memory, ?_⟩
      intro index gpu stored
      rw [MonitorService.markOfflineNodes_gpus] at stored
      obtain ⟨previous, found', rfl⟩ := Option.map_eq_some_iff.mp stored
      split
      · rfl
      · exact unused index previous found'
  case counted =>
    intro node found
    obtain ⟨old, here, same⟩ := before node found
    have id : old.id = node.id := Table.key_of_get here
    have count : node.gpuCount = old.gpuCount := by
      rw [same]
      split <;> rfl
    rw [← id] at here
    rw [← id, count]
    exact (length_gpusOf_mono (kept old.id)).trans (h.counted old here)

theorem heartbeat_shown {beats : List (NodeId × HeartbeatPayload)} {env : Env} {payload : HeartbeatPayload}
    {db db' : Database} {node : Node} {nodes : Table Node.id} (h : Shown beats db)
    (located : findNode env payload.ip db = some (node, nodes))
    (handled : handleHeartbeat env payload db = some db') : Shown ((node.id, payload) :: beats) db' := by
  obtain ⟨node', nodes', spec⟩ := handleHeartbeat_spec handled
  obtain ⟨rfl, rfl⟩ := Prod.mk.inj (Option.some.inj (located.symm.trans spec.located))
  have stored : ∀ id, db'.nodes.get id =
      if id = node.id then some (refreshed env payload node) else db.nodes.get id := by
    intro id
    rw [spec.nodes]
    exact Mirror.refreshed_get located id
  have own : ∀ index, (db'.gpus.get (node.id, index)).isSome = true → index ∈ payload.gpus.map (·.index) := by
    intro index present
    have status := congrArg Option.isSome (spec.status index)
    rw [Option.isSome_map, Option.isSome_map, present] at status
    exact lastReport_isSome.mp status.symm
  constructor
  case online =>
    intro other found online
    rw [stored] at found
    split at found
    · rename_i same
      cases found
      exact ⟨payload, by rw [refreshed_id, List.lookup_cons_self], rfl, rfl, rfl, rfl⟩
    · rename_i apart
      obtain ⟨last, told, reported⟩ := h.online other found online
      exact ⟨last, by rw [List.lookup_cons, beq_false_of_ne apart]; exact told, reported⟩
  case offline =>
    intro other found offline
    rw [stored] at found
    split at found
    · cases found
      cases offline
    · rename_i apart
      obtain ⟨cpu, memory, unused⟩ := h.offline other found offline
      refine ⟨cpu, memory, ?_⟩
      intro index gpu here
      rw [spec.others other.id index apart] at here
      exact unused index gpu here
  case counted =>
    intro other found
    rw [stored] at found
    split at found
    · cases found
      have fewer := length_gpusOf_le own
      rwa [List.length_map] at fewer
    · rename_i apart
      have fewer : (gpusOf db' other.id).length ≤ (gpusOf db other.id).length := by
        apply length_gpusOf_mono
        intro index here
        rwa [spec.others other.id index apart] at here
      exact fewer.trans (h.counted other found)

theorem delete_shown {beats : List (NodeId × HeartbeatPayload)} (user : User) (t : TaskId) {w : World}
    (h : Shown beats w.db) : Shown beats (SharedCluster.exec (.delete user t) w).db := by
  apply h.unmeasured (GpuHistory.delete_unmeasured user t w)
  simp only [SharedCluster.exec]
  split
  · rename_i deleted
    exact resting_of_eq (TaskService.deleteTask_frame deleted).1
  · exact resting_of_eq rfl

theorem platform_shown {beats : List (NodeId × HeartbeatPayload)} (op : Platform.Op) {w : World}
    (h : Shown beats w.db) : Shown (accepted (.platform op) w.db ++ beats) (Platform.exec op w).db := by
  cases op with
  | markOffline sweep => exact sweep_shown h sweep
  | heartbeat env payload =>
      simp only [Platform.exec, accepted]
      cases handled : handleHeartbeat env payload w.db with
      | none => exact h
      | some db' =>
          obtain ⟨node, nodes, spec⟩ := handleHeartbeat_spec handled
          simp only [spec.located, Option.isSome_some, if_true, Option.map_some, Option.toList_some]
          exact heartbeat_shown h spec.located handled
  | _ =>
      exact h.unmeasured (GpuHistory.exec_unmeasured _ w (by simp) (by simp)) (exec_resting _ w (by simp) (by simp))

theorem shown_step (retentionDays : Int) (s : State) (op : Op) (h : Shown s.beats s.db) :
    Shown (exec retentionDays op s).beats (exec retentionDays op s).db := by
  cases op with
  | collect now => exact h
  | cluster op =>
      cases op with
      | platform op => exact platform_shown op h
      | delete user t => exact delete_shown user t h
      | models op =>
          apply SharedCluster.models_preserved (shown_preserved s.beats) _ op h
          exact fun db models before => before.unmeasured (.of_eq rfl rfl) (resting_of_eq rfl)

/-! ## What the dashboard shows -/

theorem Shown.truthful {collate : String → String → Bool} {s : State} (h : Shown s.beats s.db) {row : NodeOverview}
    (listed : row ∈ nodesOverview collate s.db) : Truthful s row := by
  obtain ⟨node, inside, rfl⟩ := List.mem_map.mp listed
  rw [NodesStore.nodeRows, List.mem_insertionSort] at inside
  have stored : s.db.nodes.get node.id = some node := Table.get_of_mem inside
  have rows := h.counted node stored
  have count : (overviewOf s.db node).gpuCount = node.gpuCount := by
    simp only [overviewOf]
    split <;> omega
  constructor
  case within =>
    rw [count]
    exact (List.length_filter_le _ _).trans rows
  case offline =>
    intro offline
    obtain ⟨cpu, memory, unused⟩ := h.offline node stored offline
    refine ⟨?_, (congrArg round2 cpu).trans round2_zero, (congrArg round2 memory).trans round2_zero⟩
    apply List.length_eq_zero_iff.mpr
    apply List.filter_eq_nil_iff.mpr
    intro gpu member
    obtain ⟨row, here⟩ := ModelService.mem_gpusOf.mp member
    have found : s.db.gpus.get (node.id, gpu.gpuIndex) = some gpu := by
      rw [← here]
      exact Table.get_of_mem row
    simp [unused gpu.gpuIndex gpu found]
  case online =>
    intro online
    obtain ⟨payload, last, reported⟩ := h.online node stored online
    exact ⟨payload, last, reported.hostname, count.trans reported.gpuCount, congrArg round2 reported.cpu,
      congrArg round2 reported.memory⟩

/-- In every state of the system each row of the overview counts no more used GPUs than the
    node has, shows an offline node without load, and an online one as it reported last. -/
theorem overview_truthful (collate : String → String → Bool) (retentionDays : Int) (ops : List Op) :
    ∀ row ∈ nodesOverview collate (Runs.run (exec retentionDays) ops {}).db,
      Truthful (Runs.run (exec retentionDays) ops {}) row := by
  intro row listed
  refine Shown.truthful ?_ listed
  apply Runs.run_invariant (I := fun s : State => Shown s.beats s.db) (fun s op => shown_step retentionDays s op) ops
  have none : ∀ node : Node, ({} : State).db.nodes.get node.id ≠ some node := by
    intro node found
    cases found
  exact ⟨fun node found => absurd found (none node), fun node found => absurd found (none node),
    fun node found => absurd found (none node)⟩

def sampleBeat (ip : String) (utilizationGpu : Int) (cpuPercent : ℚ) : Op :=
  .cluster (.platform (.heartbeat { nodeId := ip, now := 0 } {
    hostname := ip
    ip
    gpus := [{ index := 0, model := "A100", utilizationGpu }]
    cpuPercent }))

def sampleEnv : ModelService.Env where
  replica := fun _ => { instanceId := "i", started := some "c", response := .accepted (some "c") }

-- the second node stays silent until it is taken out of service, and the first one serves a model
def sampleRun : List Op :=
  [sampleBeat "10.0.0.2" 10 50, sampleBeat "10.0.0.1" 10 50,
    .cluster (.platform (.markOffline { timeoutSeconds := 0, checkedAt := 1, failedAt := 1 })),
    sampleBeat "10.0.0.1" 0 (100 / 3), .cluster (.models (.create "m" Catalogue.Sample.payload)),
    .cluster (.models (.deploy sampleEnv "m"))]

def sampleRow (ip : String) (status : NodeStatus) (gpuUsed : Nat) (cpuPercent : ℚ) : NodeOverview where
  nodeId := ip
  hostname := some ip
  ip
  status
  gpuCount := 1
  gpuUsed
  cpuPercent
  memoryPercent := 0
  lastHeartbeat := some 0

theorem sample_listed : nodesOverview (fun a b => decide (a ≤ b)) (Runs.run (exec 1) sampleRun {}).db =
    [sampleRow "10.0.0.1" .online 1 (3333 / 100), sampleRow "10.0.0.2" .offline 0 0] := by decide +kernel

theorem sample_overview : Truthful (Runs.run (exec 1) sampleRun {}) (sampleRow "10.0.0.1" .online 1 (3333 / 100)) := by
  apply overview_truthful (fun a b => decide (a ≤ b)) 1 sampleRun
  rw [sample_listed]
  exact List.mem_cons_self

end SuitApi.Overview
