import SuitApi.NodeService

/-! # The store as a mirror of the heartbeats

After a heartbeat the rows of the reporting node are what the payload says, and the
rows of every other node are what they were.  Sending the payload again changes
nothing but the time of the last heartbeat.
-/

namespace SuitApi.Mirror

open NodeService

/-! ## What the payload says -/

/-- Some container that counts as active uses the GPU. -/
def InUse (payload : HeartbeatPayload) (index : Int) : Prop :=
  ∃ item ∈ payload.runningContainers,
    (item.status = .created ∨ item.status = .restarting ∨ item.status = .running) ∧ index ∈ item.gpuIndices

/-- The GPU works for somebody, whoever it is. -/
def Working (info : GpuInfo) : Prop := info.processes ≠ [] ∨ 0 < info.utilizationGpu ∨ 0 < info.memoryUsed

/-- The row has the metrics and the status of the report. -/
structure Reports (payload : HeartbeatPayload) (info : GpuInfo) (gpu : GpuDevice) : Prop where
  uuid : gpu.gpuUuid = info.uuid
  model : gpu.gpuModel = some info.model
  memory : gpu.memoryTotalMb = some info.memoryTotal ∧ gpu.memoryUsedMb = info.memoryUsed ∧
    gpu.memoryFreeMb = info.memoryFree
  utilization : gpu.utilization = info.utilizationGpu ∧ gpu.utilizationMemory = info.utilizationMemory
  power : gpu.temperature = info.temperature ∧ gpu.powerUsage = info.powerUsage ∧ gpu.powerLimit = info.powerLimit
  processes : gpu.processes = info.processes
  allocated : gpu.status = .allocated ↔ InUse payload info.index
  busy : gpu.status = .busy ↔ ¬ InUse payload info.index ∧ Working info
  idle : gpu.status = .idle ↔ ¬ InUse payload info.index ∧ ¬ Working info

/-- The node with the time of its last heartbeat moved. -/
def beat (env : Env) (payload : HeartbeatPayload) (node : Node) : Node :=
  { node with lastHeartbeat := some (payload.timestamp.getD env.now) }

/-- The rows of `node` in `db'` are what the payload says; everything else is as in `db`. -/
structure Mirrors (payload : HeartbeatPayload) (db db' : Database) (node : Node) : Prop where
  listed : node ∈ db'.nodes.rows
  address : node.ip = payload.ip
  online : node.status = .online
  /-- Another heartbeat with the same payload only moves its time. -/
  columns : ∀ env, refreshed env payload node = beat env payload node
  only : ∀ other ∈ db'.nodes.rows, other.ip = payload.ip → other = node
  same : ∀ old ∈ db.nodes.rows, old.ip = payload.ip → old.id = node.id
  /-- Every reported GPU has a row, with the id of the row that was there. -/
  reported : ∀ info ∈ payload.gpus, ∃ gpu, db'.gpus.get (node.id, info.index) = some gpu ∧
    Reports payload info gpu ∧ ∀ old, db.gpus.get (node.id, info.index) = some old → gpu.id = old.id
  unreported : ∀ gpu ∈ db'.gpus.rows, gpu.nodeId = node.id → ∃ info ∈ payload.gpus, info.index = gpu.gpuIndex
  containers : ∀ row, row ∈ db'.runningContainers.rows ∧ row.nodeId = node.id ↔
    ∃ item ∈ payload.runningContainers, row = containerRow node.id item
  otherNodes : ∀ id, id ≠ node.id → db'.nodes.get id = db.nodes.get id
  otherGpus : ∀ n index, n ≠ node.id → db'.gpus.get (n, index) = db.gpus.get (n, index)
  otherContainers : ∀ row, row.nodeId ≠ node.id →
    (row ∈ db'.runningContainers.rows ↔ row ∈ db.runningContainers.rows)
  otherTables : db' = { db with
    nodes := db'.nodes, gpus := db'.gpus, runningContainers := db'.runningContainers }

/-! ## The report of one GPU -/

theorem mem_activeGpuIndices {payload : HeartbeatPayload} {index : Int} :
    index ∈ activeGpuIndices payload ↔ InUse payload index := by
  simp only [activeGpuIndices, List.mem_flatMap, List.mem_filter, RunningContainerInfo.active, Bool.or_eq_true,
    decide_eq_true_eq, InUse, or_assoc, and_assoc]

theorem gpuStatus_cases (payload : HeartbeatPayload) (info : GpuInfo) :
    (InUse payload info.index ∧ gpuStatus (activeGpuIndices payload) info = .allocated) ∨
      (¬ InUse payload info.index ∧ Working info ∧ gpuStatus (activeGpuIndices payload) info = .busy) ∨
        (¬ InUse payload info.index ∧ ¬ Working info ∧ gpuStatus (activeGpuIndices payload) info = .idle) := by
  unfold gpuStatus
  split
  · rename_i used
    exact .inl ⟨mem_activeGpuIndices.mp used, rfl⟩
  · rename_i unused
    rw [mem_activeGpuIndices] at unused
    split
    · rename_i working
      exact .inr (.inl ⟨unused, working, rfl⟩)
    · rename_i resting
      exact .inr (.inr ⟨unused, resting, rfl⟩)

theorem measured_reports (payload : HeartbeatPayload) (info : GpuInfo) (gpu : GpuDevice) :
    Reports payload info (measured (activeGpuIndices payload) info gpu) := by
  have status : (measured (activeGpuIndices payload) info gpu).status =
      gpuStatus (activeGpuIndices payload) info := rfl
  have rule := gpuStatus_cases payload info
  rw [← status] at rule
  constructor
  case uuid | model | processes => rfl
  case memory | power => exact ⟨rfl, rfl, rfl⟩
  case utilization => exact ⟨rfl, rfl⟩
  case allocated | busy | idle =>
    rcases rule with ⟨used, here⟩ | ⟨unused, working, here⟩ | ⟨unused, resting, here⟩
    · simp [here, used]
    · simp [here, unused, working]
    · simp [here, unused, resting]

theorem lastReport_of_mem {infos : List GpuInfo} (distinct : (infos.map (·.index)).Nodup) {info : GpuInfo}
    (inside : info ∈ infos) : lastReport info.index infos = some info := by
  induction infos with
  | nil => cases inside
  | cons first rest ih =>
      rw [List.map_cons, List.nodup_cons] at distinct
      rw [lastReport]
      rcases List.mem_cons.mp inside with rfl | later
      · have once : lastReport info.index rest = none := by
          rw [← Option.not_isSome_iff_eq_none, lastReport_isSome]
          exact distinct.1
        simp [once]
      · rw [ih distinct.2 later, Option.some_or]

/-! ## The GPU rows -/

theorem reported_row {env : Env} {payload : HeartbeatPayload} {db : Database} {node : NodeId}
    {gpus : Table GpuDevice.slot} (distinct : (payload.gpus.map (·.index)).Nodup)
    (upserted : upsertGpus env node (existingIndices node db) (activeGpuIndices payload) payload.gpus db.gpus =
      some gpus) {info : GpuInfo} (inside : info ∈ payload.gpus) :
    gpus.get (node, info.index) = some (measured (activeGpuIndices payload) info
      ((db.gpus.get (node, info.index)).getD (newGpu env node info.index))) := by
  rw [upsertGpus_row upserted existingIndices_present, lastReport_of_mem distinct inside, Option.map_some,
    Option.some_or]

/-- A reported row stays when the others are deleted. -/
theorem reported_kept {env : Env} {payload : HeartbeatPayload} {db : Database} {node : NodeId}
    {gpus : Table GpuDevice.slot} (distinct : (payload.gpus.map (·.index)).Nodup)
    (upserted : upsertGpus env node (existingIndices node db) (activeGpuIndices payload) payload.gpus db.gpus =
      some gpus) {info : GpuInfo} (inside : info ∈ payload.gpus) :
    (gpus.deleteWhere fun gpu => gpu.nodeId = node && !(payload.gpus.map (·.index)).contains gpu.gpuIndex).get
        (node, info.index) =
      some (measured (activeGpuIndices payload) info
        ((db.gpus.get (node, info.index)).getD (newGpu env node info.index))) := by
  have row := reported_row distinct upserted inside
  have seen : info.index ∈ payload.gpus.map (·.index) := List.mem_map_of_mem inside
  rw [Table.get_deleteWhere, row]
  have index := congrArg Prod.snd (Table.key_of_get row)
  apply Option.filter_eq_some_iff.mpr
  refine ⟨rfl, ?_⟩
  simp only [GpuDevice.slot] at index
  rw [index, List.contains_iff_mem.mpr seen]
  simp

/-- Every row of the node that a heartbeat leaves is the measurement of a report. -/
theorem row_reported {env : Env} {payload : HeartbeatPayload} {db : Database} {node : NodeId}
    {gpus : Table GpuDevice.slot} (distinct : (payload.gpus.map (·.index)).Nodup)
    (upserted : upsertGpus env node (existingIndices node db) (activeGpuIndices payload) payload.gpus db.gpus =
      some gpus) {gpu : GpuDevice} (row : gpu ∈ (gpus.deleteWhere fun gpu =>
        gpu.nodeId = node && !(payload.gpus.map (·.index)).contains gpu.gpuIndex).rows) (own : gpu.nodeId = node) :
    ∃ info ∈ payload.gpus, info.index = gpu.gpuIndex ∧ measured (activeGpuIndices payload) info gpu = gpu := by
  obtain ⟨inside, kept⟩ := List.mem_filter.mp row
  have seen : gpu.gpuIndex ∈ payload.gpus.map (·.index) := by simpa [own] using kept
  obtain ⟨info, member, here⟩ := List.mem_map.mp seen
  refine ⟨info, member, here, ?_⟩
  have slot : gpu.slot = (node, info.index) := Prod.ext own here.symm
  have found := Table.get_of_mem inside
  rw [slot, reported_row distinct upserted member, Option.some.injEq] at found
  rw [← found]
  rfl

/-- A heartbeat whose reports the rows already show leaves the GPU rows as they are. -/
theorem upsertGpus_again {env : Env} {node : NodeId} {existing active : List Int} {infos : List GpuInfo}
    {table : Table GpuDevice.slot} (known : ∀ info ∈ infos, info.index ∈ existing)
    (shown : ∀ info ∈ infos, ∀ gpu ∈ table.rows, gpu.slot = (node, info.index) →
      measured active info gpu = gpu) :
    upsertGpus env node existing active infos table = some table := by
  induction infos with
  | nil => rfl
  | cons info rest ih =>
      rw [upsertGpus, if_pos (known info List.mem_cons_self)]
      have same : table.update (node, info.index) (measured active info) (measured_slot active info) = table := by
        apply Table.updateWhere_same
        intro gpu inside selected
        exact shown info List.mem_cons_self gpu inside (of_decide_eq_true selected)
      rw [same]
      apply ih
      · exact fun other inside => known other (List.mem_cons_of_mem _ inside)
      · exact fun other inside => shown other (List.mem_cons_of_mem _ inside)

/-! ## The node rows -/

section

variable {env : Env} {payload : HeartbeatPayload} {db : Database} {node : Node} {nodes : Table Node.id}

theorem located_mem (located : findNode env payload.ip db = some (node, nodes)) : node ∈ nodes.rows := by
  obtain ⟨_, known | new⟩ := findNode_spec located
  · rw [known.2]
    exact known.1
  · rw [new.2]
    exact List.mem_append_right _ (List.mem_singleton_self node)

theorem located_ips (ips : (db.nodes.rows.map (·.ip)).Nodup)
    (located : findNode env payload.ip db = some (node, nodes)) : (nodes.rows.map (·.ip)).Nodup := by
  obtain ⟨address, known | new⟩ := findNode_spec located
  · rw [known.2]
    exact ips
  · rw [new.2, List.map_append, List.map_singleton, List.nodup_append]
    refine ⟨ips, List.nodup_singleton _, ?_⟩
    intro ip old other mine same
    rw [List.mem_singleton] at mine
    obtain ⟨row, inside, here⟩ := List.mem_map.mp old
    exact new.1 row inside (by rw [here, same, mine, address])

theorem located_get (located : findNode env payload.ip db = some (node, nodes)) {id : NodeId} (other : id ≠ node.id) :
    nodes.get id = db.nodes.get id := by
  obtain ⟨_, known | new⟩ := findNode_spec located
  · rw [known.2]
  · simp [Table.get, new.2, List.find?_append, Ne.symm other]

/-- The node that the heartbeat finds is the one with its address. -/
theorem located_same (ips : (db.nodes.rows.map (·.ip)).Nodup)
    (located : findNode env payload.ip db = some (node, nodes)) {old : Node} (stored : old ∈ db.nodes.rows)
    (here : old.ip = payload.ip) : old = node := by
  obtain ⟨address, known | new⟩ := findNode_spec located
  · exact List.inj_on_of_nodup_map ips stored known.1 (here.trans address.symm)
  · exact absurd here (new.1 old stored)

theorem refreshed_get (located : findNode env payload.ip db = some (node, nodes)) (id : NodeId) :
    (nodes.update node.id (refreshed env payload) (refreshed_id env payload)).get id =
      if id = node.id then some (refreshed env payload node) else db.nodes.get id := by
  rw [Table.get_update]
  split
  · rename_i same
    rw [same, Table.get_of_mem (located_mem located), Option.map_some]
  · rename_i other
    exact located_get located other

theorem refreshed_ips (ips : (db.nodes.rows.map (·.ip)).Nodup)
    (located : findNode env payload.ip db = some (node, nodes)) :
    ((nodes.update node.id (refreshed env payload) (refreshed_id env payload)).rows.map (·.ip)).Nodup := by
  rw [Table.update, Table.map_updateWhere]
  · exact located_ips ips located
  · intro row inside selected
    have same : row = node :=
      List.inj_on_of_nodup_map nodes.unique inside (located_mem located) (of_decide_eq_true selected)
    rw [same, (findNode_spec located).1]
    rfl

end

/-! ## One heartbeat -/

/-- No constraint of the store is in the way of the payload. -/
structure Acceptable (payload : HeartbeatPayload) (db : Database) : Prop where
  ips : (db.nodes.rows.map (·.ip)).Nodup
  indices : (payload.gpus.map (·.index)).Nodup
  ids : (payload.runningContainers.map (·.containerId)).Nodup
  /-- No reported container is registered under a node with another address. -/
  free : ∀ item ∈ payload.runningContainers, ∀ row ∈ db.runningContainers.rows,
    row.containerId = item.containerId → ∃ node ∈ db.nodes.rows, node.id = row.nodeId ∧ node.ip = payload.ip
  tasks : ∀ item ∈ payload.runningContainers, ∀ t, item.taskId = some t → (db.tasks.get t).isSome

theorem Acceptable.handled {env : Env} {payload : HeartbeatPayload} {db : Database} (ok : Acceptable payload db)
    (fits : payload.fits = true) {node : Node} {nodes : Table Node.id}
    (located : findNode env payload.ip db = some (node, nodes)) :
    ∃ db', handleHeartbeat env payload db = some db' := by
  apply Option.isSome_iff_exists.mp
  rw [handleHeartbeat_isSome fits located ok.ids _ ok.indices, List.all_eq_true]
  · intro item inside
    unfold taskKnown
    cases carried : item.taskId with
    | none => rfl
    | some t => exact ok.tasks item inside t carried
  · intro item inside row stored same
    obtain ⟨owner, listed, here, address⟩ := ok.free item inside row stored same
    rw [← here, located_same ok.ips located listed address]

theorem mirrors_of_handled {env : Env} {payload : HeartbeatPayload} {db db' : Database} (ok : Acceptable payload db)
    {node : Node} {nodes : Table Node.id} (located : findNode env payload.ip db = some (node, nodes))
    (handled : handleHeartbeat env payload db = some db') : Mirrors payload db db' (refreshed env payload node) := by
  obtain ⟨node', nodes', containers, gpus, located', _, inserted, upserted, rfl⟩ := handleHeartbeat_tables handled
  obtain ⟨rfl, rfl⟩ := Prod.mk.inj (Option.some.inj (located.symm.trans located'))
  have rows := insertContainers_rows inserted
  have get := refreshed_get located
  have ips := refreshed_ips ok.ips located
  have listed : refreshed env payload node ∈
      (nodes.update node.id (refreshed env payload) (refreshed_id env payload)).rows := by
    apply Table.mem_of_get (k := node.id)
    rw [get, if_pos rfl]
  constructor
  case listed => exact listed
  case address | online => rfl
  case columns => exact fun _ => rfl
  case only =>
    intro other inside here
    exact List.inj_on_of_nodup_map ips inside listed here
  case same =>
    intro old stored here
    rw [located_same ok.ips located stored here]
    rfl
  case reported =>
    intro info inside
    refine ⟨_, reported_kept ok.indices upserted inside, measured_reports payload info _, ?_⟩
    intro old found
    rw [refreshed_id] at found
    rw [found]
    rfl
  case unreported =>
    intro gpu inside own
    obtain ⟨info, member, here, _⟩ := row_reported ok.indices upserted inside own
    exact ⟨info, member, here⟩
  case containers =>
    intro row
    rw [rows, List.mem_append, List.mem_map, refreshed_id]
    constructor
    · rintro ⟨old | ⟨item, inside, rfl⟩, own⟩
      · have kept := (List.mem_filter.mp old).2
        simp [own] at kept
      · exact ⟨item, inside, rfl⟩
    · rintro ⟨item, inside, rfl⟩
      exact ⟨.inr ⟨item, inside, rfl⟩, rfl⟩
  case otherNodes =>
    intro id other
    exact (get id).trans (if_neg other)
  case otherGpus =>
    intro n index other
    rw [Table.get_deleteWhere, upsertGpus_other upserted other]
    cases found : db.gpus.get (n, index) with
    | none => rfl
    | some gpu =>
        have here : gpu.nodeId = n := congrArg Prod.fst (Table.key_of_get found)
        rw [refreshed_id] at other
        simp [here, other]
  case otherContainers =>
    intro row other
    rw [rows, List.mem_append, List.mem_map]
    rw [refreshed_id] at other
    constructor
    · rintro (old | ⟨item, inside, rfl⟩)
      · exact List.mem_of_mem_filter old
      · exact absurd rfl other
    · intro old
      exact .inl (List.mem_filter.mpr ⟨old, by simp [other]⟩)
  case otherTables => rfl

/-! ## The same heartbeat again -/

theorem Mirrors.get {payload : HeartbeatPayload} {db db' : Database} {node : Node}
    (mirrors : Mirrors payload db db' node) (env : Env) (id : NodeId) :
    (db'.nodes.update node.id (refreshed env payload) (refreshed_id env payload)).get id =
      if id = node.id then some (beat env payload node) else db'.nodes.get id := by
  rw [Table.get_update]
  split
  · rename_i same
    rw [same, Table.get_of_mem mirrors.listed, Option.map_some, mirrors.columns]
  · rfl

theorem Mirrors.renew {payload : HeartbeatPayload} {db db' : Database} {node : Node}
    (mirrors : Mirrors payload db db' node) (env : Env) :
    Mirrors payload db { db' with
      nodes := db'.nodes.update node.id (refreshed env payload) (refreshed_id env payload) }
      (beat env payload node) where
  listed := by
    apply Table.mem_of_get (k := node.id)
    rw [mirrors.get, if_pos rfl]
  address := mirrors.address
  online := mirrors.online
  columns env' := by
    have same := mirrors.columns env'
    simp only [refreshed, beat, Node.mk.injEq] at same ⊢
    simp [same]
  only other inside here := by
    have found := Table.get_of_mem inside
    rw [mirrors.get] at found
    split at found
    · exact (Option.some.inj found).symm
    · rename_i apart
      exact absurd (congrArg Node.id (mirrors.only other (Table.mem_of_get found) here)) apart
  same := mirrors.same
  reported := mirrors.reported
  unreported := mirrors.unreported
  containers := mirrors.containers
  otherNodes id other := by
    rw [mirrors.get]
    exact (if_neg other).trans (mirrors.otherNodes id other)
  otherGpus := mirrors.otherGpus
  otherContainers := mirrors.otherContainers
  otherTables := by rw [mirrors.otherTables]

theorem vacated_again {node : NodeId} {items : List RunningContainerInfo}
    {table table' : Table RunningContainer.containerId}
    (inserted : insertContainers node items (table.deleteWhere fun row => row.nodeId = node) = some table') :
    (table'.deleteWhere fun row => row.nodeId = node) = table.deleteWhere fun row => row.nodeId = node := by
  apply Table.ext_rows
  have own : (items.map (containerRow node)).filter (fun row => !decide (row.nodeId = node)) = [] := by
    apply List.filter_eq_nil_iff.mpr
    intro row inside
    obtain ⟨item, _, rfl⟩ := List.mem_map.mp inside
    simp [containerRow]
  rw [Table.deleteWhere_rows, insertContainers_rows inserted, List.filter_append, own, List.append_nil,
    Table.deleteWhere_rows, List.filter_filter]
  simp only [Bool.and_self]

theorem handled_again {env : Env} {payload : HeartbeatPayload} {db db' : Database} (ok : Acceptable payload db)
    {node : Node} {nodes : Table Node.id} (located : findNode env payload.ip db = some (node, nodes))
    (handled : handleHeartbeat env payload db = some db') (env' : Env) :
    handleHeartbeat env' payload db' = some { db' with
      nodes := db'.nodes.update node.id (refreshed env' payload) (refreshed_id env' payload) } := by
  have mirrors := mirrors_of_handled ok located handled
  obtain ⟨node', nodes', containers, gpus, located', known, inserted, upserted, rfl⟩ :=
    handleHeartbeat_tables handled
  obtain ⟨rfl, rfl⟩ := Prod.mk.inj (Option.some.inj (located.symm.trans located'))
  generalize left : gpus.deleteWhere (fun gpu =>
    gpu.nodeId = node.id && !(payload.gpus.map (·.index)).contains gpu.gpuIndex) = gpus' at mirrors ⊢
  generalize nodes.update node.id (refreshed env payload) (refreshed_id env payload) = nodes' at mirrors ⊢
  have found : nodes'.rows.find? (fun other => other.ip = payload.ip) = some (refreshed env payload node) := by
    cases first : nodes'.rows.find? fun other => other.ip = payload.ip with
    | none =>
        have absent := List.find?_eq_none.mp first _ mirrors.listed
        simp [mirrors.address] at absent
    | some other =>
        have here : other.ip = payload.ip := by simpa using List.find?_some first
        rw [mirrors.only other (List.mem_of_find?_eq_some first) here]
  have row : ∀ info ∈ payload.gpus, gpus'.get (node.id, info.index) = some (measured (activeGpuIndices payload) info
      ((db.gpus.get (node.id, info.index)).getD (newGpu env node.id info.index))) := by
    intro info inside
    rw [← left]
    exact reported_kept ok.indices upserted inside
  have again : ∀ existing, (∀ info ∈ payload.gpus, info.index ∈ existing) →
      upsertGpus env' node.id existing (activeGpuIndices payload) payload.gpus gpus' = some gpus' := by
    intro existing present
    apply upsertGpus_again present
    intro info inside gpu stored slot
    have here := Table.get_of_mem stored
    rw [slot, row info inside, Option.some.injEq] at here
    rw [← here]
    rfl
  have kept : (gpus'.deleteWhere fun gpu =>
      gpu.nodeId = node.id && !(payload.gpus.map (·.index)).contains gpu.gpuIndex) = gpus' := by
    apply Table.deleteWhere_same
    intro gpu stored
    rw [← left] at stored
    exact Bool.not_eq_eq_eq_not.mp (List.mem_filter.mp stored).2
  have present : ∀ info ∈ payload.gpus, info.index ∈
      existingIndices node.id { db with nodes := nodes', runningContainers := containers, gpus := gpus' } := by
    intro info inside
    obtain ⟨stored, here⟩ := Table.get_eq_some.mp (row info inside)
    obtain ⟨own, index⟩ := Prod.mk.inj here
    exact List.mem_map.mpr ⟨_, List.mem_filter.mpr ⟨stored, decide_eq_true own⟩, index⟩
  have located' : findNode env' payload.ip { db with
      nodes := nodes', runningContainers := containers, gpus := gpus' } =
        some (refreshed env payload node, nodes') := by
    simp only [findNode, found]
  rw [← vacated_again inserted] at inserted
  rw [handleHeartbeat_of_fits (handleHeartbeat_eq_some.mp handled).1]
  refine (writeHeartbeat_eq located' known inserted (again _ present)).trans ?_
  exact congrArg (fun rows => some { db with
    nodes := nodes'.update node.id (refreshed env' payload) (refreshed_id env' payload)
    runningContainers := containers
    gpus := rows }) kept

/-- A heartbeat whose values fit makes the store mirror the payload, and the same payload,
    handled once more at any time, moves the time of the last heartbeat and nothing else. -/
theorem heartbeat_mirrors {env : Env} {payload : HeartbeatPayload} {db : Database} (ok : Acceptable payload db)
    (fits : payload.fits = true) (fresh : db.nodes.get env.nodeId = none) :
    ∃ db' node, handleHeartbeat env payload db = some db' ∧ Mirrors payload db db' node ∧
      ∀ env', ∃ db'', handleHeartbeat env' payload db' = some db'' ∧
        Mirrors payload db db'' (beat env' payload node) ∧ db''.gpus = db'.gpus ∧
          db''.runningContainers = db'.runningContainers ∧
            ∀ id, id ≠ node.id → db''.nodes.get id = db'.nodes.get id := by
  obtain ⟨node, nodes, located⟩ := findNode_isSome env payload.ip fresh
  obtain ⟨db', handled⟩ := ok.handled fits located
  have mirrors := mirrors_of_handled ok located handled
  refine ⟨db', refreshed env payload node, handled, mirrors, ?_⟩
  intro env'
  refine ⟨_, handled_again ok located handled env', ?_, rfl, rfl, ?_⟩
  · exact mirrors.renew env'
  · intro id other
    exact (Table.get_update _ _ _ (refreshed_id env' payload) _).trans (if_neg other)

/-! ## A node that changes its GPUs -/

/-- The node is known with one GPU, which a second report replaces. -/
def sampleDb : Database where
  nodes := .singleton { id := "n1", ip := "10.0.0.1", status := .offline }
  gpus := .singleton { id := "g", nodeId := "n1", gpuIndex := 0, status := .allocated }
  tasks := .singleton { id := "t", userId := "u", status := .running }
  runningContainers := .singleton { containerId := "old", nodeId := "n1" }

def samplePayload : HeartbeatPayload where
  hostname := "host"
  ip := "10.0.0.1"
  gpus := [{ index := 1, model := "A100", utilizationGpu := 3 }]
  runningContainers := [{ containerId := "c", taskId := some "t", gpuIndices := [1] }]

theorem sample_acceptable : Acceptable samplePayload sampleDb where
  ips := by decide
  indices := by decide
  ids := by decide
  free item inside row stored same := by
    obtain rfl := List.mem_singleton.mp inside
    obtain rfl := List.mem_singleton.mp stored
    exact absurd same (by decide)
  tasks item inside t carried := by
    obtain rfl := List.mem_singleton.mp inside
    cases carried
    rfl

theorem sample_mirrors :
    ∃ db' node, handleHeartbeat { nodeId := "n2", now := 1 } samplePayload sampleDb = some db' ∧
      Mirrors samplePayload sampleDb db' node ∧
      ∀ env', ∃ db'', handleHeartbeat env' samplePayload db' = some db'' ∧
        Mirrors samplePayload sampleDb db'' (beat env' samplePayload node) ∧ db''.gpus = db'.gpus ∧
          db''.runningContainers = db'.runningContainers ∧
            ∀ id, id ≠ node.id → db''.nodes.get id = db'.nodes.get id :=
  heartbeat_mirrors sample_acceptable (by decide) rfl

/-- The schema takes any integer for the memory of a host, the column does not. -/
theorem unfit_refused : ¬ ∀ env payload db, Acceptable payload db → db.nodes.get env.nodeId = none →
    ∃ db' node, handleHeartbeat env payload db = some db' ∧ Mirrors payload db db' node := by
  intro all
  have ok := sample_acceptable
  obtain ⟨db', node, handled, _⟩ := all { nodeId := "n2", now := 1 }
    { samplePayload with memoryTotal := 10 ^ 30 } sampleDb ⟨ok.ips, ok.indices, ok.ids, ok.free, ok.tasks⟩ rfl
  exact absurd (handleHeartbeat_eq_some.mp handled).1 (by decide)

end SuitApi.Mirror
