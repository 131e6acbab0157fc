import SuitApi.Agent

/-! # The backend's heartbeat handler

A heartbeat replaces what the platform knows about one node: its own row, its
GPU rows and its container rows.  The new container rows are subject to the
foreign key on `tasks` and to the unique container id; where a constraint fails or
a column does not take its value, nothing of the heartbeat is stored.
-/

namespace SuitApi

structure GpuInfo where
  index : Int
  model : String
  uuid : Option String := none
  memoryTotal : Int := 0
  memoryUsed : Int := 0
  memoryFree : Int := 0
  utilizationGpu : Int := 0
  utilizationMemory : Int := 0
  temperature : Int := 0
  powerUsage : Int := 0
  powerLimit : Int := 0
  processes : List ProcessInfo := []
  deriving Repr, DecidableEq

structure RunningContainerInfo where
  containerId : ContainerId
  taskId : Option String := none
  image : Option String := none
  status : ContainerStatus := .running
  gpuIndices : List Int := []
  startedAt : Option Time := none
  deriving Repr, DecidableEq

structure HeartbeatPayload where
  timestamp : Option Time := none
  hostname : String
  ip : String
  agentPort : Int := 9000
  gpus : List GpuInfo := []
  cpuPercent : ℚ := 0
  memoryTotal : Int := 0
  memoryPercent : ℚ := 0
  runningContainers : List RunningContainerInfo := []
  deriving Repr, DecidableEq

/-! ## The columns of a heartbeat -/

def GpuInfo.fits (info : GpuInfo) : Bool :=
  info.uuid.all (fitsUncut 128) && fitsUncut 64 info.model &&
    [info.index, info.memoryTotal, info.memoryUsed, info.memoryFree, info.utilizationGpu, info.utilizationMemory,
      info.temperature, info.powerUsage, info.powerLimit].all fitsInteger

def ContainerStatus.fits : ContainerStatus → Bool
  | .other text => fitsUncut 32 text
  | _ => true

def RunningContainerInfo.fits (item : RunningContainerInfo) : Bool :=
  fitsUncut 64 item.containerId && item.image.all (fitsUncut 256) && item.status.fits

/-- Every value of the payload fits its column.  (A text that only spaces make too long
    would be cut; it counts as one that does not fit.) -/
def HeartbeatPayload.fits (payload : HeartbeatPayload) : Bool :=
  fitsUncut 128 payload.hostname && fitsUncut 45 payload.ip &&
    [payload.agentPort, (payload.gpus.length : Int), payload.memoryTotal].all fitsInteger &&
      payload.gpus.all GpuInfo.fits && payload.runningContainers.all RunningContainerInfo.fits

/-- `list_managed_containers` of the agent at this address. -/
def ContainerTracker.listManagedContainers (ip : String) (containers : List Container) :
    List RunningContainerInfo :=
  (containers.filter fun c => c.nodeIp = ip).map fun c =>
    { containerId := c.containerId
      taskId := c.taskId
      image := some c.image
      status := c.status
      gpuIndices := c.gpuIndices
      startedAt := c.startedAt }

namespace NodeService

/-- The generated keys and the clock of one call. -/
structure Env where
  nodeId : NodeId
  gpuId : Int → String := fun _ => ""
  now : Time

/-- The node with the payload's address, created if it is new. -/
def findNode (env : Env) (ip : String) (db : Database) : Option (Node × Table Node.id) :=
  match db.nodes.rows.find? fun node => node.ip = ip with
  | some node => some (node, db.nodes)
  | none =>
      let node : Node := { id := env.nodeId, ip, registeredAt := env.now }
      (db.nodes.insert? node).map fun nodes => (node, nodes)

/-- The node columns a heartbeat writes. -/
def refreshed (env : Env) (payload : HeartbeatPayload) (node : Node) : Node :=
  { node with
    hostname := some payload.hostname
    ip := payload.ip
    agentPort := payload.agentPort
    gpuCount := payload.gpus.length
    gpuModel := payload.gpus.head?.map (·.model)
    totalMemoryMb := some payload.memoryTotal
    status := .online
    cpuPercent := payload.cpuPercent
    memoryPercent := payload.memoryPercent
    lastHeartbeat := some (payload.timestamp.getD env.now) }

theorem refreshed_id (env : Env) (payload : HeartbeatPayload) (node : Node) :
    (refreshed env payload node).id = node.id := rfl

def containerRow (node : NodeId) (item : RunningContainerInfo) : RunningContainer where
  containerId := item.containerId
  nodeId := node
  taskId := item.taskId
  image := item.image
  status := item.status
  gpuIndices := item.gpuIndices
  startedAt := item.startedAt

/-- The foreign key of `running_containers.task_id`. -/
def taskKnown (db : Database) (item : RunningContainerInfo) : Bool :=
  match item.taskId with
  | none => true
  | some t => (db.tasks.get t).isSome

def insertContainers (node : NodeId) :
    List RunningContainerInfo → Table RunningContainer.containerId →
      Option (Table RunningContainer.containerId)
  | [], table => some table
  | item :: rest, table => (table.insert? (containerRow node item)).bind (insertContainers node rest)

/-- The container counts as using its GPUs. -/
def RunningContainerInfo.active (item : RunningContainerInfo) : Bool :=
  item.status = .created || item.status = .restarting || item.status = .running

def activeGpuIndices (payload : HeartbeatPayload) : List Int :=
  (payload.runningContainers.filter RunningContainerInfo.active).flatMap (·.gpuIndices)

def gpuStatus (active : List Int) (info : GpuInfo) : GpuStatus :=
  if info.index ∈ active then .allocated
  else if info.processes ≠ [] ∨ info.utilizationGpu > 0 ∨ info.memoryUsed > 0 then .busy
  else .idle

/-- The GPU columns a heartbeat writes. -/
def measured (active : List Int) (info : GpuInfo) (gpu : GpuDevice) : GpuDevice :=
  { gpu with
    gpuUuid := info.uuid
    gpuModel := some info.model
    memoryTotalMb := some info.memoryTotal
    memoryUsedMb := info.memoryUsed
    memoryFreeMb := info.memoryFree
    utilization := info.utilizationGpu
    utilizationMemory := info.utilizationMemory
    temperature := info.temperature
    powerUsage := info.powerUsage
    powerLimit := info.powerLimit
    processes := info.processes
    status := gpuStatus active info }

theorem measured_slot (active : List Int) (info : GpuInfo) (gpu : GpuDevice) :
    (measured active info gpu).slot = gpu.slot := rfl

/-- The loop over `payload.gpus`.  Which indices exist is read once, before it,
    so a new index that is reported twice is inserted twice. -/
def upsertGpus (env : Env) (node : NodeId) (existing : List Int) (active : List Int) :
    List GpuInfo → Table GpuDevice.slot → Option (Table GpuDevice.slot)
  | [], table => some table
  | info :: rest, table =>
      if info.index ∈ existing then
        upsertGpus env node existing active rest
          (table.update (node, info.index) (measured active info) (measured_slot active info))
      else
        (table.insert? (measured active info
          { id := env.gpuId info.index, nodeId := node, gpuIndex := info.index })).bind
            (upsertGpus env node existing active rest)

def existingIndices (node : NodeId) (db : Database) : List Int :=
  (db.gpus.rows.filter fun gpu => gpu.nodeId = node).map (·.gpuIndex)

/-- The writes of `handle_heartbeat`, or `none` where they break a constraint. -/
def writeHeartbeat (env : Env) (payload : HeartbeatPayload) (db : Database) : Option Database :=
  match findNode env payload.ip db with
  | none => none
  | some (node, nodes) =>
      let reported := payload.gpus.map (·.index)
      match payload.runningContainers.all (taskKnown db),
          insertContainers node.id payload.runningContainers
            (db.runningContainers.deleteWhere fun row => row.nodeId = node.id),
          upsertGpus env node.id (existingIndices node.id db) (activeGpuIndices payload) payload.gpus
            db.gpus with
      | true, some runningContainers, some gpus =>
          some { db with
            nodes := nodes.update node.id (refreshed env payload) (refreshed_id env payload)
            runningContainers
            gpus := gpus.deleteWhere fun gpu => gpu.nodeId = node.id && !reported.contains gpu.gpuIndex }
      | _, _, _ => none

/-- `handle_heartbeat`, or `none` where the database refuses the commit. -/
def handleHeartbeat (env : Env) (payload : HeartbeatPayload) (db : Database) : Option Database :=
  if payload.fits then writeHeartbeat env payload db else none

theorem handleHeartbeat_of_fits {payload : HeartbeatPayload} (fits : payload.fits = true) (env : Env)
    (db : Database) : handleHeartbeat env payload db = writeHeartbeat env payload db := if_pos fits

/-- What is handled fits and breaks no constraint. -/
theorem handleHeartbeat_eq_some {env : Env} {payload : HeartbeatPayload} {db db' : Database} :
    handleHeartbeat env payload db = some db' ↔
      payload.fits = true ∧ writeHeartbeat env payload db = some db' := by
  unfold handleHeartbeat
  split
  · rename_i fits
    exact (and_iff_right fits).symm
  · rename_i unfit
    exact iff_of_false nofun fun both => unfit both.1

/-! ## The GPU rows one heartbeat leaves -/

/-- The report that decides the row of `index`: the last one. -/
def lastReport (index : Int) : List GpuInfo → Option GpuInfo
  | [] => none
  | info :: rest => (lastReport index rest).or (if info.index = index then some info else none)

theorem lastReport_isSome {index : Int} {infos : List GpuInfo} :
    (lastReport index infos).isSome = true ↔ index ∈ infos.map (·.index) := by
  induction infos with
  | nil => simp [lastReport]
  | cons info rest ih =>
      rw [lastReport, Option.isSome_or, Bool.or_eq_true, ih, List.map_cons, List.mem_cons, or_comm]
      apply or_congr_left
      by_cases same : info.index = index
      · simp [same]
      · simp [same, Ne.symm same]

/-- The report that `lastReport` finds is one of that GPU. -/
theorem lastReport_index {index : Int} {infos : List GpuInfo} {info : GpuInfo}
    (told : lastReport index infos = some info) : info.index = index := by
  induction infos with
  | nil => cases told
  | cons first rest ih =>
      rw [lastReport, Option.or_eq_some_iff] at told
      rcases told with later | ⟨_, here⟩
      · exact ih later
      · split at here
        · rename_i same
          cases here
          exact same
        · cases here

theorem upsertGpus_other {env : Env} {node : NodeId} {existing active : List Int} {infos : List GpuInfo}
    {table table' : Table GpuDevice.slot}
    (done : upsertGpus env node existing active infos table = some table') {other : NodeId}
    (elsewhere : other ≠ node) (index : Int) : table'.get (other, index) = table.get (other, index) := by
  induction infos generalizing table with
  | nil =>
      cases done
      rfl
  | cons info rest ih =>
      have apart : (other, index) ≠ (node, info.index) := fun same => elsewhere (Prod.mk.inj same).1
      rw [upsertGpus] at done
      split at done
      · rw [ih done, Table.get_update _ _ _ (measured_slot active info), if_neg apart]
      · obtain ⟨inserted, insertion, rest⟩ := Option.bind_eq_some_iff.mp done
        rw [ih rest, Table.get_insert? insertion]
        exact if_neg apart

/-- The row that the loop inserts for a new index, before it is measured. -/
def newGpu (env : Env) (node : NodeId) (index : Int) : GpuDevice :=
  { id := env.gpuId index, nodeId := node, gpuIndex := index }

/-- After the loop every reported row has what its last report says and, if it was there
    before, its old id. -/
theorem upsertGpus_row {env : Env} {node : NodeId} {existing active : List Int} {infos : List GpuInfo}
    {table table' : Table GpuDevice.slot}
    (done : upsertGpus env node existing active infos table = some table')
    (present : ∀ index ∈ existing, (table.get (node, index)).isSome) (index : Int) :
    table'.get (node, index) = ((lastReport index infos).map fun info =>
      measured active info ((table.get (node, index)).getD (newGpu env node index))).or
        (table.get (node, index)) := by
  induction infos generalizing table with
  | nil =>
      cases done
      rfl
  | cons info rest ih =>
      rw [upsertGpus] at done
      split at done
      · rename_i known
        have row := Table.get_update table (node, info.index) (measured active info)
          (measured_slot active info)
        have kept : ∀ i ∈ existing, ((table.update (node, info.index) (measured active info)
            (measured_slot active info)).get (node, i)).isSome := by
          intro i inside
          rw [row]
          split
          · rw [Option.isSome_map]
            exact present i inside
          · exact present i inside
        rw [ih done kept, row, lastReport]
        by_cases same : index = info.index
        · subst same
          obtain ⟨gpu, found⟩ := Option.isSome_iff_exists.mp (present _ known)
          cases lastReport info.index rest <;> simp [found, measured]
        · have apart : (node, index) ≠ (node, info.index) := fun h => same (Prod.mk.inj h).2
          simp [apart, Ne.symm same]
      · obtain ⟨inserted, insertion, rest'⟩ := Option.bind_eq_some_iff.mp done
        have row := Table.get_insert? insertion
        have kept : ∀ i ∈ existing, (inserted.get (node, i)).isSome := by
          intro i inside
          rw [row]
          split
          · rfl
          · exact present i inside
        rw [ih rest' kept, row, lastReport]
        have slot : GpuDevice.slot (measured active info
            { id := env.gpuId info.index, nodeId := node, gpuIndex := info.index }) = (node, info.index) := rfl
        rw [slot]
        by_cases same : index = info.index
        · subst same
          have missing : table.get (node, info.index) = none := Table.insert?_fresh insertion
          cases lastReport info.index rest <;> simp [missing, measured, newGpu]
        · have apart : (node, index) ≠ (node, info.index) := fun h => same (Prod.mk.inj h).2
          simp [apart, Ne.symm same]

/-- After the loop the status of every reported row is that of its last report. -/
theorem upsertGpus_status {env : Env} {node : NodeId} {existing active : List Int} {infos : List GpuInfo}
    {table table' : Table GpuDevice.slot}
    (done : upsertGpus env node existing active infos table = some table')
    (present : ∀ index ∈ existing, (table.get (node, index)).isSome) (index : Int) :
    (table'.get (node, index)).map (·.status) =
      ((lastReport index infos).map (gpuStatus active)).or ((table.get (node, index)).map (·.status)) := by
  rw [upsertGpus_row done present]
  cases lastReport index infos <;> simp [measured]

theorem existingIndices_present {node : NodeId} {db : Database} :
    ∀ index ∈ existingIndices node db, (db.gpus.get (node, index)).isSome := by
  intro index inside
  obtain ⟨gpu, member, rfl⟩ := List.mem_map.mp inside
  obtain ⟨row, here⟩ := List.mem_filter.mp member
  have found := Table.get_of_mem row
  rw [GpuDevice.slot, of_decide_eq_true here] at found
  rw [found]
  rfl

/-- The tables that an accepted heartbeat leaves. -/
theorem handleHeartbeat_tables {env : Env} {payload : HeartbeatPayload} {db db' : Database}
    (handled : handleHeartbeat env payload db = some db') :
    ∃ node nodes runningContainers gpus, findNode env payload.ip db = some (node, nodes) ∧
      payload.runningContainers.all (taskKnown db) = true ∧
      insertContainers node.id payload.runningContainers
        (db.runningContainers.deleteWhere fun row => row.nodeId = node.id) = some runningContainers ∧
      upsertGpus env node.id (existingIndices node.id db) (activeGpuIndices payload) payload.gpus db.gpus =
        some gpus ∧
      db' = { db with
        nodes := nodes.update node.id (refreshed env payload) (refreshed_id env payload)
        runningContainers
        gpus := gpus.deleteWhere fun gpu =>
          gpu.nodeId = node.id && !(payload.gpus.map (·.index)).contains gpu.gpuIndex } := by
  have written := (handleHeartbeat_eq_some.mp handled).2
  unfold writeHeartbeat at written
  split at written
  · cases written
  · rename_i node nodes located
    simp only at written
    split at written
    · rename_i containers gpus known inserted upserted
      cases written
      exact ⟨node, nodes, containers, gpus, located, known, inserted, upserted, rfl⟩
    · cases written

/-- Everything later proofs need to know of an accepted heartbeat. -/
structure Handled (env : Env) (payload : HeartbeatPayload) (db db' : Database) (node : Node)
    (nodes : Table Node.id) : Prop where
  located : findNode env payload.ip db = some (node, nodes)
  nodes : db'.nodes = nodes.update node.id (refreshed env payload) (refreshed_id env payload)
  tasks : db'.tasks = db.tasks
  containers : insertContainers node.id payload.runningContainers
    (db.runningContainers.deleteWhere fun row => row.nodeId = node.id) = some db'.runningContainers
  others : ∀ n index, n ≠ node.id → db'.gpus.get (n, index) = db.gpus.get (n, index)
  status : ∀ index, (db'.gpus.get (node.id, index)).map (·.status) =
    (lastReport index payload.gpus).map (gpuStatus (activeGpuIndices payload))

theorem writeHeartbeat_eq {env : Env} {payload : HeartbeatPayload} {db : Database} {node : Node}
    {nodes : Table Node.id} {runningContainers : Table RunningContainer.containerId} {gpus : Table GpuDevice.slot}
    (located : findNode env payload.ip db = some (node, nodes))
    (known : payload.runningContainers.all (taskKnown db) = true)
    (inserted : insertContainers node.id payload.runningContainers
      (db.runningContainers.deleteWhere fun row => row.nodeId = node.id) = some runningContainers)
    (upserted : upsertGpus env node.id (existingIndices node.id db) (activeGpuIndices payload) payload.gpus db.gpus =
      some gpus) :
    writeHeartbeat env payload db = some { db with
      nodes := nodes.update node.id (refreshed env payload) (refreshed_id env payload)
      runningContainers
      gpus := gpus.deleteWhere fun gpu =>
        gpu.nodeId = node.id && !(payload.gpus.map (·.index)).contains gpu.gpuIndex } := by
  simp only [writeHeartbeat, located, known, inserted, upserted]

theorem handleHeartbeat_spec {env : Env} {payload : HeartbeatPayload} {db db' : Database}
    (handled : handleHeartbeat env payload db = some db') :
    ∃ node nodes, Handled env payload db db' node nodes := by
  obtain ⟨node, nodes, containers, gpus, located, _, inserted, upserted, rfl⟩ := handleHeartbeat_tables handled
  refine ⟨node, nodes, located, rfl, rfl, inserted, ?_, ?_⟩
  · intro n index elsewhere
    rw [Table.get_deleteWhere, upsertGpus_other upserted elsewhere]
    cases found : db.gpus.get (n, index) with
    | none => rfl
    | some gpu =>
        have here : gpu.nodeId = n := congrArg Prod.fst (Table.key_of_get found)
        simp [here, elsewhere]
  · intro index
    have row := upsertGpus_status upserted existingIndices_present index
    rw [Table.get_deleteWhere]
    cases found : gpus.get (node.id, index) with
    | none =>
        rw [found] at row
        cases reported : lastReport index payload.gpus with
        | none => rfl
        | some info =>
            rw [reported] at row
            cases row
    | some gpu =>
        have here : gpu.gpuIndex = index := congrArg Prod.snd (Table.key_of_get found)
        have there : gpu.nodeId = node.id := congrArg Prod.fst (Table.key_of_get found)
        rw [found] at row
        cases reported : lastReport index payload.gpus with
        | none =>
            have unseen : index ∉ payload.gpus.map (·.index) := by
              rw [← lastReport_isSome, reported]
              exact Bool.false_ne_true
            rw [Option.filter_some, here, there]
            simp [unseen]
        | some info =>
            have seen : index ∈ payload.gpus.map (·.index) := by
              rw [← lastReport_isSome, reported]
              rfl
            rw [reported] at row
            rw [Option.filter_some, here, there]
            simp only [List.contains_iff_mem.mpr seen]
            simpa using row

/-! ## When a heartbeat is accepted -/

/-- The node a heartbeat finds has the payload's address; a new one is added. -/
theorem findNode_spec {env : Env} {ip : String} {db : Database} {node : Node} {nodes : Table Node.id}
    (located : findNode env ip db = some (node, nodes)) :
    node.ip = ip ∧ ((node ∈ db.nodes.rows ∧ nodes = db.nodes) ∨
      ((∀ other ∈ db.nodes.rows, other.ip ≠ ip) ∧ nodes.rows = db.nodes.rows ++ [node])) := by
  unfold findNode at located
  split at located
  · rename_i found
    cases located
    exact ⟨by simpa using List.find?_some found, .inl ⟨List.mem_of_find?_eq_some found, rfl⟩⟩
  · rename_i missing
    obtain ⟨table, inserted, same⟩ := Option.map_eq_some_iff.mp located
    cases same
    refine ⟨rfl, .inr ⟨?_, Table.insert?_rows inserted⟩⟩
    intro other inside
    simpa using List.find?_eq_none.mp missing other inside

theorem findNode_isSome (env : Env) {db : Database} (ip : String)
    (fresh : db.nodes.get env.nodeId = none) : ∃ node nodes, findNode env ip db = some (node, nodes) := by
  unfold findNode
  split
  · exact ⟨_, _, rfl⟩
  · obtain ⟨nodes, inserted⟩ := Table.insert?_isSome
      (r := ({ id := env.nodeId, ip, registeredAt := env.now } : Node)) fresh
    simp only [inserted]
    exact ⟨_, nodes, rfl⟩

theorem insertContainers_rows {node : NodeId} {items : List RunningContainerInfo}
    {table table' : Table RunningContainer.containerId}
    (done : insertContainers node items table = some table') :
    table'.rows = table.rows ++ items.map (containerRow node) := by
  induction items generalizing table with
  | nil =>
      cases done
      simp
  | cons item rest ih =>
      obtain ⟨inserted, insertion, others⟩ := Option.bind_eq_some_iff.mp done
      rw [ih others, Table.insert?_rows insertion]
      simp

theorem insertContainers_isSome (node : NodeId) {items : List RunningContainerInfo}
    {table : Table RunningContainer.containerId} (distinct : (items.map (·.containerId)).Nodup)
    (free : ∀ item ∈ items, table.get item.containerId = none) :
    ∃ table', insertContainers node items table = some table' := by
  induction items generalizing table with
  | nil => exact ⟨table, rfl⟩
  | cons item rest ih =>
      rw [List.map_cons, List.nodup_cons] at distinct
      obtain ⟨inserted, insertion⟩ :=
        Table.insert?_isSome (r := containerRow node item) (free item List.mem_cons_self)
      simp only [insertContainers, insertion, Option.bind_some]
      apply ih distinct.2
      intro other inside
      rw [Table.get_insert? insertion, if_neg]
      · exact free other (List.mem_cons_of_mem _ inside)
      · intro same
        exact distinct.1 (List.mem_map.mpr ⟨other, inside, same⟩)

theorem upsertGpus_isSome (env : Env) (node : NodeId) {existing : List Int} (active : List Int)
    {infos : List GpuInfo} {table : Table GpuDevice.slot} (distinct : (infos.map (·.index)).Nodup)
    (free : ∀ info ∈ infos, info.index ∉ existing → table.get (node, info.index) = none) :
    ∃ table', upsertGpus env node existing active infos table = some table' := by
  induction infos generalizing table with
  | nil => exact ⟨table, rfl⟩
  | cons info rest ih =>
      rw [List.map_cons, List.nodup_cons] at distinct
      have apart : ∀ other ∈ rest, (node, other.index) ≠ (node, info.index) := by
        intro other inside same
        exact distinct.1 (List.mem_map.mpr ⟨other, inside, (Prod.mk.inj same).2⟩)
      rw [upsertGpus]
      split
      · apply ih distinct.2
        intro other inside new
        rw [Table.get_update _ _ _ (measured_slot active info), if_neg (apart other inside)]
        exact free other (List.mem_cons_of_mem _ inside) new
      · rename_i new
        obtain ⟨inserted, insertion⟩ := Table.insert?_isSome (t := table)
          (r := measured active info { id := env.gpuId info.index, nodeId := node, gpuIndex := info.index })
          (free info List.mem_cons_self new)
        rw [insertion, Option.bind_some]
        apply ih distinct.2
        intro other inside new
        rw [Table.get_insert? insertion]
        exact (if_neg (apart other inside)).trans (free other (List.mem_cons_of_mem _ inside) new)

/-- A heartbeat that fits and breaks no unique constraint is accepted exactly when every
    container it reports carries no task id or a known one. -/
theorem handleHeartbeat_isSome {env : Env} {payload : HeartbeatPayload} {db : Database} {node : Node}
    {nodes : Table Node.id} (fits : payload.fits = true) (located : findNode env payload.ip db = some (node, nodes))
    (ids : (payload.runningContainers.map (·.containerId)).Nodup)
    (free : ∀ item ∈ payload.runningContainers, ∀ row ∈ db.runningContainers.rows,
      row.containerId = item.containerId → row.nodeId = node.id)
    (indices : (payload.gpus.map (·.index)).Nodup) :
    (handleHeartbeat env payload db).isSome = payload.runningContainers.all (taskKnown db) := by
  have vacant : ∀ item ∈ payload.runningContainers,
      (db.runningContainers.deleteWhere fun row => row.nodeId = node.id).get item.containerId = none := by
    intro item inside
    rw [Table.get_deleteWhere]
    cases found : db.runningContainers.get item.containerId with
    | none => rfl
    | some row =>
        have own := free item inside row (Table.mem_of_get found) (Table.key_of_get found)
        simp [own]
  have unseen : ∀ info ∈ payload.gpus, info.index ∉ existingIndices node.id db →
      db.gpus.get (node.id, info.index) = none := by
    intro info _ new
    rw [Table.get_eq_none]
    intro gpu inside same
    apply new
    obtain ⟨here, index⟩ := Prod.mk.inj same
    exact List.mem_map.mpr ⟨gpu, List.mem_filter.mpr ⟨inside, decide_eq_true here⟩, index⟩
  obtain ⟨containers, inserted⟩ := insertContainers_isSome node.id ids vacant
  obtain ⟨gpus, upserted⟩ := upsertGpus_isSome env node.id (activeGpuIndices payload) indices unseen
  simp only [handleHeartbeat_of_fits fits, writeHeartbeat, located, inserted, upserted]
  cases payload.runningContainers.all (taskKnown db) <;> rfl

end NodeService

end SuitApi
