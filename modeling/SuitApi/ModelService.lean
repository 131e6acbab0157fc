import Mathlib.Data.List.Sort
import Mathlib.Data.List.Infix
import SuitApi.Agent
import SuitApi.Text

/-! # The backend's model service

`deploy_model` allocates and launches one instance after the other and takes all
of them back when one fails.  It decides on GPUs from the rows its session shows
it, so the decision (`chooseGpus`) is a function of such a view; the operations
below run without a concurrent writer and view the database itself.
-/

namespace SuitApi

/-- The arguments of a `raise APIError(message, ...)` as they are written. -/
structure APIError where
  message : String
  statusCode : Option Int := none
  code : Option Int := none
  deriving Repr, DecidableEq

/-- What leaves an operation that raises: the arguments of the `raise APIError(...)` it
    has reached, or another exception. -/
inductive Raised where
  | apiError (error : APIError)
  | other (exc : String)
  deriving Repr, DecidableEq

structure ModelCreate where
  name : String
  containerImage : Option String := none
  launchCommand : Option String := none
  configJson : Option ModelConfig := none
  replicas : Int := 1
  gpuRequirement : Option String := none
  deriving Repr, DecidableEq

/-- The fields of `ModelUpdate` that reach a modelled column or a `NOT NULL` one; an unset
    field is `none`, and a field set to null is `some none`. -/
structure ModelUpdate where
  containerImage : Option (Option String) := none
  launchCommand : Option (Option String) := none
  configJson : Option (Option ModelConfig) := none
  status : Option (Option String) := none
  replicas : Option (Option Int) := none
  gpuRequirement : Option (Option String) := none
  apiFormat : Option (Option String) := none
  deriving Repr, DecidableEq

namespace ModelService

/-! ## create_model -/

def newModel (id : ModelId) (payload : ModelCreate) : Model where
  id := id
  name := payload.name
  containerImage := payload.containerImage
  launchCommand := payload.launchCommand
  configJson := payload.configJson
  replicas := payload.replicas
  gpuRequirement := payload.gpuRequirement

/-- `create_model`; `id` is the generated primary key. -/
def createModel (id : ModelId) (payload : ModelCreate) (db : Database) :
    Except APIError (Option Database) :=
  if db.models.rows.any fun model => model.name = payload.name then
    .error ⟨"Model name already exists", some 409, some 40901⟩
  else .ok ((db.models.insert? (newModel id payload)).map fun models => { db with models })

/-! ## get_model, update_model, delete_model, list_instances -/

def getModel (id : ModelId) (db : Database) : Except APIError Model :=
  match db.models.get id with
  | none => .error ⟨"Model not found", some 404, some 40401⟩
  | some model => .ok model

/-- The loop of `setattr` calls over the fields that are set. -/
def updated (payload : ModelUpdate) (model : Model) : Model :=
  { model with
    containerImage := payload.containerImage.getD model.containerImage
    launchCommand := payload.launchCommand.getD model.launchCommand
    configJson := payload.configJson.getD model.configJson
    status := (payload.status.bind id).getD model.status
    replicas := (payload.replicas.bind id).getD model.replicas
    gpuRequirement := payload.gpuRequirement.getD model.gpuRequirement }

theorem updated_id (payload : ModelUpdate) (model : Model) : (updated payload model).id = model.id := rfl

/-- The columns `status`, `replicas` and `api_format` take no null. -/
def nullsRequired (payload : ModelUpdate) : Bool :=
  payload.status = some none || payload.replicas = some none || payload.apiFormat = some none

/-- `update_model`, or `none` where its commit fails. -/
def updateModel (id : ModelId) (payload : ModelUpdate) (db : Database) : Except APIError (Option Database) :=
  match getModel id db with
  | .error refusal => .error refusal
  | .ok model =>
      if nullsRequired payload then .ok none
      else .ok (some { db with models := db.models.update model.id (updated payload) (updated_id payload) })

/-- `model.instances`. -/
def instancesOf (id : ModelId) (db : Database) : List ModelInstance :=
  db.modelInstances.rows.filter fun row => row.modelId = id

def deleteModel (id : ModelId) (db : Database) : Except APIError Database :=
  match db.models.get id with
  | none => .error ⟨"Model not found", some 404, some 40401⟩
  | some model =>
      if instancesOf id db ≠ [] then .error ⟨"Model is still deployed", some 409, some 40902⟩
      else .ok { db with models := db.models.deleteWhere fun row => row.id = model.id }

/-- `list_instances`; `startedAt` is the column `started_at`. -/
def listInstances (startedAt : InstanceId → Time) (id : ModelId) (db : Database) :
    Except APIError (List ModelInstance) :=
  match getModel id db with
  | .error refusal => .error refusal
  | .ok _ => .ok ((instancesOf id db).insertionSort fun a b => startedAt b.id ≤ startedAt a.id)

structure Allocation where
  nodeId : NodeId
  nodeIp : String
  agentPort : Int
  gpuIndices : List Int
  port : Int
  deriving Repr, DecidableEq

/-! ## The GPU requirement -/

/-- Decimal digits as a number. -/
def digitsNumber (digits : List Char) : Nat :=
  digits.foldl (fun acc c => acc * 10 + (digitOf c).getD 0) 0

/-- `re.match(r"\s*(\d+)\s*x?\s*(.*)\s*$", text)`: the two groups.  Every part takes
    all it can, and giving some of it back never helps the match. -/
def matchRequirement (text : List Char) : Option (List Char × List Char) :=
  let start := text.dropWhile isPySpace
  let digits := start.takeWhile fun c => (digitOf c).isSome
  let rest := (start.drop digits.length).dropWhile isPySpace
  let afterX := if rest.head? = some 'x' then rest.tail else rest
  let model := afterX.dropWhile isPySpace
  let line := model.takeWhile (· ≠ '\n')
  if digits.isEmpty then none
  else if (model.drop line.length).all isPySpace then some (digits, line)
  else none

def parseGpuRequirement (gpuRequirement : Option String) : Nat × Option String :=
  match truthyText gpuRequirement with
  | none => (1, none)
  | some text =>
      match matchRequirement text.toList with
      | none => (1, some text)
      | some (digits, line) =>
          (max (digitsNumber digits) 1, truthyText (some (String.ofList (strip line))))

/-! ## The choice of GPUs -/

/-- `ORDER BY last_heartbeat DESC NULLS LAST, registered_at ASC`. -/
def fresherOrEqual (a b : Node) : Bool :=
  match a.lastHeartbeat, b.lastHeartbeat with
  | some beat, some beat' => beat' < beat || (beat = beat' && a.registeredAt ≤ b.registeredAt)
  | some _, none => true
  | none, some _ => false
  | none, none => a.registeredAt ≤ b.registeredAt

def deploymentNodes (db : Database) : List Node :=
  (db.nodes.rows.filter fun node => node.status = .online || node.status = .maintenance).insertionSort
    fun a b => fresherOrEqual a b

/-- `node.gpus`, in the order of the relationship. -/
def gpusOf (db : Database) (node : NodeId) : List GpuDevice :=
  (db.gpus.rows.filter fun gpu => gpu.nodeId = node).insertionSort fun a b => a.gpuIndex ≤ b.gpuIndex

def suits (lower : String → String) (hint : Option String) (gpu : GpuDevice) : Bool :=
  gpu.status = .idle &&
    match truthyText hint with
    | none => true
    | some hint => (lower hint).toList <:+: (lower (gpu.gpuModel.getD "")).toList

def lessUsed (a b : GpuDevice) : Bool :=
  a.utilization < b.utilization || (a.utilization = b.utilization && a.gpuIndex ≤ b.gpuIndex)

/-- The loop of `_allocate_for_model` over the nodes and their GPUs as the session
    shows them. -/
def chooseGpus (lower : String → String) (count : Nat) (hint : Option String) :
    List (Node × List GpuDevice) → Option (Node × List GpuDevice)
  | [] => none
  | (node, gpus) :: rest =>
      let available := gpus.filter (suits lower hint)
      if available.length < count then chooseGpus lower count hint rest
      else some (node, (available.insertionSort fun a b => lessUsed a b).take count)

def nextPortFrom (used : List Int) : Nat → Int → Int
  | 0, port => port
  | fuel + 1, port => if port ∈ used then nextPortFrom used fuel (port + 1) else port

/-- `_next_host_port`: more ports than there are instances need not be tried. -/
def nextHostPort (db : Database) (node : NodeId) : Int :=
  let used := (db.modelInstances.rows.filter fun row => row.nodeId = node).filterMap (·.port)
  nextPortFrom used used.length 8001

/-- `_allocate_for_model`, before its flush; `view` gives the GPUs of a node as the
    session shows them. -/
def allocateFrom (lower : String → String) (model : Model) (db : Database)
    (view : NodeId → List GpuDevice) : Except APIError Allocation :=
  let (count, hint) := parseGpuRequirement model.gpuRequirement
  let nodes := deploymentNodes db
  if nodes.isEmpty then .error ⟨"No available node for deployment", some 409, some 40904⟩
  else
    match chooseGpus lower count hint (nodes.map fun node => (node, view node.id)) with
    | none => .error ⟨"Insufficient GPU resources for deployment", some 409, some 40905⟩
    | some (node, gpus) =>
        .ok ⟨node.id, node.ip, node.agentPort, gpus.map (·.gpuIndex), nextHostPort db node.id⟩

/-- `_allocate_for_model` in a session that shows the database as it is. -/
def allocateForModel (lower : String → String) (model : Model) (db : Database) :
    Except APIError Allocation :=
  allocateFrom lower model db (gpusOf db)

def setGpus (status : GpuStatus) (node : NodeId) (indices : List Int) (db : Database) : Database :=
  { db with
    gpus := db.gpus.updateWhere (fun gpu => gpu.nodeId = node && indices.contains gpu.gpuIndex)
      (GpuDevice.withStatus status) (GpuDevice.withStatus_slot status) }

/-! ## Talking to the agents -/

/-- What `POST /api/run` did and what came back. -/
inductive RunResponse where
  | raised (exc : String)
  | refused (text : String)
  | accepted (containerId : Option ContainerId)
  deriving Repr, DecidableEq

/-- What happens to one call of `POST /api/stop`. -/
inductive StopCall where
  | unreachable (exc : String)
  /-- The agent executes the request, and its answer does not arrive. -/
  | lost (exc : String)
  /-- Docker fails, and the container stays as it is. -/
  | dockerFailed (text : String)
  /-- Docker stops the container and fails to remove it; the answer may not arrive. -/
  | halted (answer : Except String String)
  /-- Docker succeeds for a container that exists. -/
  | served
  deriving Repr

inductive StopResponse where
  | raised (exc : String)
  | refused (text : String)
  | stopped
  deriving Repr, DecidableEq

def isContainer (nodeIp : String) (id : ContainerId) (c : Container) : Bool :=
  c.nodeIp = nodeIp && c.containerId = id

/-- `container.stop`. -/
def halt (nodeIp : String) (id : ContainerId) (c : Container) : Container :=
  if isContainer nodeIp id c && c.alive then { c with status := .exited } else c

/-- `stop_container` of the agent at the address, and the containers it leaves. -/
def agentStop (call : StopCall) (nodeIp : String) (id : ContainerId) (containers : List Container) :
    StopResponse × List Container :=
  let removed := containers.filter fun c => !isContainer nodeIp id c
  match call with
  | .unreachable exc => (.raised exc, containers)
  | .lost exc => (.raised exc, removed)
  | .dockerFailed text => (.refused text, containers)
  | .halted (.error exc) => (.raised exc, containers.map (halt nodeIp id))
  | .halted (.ok text) => (.refused text, containers.map (halt nodeIp id))
  | .served =>
      if containers.any (isContainer nodeIp id) then (.stopped, removed)
      else (.refused "\x7b\"detail\":\"container not found\"\x7d", containers)

/-- The answers one replica meets, and the key its instance gets. -/
structure ReplicaEnv where
  instanceId : InstanceId
  started : Option ContainerId := none
  response : RunResponse
  healthy : Bool := true
  deriving Repr, DecidableEq

structure Settings where
  defaultModelContainerPort : Int := 8000
  defaultAgentPort : Int := 9000

/-- The surroundings of one deployment. -/
structure Env where
  lower : String → String := String.toLower
  settings : Settings := {}
  replica : Nat → ReplicaEnv
  /-- What happens to a stop request for the container. -/
  stopped : ContainerId → StopCall := fun _ => .served

/-- What the deployment sees and changes: the committed rows, the containers, and
    the containers for which a stop request was sent. -/
structure State where
  db : Database
  containers : List Container := []
  stopRequests : List ContainerId := []

/-- The task id that `_launch_model_instance` sends. -/
def replicaLabel (model : ModelId) (replica : Nat) : String :=
  "model-" ++ model ++ "-" ++ toString replica

def runRequest (settings : Settings) (model : Model) (a : Allocation) (replica : Nat) : RunRequest where
  taskId := replicaLabel model.id replica
  image := model.containerImage.getD ""
  gpus := a.gpuIndices
  command := model.launchCommand.getD ""
  ports := [(toString a.port, (model.configJson.bind (·.containerPort)).getD
    settings.defaultModelContainerPort)]
  env := (model.configJson.map (·.env)).getD []
  volumes := (model.configJson.map (·.volumes)).getD []

def start (env : Env) (model : Model) (a : Allocation) (replica : Nat) (s : State) : State :=
  { s with
    containers := s.containers ++ ((env.replica replica).started.map fun id =>
      ContainerTracker.runContainer a.nodeIp id (runRequest env.settings model a replica)).toList }

/-- `_stop_instance`, whose exceptions are swallowed wherever a deployment fails. -/
def stopInstance (env : Env) (row : ModelInstance) (s : State) : State :=
  match s.db.nodes.get row.nodeId, truthyText row.containerId with
  | some node, some id =>
      { s with
        containers := (agentStop (env.stopped id) node.ip id s.containers).2
        stopRequests := s.stopRequests ++ [id] }
  | _, _ => s

/-- Release the GPUs of a stored instance and delete its row, in one commit. -/
def releaseInstance (id : InstanceId) (db : Database) : Database :=
  match db.modelInstances.get id with
  | none => db
  | some row =>
      { setGpus .idle row.nodeId (row.assignedGpuIndices.getD []) db with
        modelInstances := db.modelInstances.deleteWhere fun row => row.id = id }

def dropInstance (id : InstanceId) (s : State) : State := { s with db := releaseInstance id s.db }

def setModelStatus (status : String) (model : Model) : Model := { model with status }

theorem setModelStatus_id (status : String) (model : Model) :
    (setModelStatus status model).id = model.id := rfl

def markModel (id : ModelId) (status : String) (db : Database) : Database :=
  { db with models := db.models.update id (setModelStatus status) (setModelStatus_id status) }

def setInstanceStatus (status : String) (row : ModelInstance) : ModelInstance := { row with status }

theorem setInstanceStatus_id (status : String) (row : ModelInstance) :
    (setInstanceStatus status row).id = row.id := rfl

def markInstance (id : InstanceId) (status : String) (db : Database) : Database :=
  { db with
    modelInstances := db.modelInstances.update id (setInstanceStatus status) (setInstanceStatus_id status) }

/-! ## deploy_model -/

/-- The row `_launch_model_instance` adds. -/
def newInstance (id : InstanceId) (model : ModelId) (a : Allocation) (containerId : Option ContainerId) :
    ModelInstance where
  id := id
  modelId := model
  nodeId := a.nodeId
  containerId := containerId
  assignedGpuIndices := some a.gpuIndices
  port := some a.port
  status := "starting"
  apiEndpoint := some ("http://" ++ a.nodeIp ++ ":" ++ toString a.port)

/-- The commit of a new instance together with its GPUs. -/
def storeInstance (row : ModelInstance) (a : Allocation) (db : Database) : Option Database :=
  (db.modelInstances.insert? row).map fun modelInstances =>
    { setGpus .allocated a.nodeId a.gpuIndices db with modelInstances }

/-- `_launch_model_instance`: the new instance, or `none` where it raises.  The
    allocation is committed together with the instance. -/
def launchModelInstance (env : Env) (model : Model) (a : Allocation) (replica : Nat) (s : State) :
    Option ModelInstance × State :=
  let reply := env.replica replica
  let called := start env model a replica s
  match reply.response with
  | .raised _ | .refused _ => (none, called)
  | .accepted containerId =>
      let row := newInstance reply.instanceId model.id a containerId
      match storeInstance row a called.db with
      | none => (none, called)
      | some db =>
          let stored := { called with db }
          if reply.healthy then (some row, { stored with db := markInstance row.id "running" stored.db })
          else (none, dropInstance row.id (stopInstance env row stored))

/-- The replica loop, with the instances created so far; `false` where it raises. -/
def deployReplicas (env : Env) (model : Model) : List Nat → List ModelInstance → State →
    Bool × List ModelInstance × State
  | [], created, s => (true, created, s)
  | replica :: rest, created, s =>
      match allocateForModel env.lower model s.db with
      | .error _ => (false, created, s)
      | .ok a =>
          match launchModelInstance env model a replica s with
          | (none, s') => (false, created, s')
          | (some row, s') => deployReplicas env model rest (created ++ [row]) s'

/-- `_cleanup_partial_instances`. -/
def cleanupPartialInstances (env : Env) : List ModelInstance → State → State
  | [], s => s
  | row :: rest, s => cleanupPartialInstances env rest (dropInstance row.id (stopInstance env row s))

def deployGuard (id : ModelId) (db : Database) : Except APIError Model :=
  match db.models.get id with
  | none => .error ⟨"Model not found", some 404, some 40401⟩
  | some model =>
      if truthyText model.containerImage = none then
        .error ⟨"Model container_image is required for deployment", none, none⟩
      else if truthyText model.launchCommand = none then
        .error ⟨"Model launch_command is required for deployment", none, none⟩
      else if db.modelInstances.rows.any fun row =>
          row.modelId = id && (row.status = "starting" || row.status = "running") then
        .error ⟨"Model is already deployed", some 409, some 40903⟩
      else .ok model

/-- `deploy_model`: whether it succeeded, and the state it leaves. -/
def deployModel (env : Env) (id : ModelId) (s : State) : Bool × State :=
  match deployGuard id s.db with
  | .error _ => (false, s)
  | .ok model =>
      let deploying := { s with db := markModel id "deploying" s.db }
      match deployReplicas env model (List.range (max model.replicas 1).toNat) [] deploying with
      | (true, _, s') => (true, { s' with db := markModel id "online" s'.db })
      | (false, created, s') =>
          let cleaned := cleanupPartialInstances env created s'
          (false, { cleaned with db := markModel id "error" cleaned.db })

/-! ## stop_model -/

/-- `_stop_instance` where its exceptions count; `calls` says what happens to the call
    for each instance. -/
def callStop (calls : InstanceId → StopCall) (row : ModelInstance) (s : State) : Except Raised Unit × State :=
  match s.db.nodes.get row.nodeId, truthyText row.containerId with
  | some node, some id =>
      let (response, containers) := agentStop (calls row.id) node.ip id s.containers
      let called := { s with containers, stopRequests := s.stopRequests ++ [id] }
      match response with
      | .raised exc => (.error (.other exc), called)
      | .refused text => (.error (.apiError ⟨"Agent stop failed: " ++ text, some 502, some 50203⟩), called)
      | .stopped => (.ok (), called)
  | _, _ => (.ok (), s)

/-- The loop of `stop_model`, in its open transaction. -/
def stopInstances (calls : InstanceId → StopCall) : List ModelInstance → State → Except Raised Unit × State
  | [], s => (.ok (), s)
  | row :: rest, s =>
      match callStop calls row s with
      | (.error raised, s') => (.error raised, s')
      | (.ok _, s') => stopInstances calls rest (dropInstance row.id s')

/-- `stop_model`; where it raises, nothing is committed, and containers that are gone stay
    gone. -/
def stopModel (calls : InstanceId → StopCall) (id : ModelId) (s : State) : Except Raised Unit × State :=
  match s.db.models.get id with
  | none => (.error (.apiError ⟨"Model not found", some 404, some 40401⟩), s)
  | some _ =>
      match stopInstances calls (instancesOf id s.db) s with
      | (.error raised, s') => (.error raised, { s' with db := s.db })
      | (.ok _, s') => (.ok (), { s' with db := markModel id "offline" s'.db })

/-! ## What a decision rests on -/

theorem mem_gpusOf {db : Database} {node : NodeId} {gpu : GpuDevice} :
    gpu ∈ gpusOf db node ↔ gpu ∈ db.gpus.rows ∧ gpu.nodeId = node := by
  simp [gpusOf, List.mem_insertionSort]

theorem suits_idle {lower : String → String} {hint : Option String} {gpu : GpuDevice}
    (chosen : suits lower hint gpu = true) : gpu.status = .idle := by
  rw [suits, Bool.and_eq_true] at chosen
  exact of_decide_eq_true chosen.1

theorem chooseGpus_spec {lower : String → String} {count : Nat} {hint : Option String}
    {nodes : List (Node × List GpuDevice)} {node : Node} {gpus : List GpuDevice}
    (chosen : chooseGpus lower count hint nodes = some (node, gpus)) :
    ∃ shown, (node, shown) ∈ nodes ∧ ∀ gpu ∈ gpus, gpu ∈ shown ∧ gpu.status = .idle := by
  induction nodes with
  | nil => cases chosen
  | cons first rest ih =>
      obtain ⟨head, shown⟩ := first
      rw [chooseGpus] at chosen
      split at chosen
      · obtain ⟨others, inside, idle⟩ := ih chosen
        exact ⟨others, List.mem_cons_of_mem _ inside, idle⟩
      · cases chosen
        refine ⟨shown, List.mem_cons_self, ?_⟩
        intro gpu taken
        have sorted := List.mem_of_mem_take taken
        rw [List.mem_insertionSort, List.mem_filter] at sorted
        exact ⟨sorted.1, suits_idle sorted.2⟩

/-- An allocation consists of GPUs that the session shows as idle. -/
theorem allocateFrom_spec {lower : String → String} {model : Model} {db : Database}
    {view : NodeId → List GpuDevice} {a : Allocation}
    (granted : allocateFrom lower model db view = .ok a) :
    ∀ index ∈ a.gpuIndices, ∃ gpu ∈ view a.nodeId, gpu.gpuIndex = index ∧ gpu.status = .idle := by
  unfold allocateFrom at granted
  simp only at granted
  split at granted
  · cases granted
  · split at granted
    · cases granted
    · rename_i node gpus chosen
      cases granted
      obtain ⟨shown, inside, idle⟩ := chooseGpus_spec chosen
      obtain ⟨other, _, same⟩ := List.mem_map.mp inside
      obtain ⟨rfl, rfl⟩ := Prod.mk.inj same
      intro index taken
      obtain ⟨gpu, here, rfl⟩ := List.mem_map.mp taken
      exact ⟨gpu, (idle gpu here).1, rfl, (idle gpu here).2⟩

theorem setGpus_get (status : GpuStatus) (a : NodeId) (indices : List Int) (db : Database) (node : NodeId)
    (index : Int) :
    (setGpus status a indices db).gpus.get (node, index) =
      (db.gpus.get (node, index)).map fun gpu =>
        if node = a ∧ index ∈ indices then gpu.withStatus status else gpu :=
  GpuAllocator.mark_get db ⟨a, "", 0, indices⟩ status node index

theorem storeInstance_spec {row : ModelInstance} {a : Allocation} {db db' : Database}
    (stored : storeInstance row a db = some db') :
    db'.gpus = (setGpus .allocated a.nodeId a.gpuIndices db).gpus ∧ db'.tasks = db.tasks ∧
      db'.modelInstances.rows = db.modelInstances.rows ++ [row] := by
  obtain ⟨modelInstances, inserted, rfl⟩ := Option.map_eq_some_iff.mp stored
  exact ⟨rfl, rfl, Table.insert?_rows inserted⟩

theorem storeInstance_isSome (row : ModelInstance) (a : Allocation) {db : Database}
    (fresh : db.modelInstances.get row.id = none) : ∃ db', storeInstance row a db = some db' := by
  obtain ⟨modelInstances, inserted⟩ := Table.insert?_isSome (r := row) fresh
  exact ⟨_, by rw [storeInstance, inserted]; rfl⟩

theorem storeInstance_frame {row : ModelInstance} {a : Allocation} {db db' : Database}
    (stored : storeInstance row a db = some db') : db'.nodes = db.nodes ∧ db'.models = db.models := by
  obtain ⟨modelInstances, inserted, rfl⟩ := Option.map_eq_some_iff.mp stored
  exact ⟨rfl, rfl⟩

/-- The GPUs that are granted are idle rows of the database. -/
theorem allocateForModel_idle {lower : String → String} {model : Model} {db : Database} {a : Allocation}
    (granted : allocateForModel lower model db = .ok a) {index : Int} (inside : index ∈ a.gpuIndices) :
    ∃ gpu, db.gpus.get (a.nodeId, index) = some gpu ∧ gpu.status = .idle := by
  obtain ⟨gpu, shown, rfl, idle⟩ := allocateFrom_spec granted index inside
  obtain ⟨member, here⟩ := mem_gpusOf.mp shown
  refine ⟨gpu, ?_, idle⟩
  rw [← here]
  exact Table.get_of_mem member

theorem chooseGpus_node {lower : String → String} {count : Nat} {hint : Option String}
    {nodes : List (Node × List GpuDevice)} {node : Node} {gpus : List GpuDevice}
    (chosen : chooseGpus lower count hint nodes = some (node, gpus)) : node ∈ nodes.map Prod.fst := by
  obtain ⟨shown, inside, _⟩ := chooseGpus_spec chosen
  exact List.mem_map_of_mem inside

/-- An allocation is on a node of the database, on its lowest free port. -/
theorem allocateForModel_node {lower : String → String} {model : Model} {db : Database} {a : Allocation}
    (granted : allocateForModel lower model db = .ok a) :
    (∃ node, db.nodes.get a.nodeId = some node ∧ node.ip = a.nodeIp) ∧ a.port = nextHostPort db a.nodeId := by
  unfold allocateForModel allocateFrom at granted
  simp only at granted
  split at granted
  · cases granted
  · split at granted
    · cases granted
    · rename_i node gpus chosen
      cases granted
      have inside := chooseGpus_node chosen
      rw [List.map_map] at inside
      obtain ⟨other, member, rfl⟩ := List.mem_map.mp inside
      rw [deploymentNodes, List.mem_insertionSort, List.mem_filter] at member
      exact ⟨⟨other, Table.get_of_mem member.1, rfl⟩, rfl⟩

/-- Releasing a stored instance idles the GPUs it lists and removes its row. -/
theorem releaseInstance_spec {db : Database} {row : ModelInstance} {before after : List ModelInstance}
    (split : db.modelInstances.rows = before ++ row :: after) :
    (releaseInstance row.id db).modelInstances.rows = before ++ after ∧
      (releaseInstance row.id db).nodes = db.nodes ∧ (releaseInstance row.id db).models = db.models ∧
      ∀ node index, (releaseInstance row.id db).gpus.get (node, index) =
        (db.gpus.get (node, index)).map fun gpu =>
          if row.Lists node index then gpu.withStatus .idle else gpu := by
  have found : db.modelInstances.get row.id = some row := Table.get_of_mem (by simp [split])
  rw [releaseInstance, found]
  refine ⟨Table.deleteWhere_rows_of_split split, rfl, rfl, fun node index => ?_⟩
  refine (setGpus_get .idle row.nodeId _ db node index).trans ?_
  simp only [ModelInstance.Lists, eq_comm]

/-! ## What a deployment does to the rest -/

/-- A stop removes containers or changes their status. -/
theorem mem_agentStop {call : StopCall} {nodeIp : String} {id : ContainerId} {containers : List Container}
    {c : Container} (inside : c ∈ (agentStop call nodeIp id containers).2) :
    ∃ old ∈ containers, { old with status := c.status } = c := by
  have same : c ∈ containers → ∃ old ∈ containers, { old with status := c.status } = c := fun old => ⟨c, old, rfl⟩
  have halted : c ∈ containers.map (halt nodeIp id) → ∃ old ∈ containers, { old with status := c.status } = c := by
    intro inside
    obtain ⟨old, member, rfl⟩ := List.mem_map.mp inside
    refine ⟨old, member, ?_⟩
    unfold halt
    split <;> rfl
  cases call with
  | unreachable | dockerFailed => exact same inside
  | lost => exact same (List.mem_of_mem_filter inside)
  | halted answer => cases answer <;> exact halted inside
  | served =>
      rw [agentStop] at inside
      split at inside
      · exact same (List.mem_of_mem_filter inside)
      · exact same inside

/-- A stop leaves the other containers alone. -/
theorem agentStop_keeps {call : StopCall} {nodeIp : String} {id : ContainerId} {containers : List Container}
    {c : Container} (inside : c ∈ containers) (other : isContainer nodeIp id c = false) :
    c ∈ (agentStop call nodeIp id containers).2 := by
  have left : c ∈ containers.filter fun c => !isContainer nodeIp id c :=
    List.mem_filter.mpr ⟨inside, by rw [other, Bool.not_false]⟩
  have halted : c ∈ containers.map (halt nodeIp id) :=
    List.mem_map.mpr ⟨c, inside, by rw [halt, other, Bool.false_and, if_neg Bool.false_ne_true]⟩
  cases call with
  | unreachable | dockerFailed => exact inside
  | lost => exact left
  | halted answer => cases answer <;> exact halted
  | served =>
      rw [agentStop]
      split
      · exact left
      · exact inside

/-- A deployment writes no task, node or container row, and changes containers in their
    status at most; those it starts are labelled as replicas. -/
structure Extends (s s' : State) : Prop where
  tasks : s'.db.tasks = s.db.tasks
  nodes : s'.db.nodes = s.db.nodes
  runningContainers : s'.db.runningContainers = s.db.runningContainers
  containers : ∀ c ∈ s'.containers, (∃ old ∈ s.containers, { old with status := c.status } = c) ∨
    ∃ model replica, c.taskId = some (replicaLabel model replica)

/-- What writes instances, GPUs and models only. -/
theorem Extends.of_eq {s s' : State} (tasks : s'.db.tasks = s.db.tasks) (nodes : s'.db.nodes = s.db.nodes)
    (runningContainers : s'.db.runningContainers = s.db.runningContainers) (containers : s'.containers = s.containers) :
    Extends s s' := ⟨tasks, nodes, runningContainers, fun c inside => .inl ⟨c, containers ▸ inside, rfl⟩⟩

theorem Extends.refl (s : State) : Extends s s := .of_eq rfl rfl rfl rfl

theorem Extends.trans {s s' s'' : State} (first : Extends s s') (second : Extends s' s'') :
    Extends s s'' where
  tasks := second.tasks.trans first.tasks
  nodes := second.nodes.trans first.nodes
  runningContainers := second.runningContainers.trans first.runningContainers
  containers := by
    intro c inside
    rcases second.containers c inside with ⟨old, member, same⟩ | new
    · rcases first.containers old member with ⟨older, member', same'⟩ | ⟨model, replica, label⟩
      · left
        refine ⟨older, member', ?_⟩
        rw [← same, ← same']
      · right
        refine ⟨model, replica, ?_⟩
        rw [← same]
        exact label
    · exact .inr new

theorem start_extends (env : Env) (model : Model) (a : Allocation) (replica : Nat) (s : State) :
    Extends s (start env model a replica s) where
  tasks := rfl
  nodes := rfl
  runningContainers := rfl
  containers := by
    intro c inside
    rcases List.mem_append.mp inside with old | new
    · exact .inl ⟨c, old, rfl⟩
    · rw [Option.mem_toList] at new
      obtain ⟨id, _, rfl⟩ := Option.map_eq_some_iff.mp new
      exact .inr ⟨model.id, replica, rfl⟩

theorem stopInstance_extends (env : Env) (row : ModelInstance) (s : State) :
    Extends s (stopInstance env row s) := by
  unfold stopInstance
  split
  · exact ⟨rfl, rfl, rfl, fun c inside => .inl (mem_agentStop inside)⟩
  · exact .refl s

theorem dropInstance_extends (id : InstanceId) (s : State) : Extends s (dropInstance id s) := by
  unfold dropInstance releaseInstance
  split <;> exact .of_eq rfl rfl rfl rfl

theorem launchModelInstance_extends (env : Env) (model : Model) (a : Allocation) (replica : Nat)
    (s : State) : Extends s (launchModelInstance env model a replica s).2 := by
  have started := start_extends env model a replica s
  unfold launchModelInstance
  simp only
  split
  · exact started
  · exact started
  · split
    · exact started
    · rename_i db committed
      obtain ⟨modelInstances, _, rfl⟩ := Option.map_eq_some_iff.mp committed
      have stored : Extends (start env model a replica s) { start env model a replica s with
          db := { setGpus .allocated a.nodeId a.gpuIndices (start env model a replica s).db with
            modelInstances } } := .of_eq rfl rfl rfl rfl
      split
      · exact (started.trans stored).trans (.of_eq rfl rfl rfl rfl)
      · exact ((started.trans stored).trans (stopInstance_extends env _ _)).trans (dropInstance_extends _ _)

theorem deployReplicas_extends (env : Env) (model : Model) (replicas : List Nat)
    (created : List ModelInstance) (s : State) :
    Extends s (deployReplicas env model replicas created s).2.2 := by
  induction replicas generalizing created s with
  | nil => exact .refl s
  | cons replica rest ih =>
      rw [deployReplicas]
      split
      · exact .refl s
      · rename_i a _
        have launched := launchModelInstance_extends env model a replica s
        split
        · rename_i s' failed
          rw [failed] at launched
          exact launched
        · rename_i row s' done
          rw [done] at launched
          exact launched.trans (ih _ _)

theorem cleanupPartialInstances_extends (env : Env) (created : List ModelInstance) (s : State) :
    Extends s (cleanupPartialInstances env created s) := by
  induction created generalizing s with
  | nil => exact .refl s
  | cons row rest ih =>
      exact ((stopInstance_extends env row s).trans (dropInstance_extends _ _)).trans (ih _)

theorem deployModel_extends (env : Env) (id : ModelId) (s : State) :
    Extends s (deployModel env id s).2 := by
  unfold deployModel
  split
  · exact .refl s
  · rename_i model _
    have marked : ∀ (status : String) (t : State), Extends t { t with db := markModel id status t.db } :=
      fun _ _ => .of_eq rfl rfl rfl rfl
    have replicas := (marked "deploying" s).trans (deployReplicas_extends env model
      (List.range (max model.replicas 1).toNat) [] { s with db := markModel id "deploying" s.db })
    simp only
    split
    · rename_i created s' done
      rw [done] at replicas
      exact replicas.trans (marked "online" s')
    · rename_i created s' failed
      rw [failed] at replicas
      exact (replicas.trans (cleanupPartialInstances_extends env created s')).trans (marked "error" _)

/-! ## Invariants of the rows -/

/-- Each way in which a deployment or a stop writes GPU and instance rows keeps `P`. -/
structure Preserved (P : Database → Prop) : Prop where
  mark : ∀ id status db, P db → P (markModel id status db)
  store : ∀ lower model a id containerId db db', P db → allocateForModel lower model db = .ok a →
    storeInstance (newInstance id model.id a containerId) a db = some db' → P db'
  run : ∀ id status db, P db → P (markInstance id status db)
  release : ∀ id db, P db → P (releaseInstance id db)

namespace Preserved

variable {P : Database → Prop} (h : Preserved P)

include h

theorem launch {env : Env} {model : Model} {a : Allocation} (replica : Nat) {s : State} (before : P s.db)
    (granted : allocateForModel env.lower model s.db = .ok a) :
    P (launchModelInstance env model a replica s).2.db := by
  unfold launchModelInstance
  simp only
  split
  · exact before
  · exact before
  · split
    · exact before
    · rename_i db commit
      have stored := h.store env.lower model a _ _ s.db db before granted commit
      split
      · exact h.run _ _ _ stored
      · apply h.release
        unfold stopInstance
        split <;> exact stored

theorem loop (env : Env) (model : Model) (replicas : List Nat) (created : List ModelInstance) {s : State}
    (before : P s.db) : P (deployReplicas env model replicas created s).2.2.db := by
  induction replicas generalizing created s with
  | nil => exact before
  | cons replica rest ih =>
      rw [deployReplicas]
      split
      · exact before
      · rename_i a granted
        have launched := h.launch replica before granted
        split
        · rename_i s' failed
          rw [failed] at launched
          exact launched
        · rename_i row s' done
          rw [done] at launched
          exact ih _ launched

theorem cleanup (env : Env) (created : List ModelInstance) {s : State} (before : P s.db) :
    P (cleanupPartialInstances env created s).db := by
  induction created generalizing s with
  | nil => exact before
  | cons row rest ih =>
      apply ih
      apply h.release
      unfold stopInstance
      split <;> exact before

theorem deploy (env : Env) (id : ModelId) {s : State} (before : P s.db) : P (deployModel env id s).2.db := by
  unfold deployModel
  split
  · exact before
  · rename_i model passed
    have marked : P { s with db := markModel id "deploying" s.db }.db := h.mark id "deploying" s.db before
    have looped := h.loop env model (List.range (max model.replicas 1).toNat) [] marked
    simp only
    split
    · rename_i created s' done
      rw [done] at looped
      exact h.mark id "online" _ looped
    · rename_i created s' failed
      rw [failed] at looped
      exact h.mark id "error" _ (h.cleanup env created looped)

theorem stopLoop (calls : InstanceId → StopCall) (rows : List ModelInstance) {s : State} (before : P s.db) :
    P (stopInstances calls rows s).2.db := by
  induction rows generalizing s with
  | nil => exact before
  | cons row rest ih =>
      have called : (callStop calls row s).2.db = s.db := by
        unfold callStop
        split
        · simp only
          split <;> rfl
        · rfl
      rw [stopInstances]
      cases result : callStop calls row s with
      | mk answer s' =>
          rw [result] at called
          have same : s'.db = s.db := called
          cases answer with
          | error raised => exact same ▸ before
          | ok done => exact ih (h.release row.id s'.db (same ▸ before))

theorem stop (calls : InstanceId → StopCall) (id : ModelId) {s : State} (before : P s.db) :
    P (stopModel calls id s).2.db := by
  unfold stopModel
  split
  · exact before
  · have looped := h.stopLoop calls (instancesOf id s.db) before
    split
    · exact before
    · rename_i s' done
      rw [done] at looped
      exact h.mark id "offline" _ looped

end Preserved

end ModelService

end SuitApi
