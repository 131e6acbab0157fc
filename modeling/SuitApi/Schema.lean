import Mathlib.Data.Rat.Defs
import SuitApi.Library.Table

/-! # The relational schema shared by backend and scheduler

Rows keep the columns that some modelled function reads or writes.  The two
services map the same tables (`backend/app/models`, `scheduler/models.py`); where
they differ in a column, the common meaning is kept.  Timestamps are whole
microseconds, the resolution of the database.
-/

namespace SuitApi

abbrev TaskId := String
abbrev NodeId := String
abbrev UserId := String
abbrev ModelId := String
abbrev InstanceId := String
abbrev ContainerId := String

/-- Microseconds since the epoch. -/
abbrev Time := Int

/-! ## The values a column takes -/

/-- A `VARCHAR(n)` takes a longer text if only spaces are beyond its length. -/
def fitsVarchar (n : Nat) (text : String) : Bool :=
  (text.toList.drop n).all (· = ' ') && text.toList.all (· ≠ '\x00')

def cutVarchar (n : Nat) (text : String) : String := String.ofList (text.toList.take n)

/-- The text is stored in a `VARCHAR(n)` as it is. -/
def fitsUncut (n : Nat) (text : String) : Bool :=
  text.toList.length ≤ n && text.toList.all (· ≠ '\x00')

def fitsInteger (n : Int) : Bool := -2147483648 ≤ n && n ≤ 2147483647

/-! ## JSON columns -/

/-- A JSON value.  Arrays and objects below the top level are only ever copied,
    so they stand as their source text. -/
inductive Value where
  | null
  | bool (b : Bool)
  | int (n : Int)
  | float (q : ℚ)
  | str (text : String)
  | array (text : String)
  | object (text : String)
  deriving Repr, DecidableEq

/-- Python's truth value of a decoded JSON value. -/
def Value.truthy : Value → Bool
  | .null => false
  | .bool b => b
  | .int n => n ≠ 0
  | .float q => q ≠ 0
  | .str text => text ≠ ""
  | .array text => text ≠ "[]"
  | .object text => text ≠ "{}"

/-- A Python dictionary with string keys, in insertion order. -/
abbrev Dict := List (String × Value)

namespace Dict

def get (d : Dict) (key : String) : Option Value := d.lookup key

/-- `d[key] = value`: an existing key keeps its place. -/
def set (d : Dict) (key : String) (value : Value) : Dict :=
  if d.any (fun row => row.1 = key) then d.map fun row => if row.1 = key then (key, value) else row
  else d ++ [(key, value)]

theorem get_cons (row : String × Value) (d : Dict) (key : String) :
    get (row :: d) key = if row.1 = key then some row.2 else get d key := by
  obtain ⟨k, value⟩ := row
  by_cases here : k = key
  · simp [get, here]
  · have other : (key == k) = false := beq_false_of_ne (Ne.symm here)
    simp only [get, List.lookup_cons, other, if_neg here]

theorem get_append (first second : Dict) (key : String) :
    get (first ++ second) key = (get first key).or (get second key) := List.lookup_append

theorem get_map_set (d : Dict) (key : String) (value : Value) (key' : String) :
    get (d.map fun row => if row.1 = key then (key, value) else row) key' =
      if key' = key then (get d key).map fun _ => value else get d key' := by
  induction d with
  | nil => simp [get]
  | cons row rest ih =>
      rw [List.map_cons, get_cons, get_cons, get_cons, ih]
      by_cases here : row.1 = key
      · by_cases same : key' = key
        · simp [here, same]
        · simp [here, same, Ne.symm same]
      · by_cases same : key' = key
        · simp [here, same]
        · simp [here, same]

/-- Setting a key changes what is under that key only. -/
theorem get_set (d : Dict) (key : String) (value : Value) (key' : String) :
    get (set d key value) key' = if key' = key then some value else get d key' := by
  unfold set
  split
  · rename_i present
    have found : (get d key).isSome = true := by
      rw [get, List.lookup_isSome_iff]
      obtain ⟨row, inside, here⟩ := List.any_eq_true.mp present
      exact ⟨row, inside, by simpa using (of_decide_eq_true here).symm⟩
    rw [get_map_set]
    obtain ⟨old, found⟩ := Option.isSome_iff_exists.mp found
    rw [found, Option.map_some]
  · rename_i absent
    have missing : get d key = none := by
      rw [get, List.lookup_eq_none_iff]
      intro row inside
      rw [bne_iff_ne]
      intro here
      exact absent (List.any_eq_true.mpr ⟨row, inside, decide_eq_true here.symm⟩)
    rw [get_append, get_cons]
    by_cases same : key' = key
    · simp [same, missing]
    · simp [same, Ne.symm same, get]

end Dict

/-- `x or None` on a text column: the empty string counts as absent. -/
def truthyText (text : Option String) : Option String := text.filter fun s => s ≠ ""

/-! ## Tasks -/

inductive TaskStatus where
  | pending | queued | running | success | failed | cancelled
  deriving Repr, DecidableEq

/-- The dumped `TaskConfig` that `create_task` stores in `config_json`. -/
structure TaskConfig where
  gpuCount : Int := 1
  gpuModel : Option String := none
  minMemoryMb : Option Int := none
  envVars : List (String × String) := []
  maxRuntimeSeconds : Option Int := none
  deriving Repr, DecidableEq

structure Task where
  id : TaskId
  userId : UserId
  name : String := ""
  taskType : Option String := none
  status : TaskStatus := .pending
  priority : Int := 0
  assignedNodeId : Option NodeId := none
  assignedGpuIndices : Option (List Int) := none
  containerImage : Option String := none
  containerCommand : Option String := none
  containerId : Option ContainerId := none
  configJson : Option TaskConfig := none
  resultJson : Option Dict := none
  billed : Bool := false
  createdAt : Time := 0
  startedAt : Option Time := none
  finishedAt : Option Time := none
  deriving Repr, DecidableEq

/-- `task.assigned_gpu_indices or []`. -/
def Task.gpuIndices (task : Task) : List Int := task.assignedGpuIndices.getD []

/-- The GPU `(node, index)` is recorded in the assignment columns of the row. -/
def Task.Lists (task : Task) (node : NodeId) (index : Int) : Prop :=
  task.assignedNodeId = some node ∧ index ∈ task.gpuIndices

instance (task : Task) (node : NodeId) (index : Int) : Decidable (task.Lists node index) :=
  inferInstanceAs (Decidable (_ ∧ _))

structure TaskLog where
  taskId : TaskId
  source : String
  message : String
  deriving Repr, DecidableEq

/-! ## Nodes -/

inductive NodeStatus where
  | online | offline | maintenance
  deriving Repr, DecidableEq

structure Node where
  id : NodeId
  hostname : Option String := none
  ip : String
  agentPort : Int := 9000
  gpuCount : Nat := 0
  gpuModel : Option String := none
  totalMemoryMb : Option Int := none
  status : NodeStatus := .offline
  cpuPercent : ℚ := 0
  memoryPercent : ℚ := 0
  lastHeartbeat : Option Time := none
  registeredAt : Time := 0
  deriving Repr, DecidableEq

inductive GpuStatus where
  | idle | allocated | busy
  deriving Repr, DecidableEq

structure ProcessInfo where
  pid : Int
  name : String
  memoryUsed : Int := 0
  deriving Repr, DecidableEq

structure GpuDevice where
  id : String
  nodeId : NodeId
  gpuIndex : Int
  gpuUuid : Option String := none
  gpuModel : Option String := none
  memoryTotalMb : Option Int := none
  memoryUsedMb : Int := 0
  memoryFreeMb : Int := 0
  utilization : Int := 0
  utilizationMemory : Int := 0
  temperature : Int := 0
  powerUsage : Int := 0
  powerLimit : Int := 0
  status : GpuStatus := .idle
  processes : List ProcessInfo := []
  deriving Repr, DecidableEq

/-- The unique constraint `(node_id, gpu_index)`. -/
def GpuDevice.slot (gpu : GpuDevice) : NodeId × Int := (gpu.nodeId, gpu.gpuIndex)

def GpuDevice.withStatus (status : GpuStatus) (gpu : GpuDevice) : GpuDevice := { gpu with status }

@[simp] theorem GpuDevice.withStatus_status (status : GpuStatus) (gpu : GpuDevice) :
    (gpu.withStatus status).status = status := rfl

theorem GpuDevice.withStatus_slot (status : GpuStatus) (gpu : GpuDevice) :
    (gpu.withStatus status).slot = gpu.slot := rfl

theorem GpuDevice.withStatus_same (gpu : GpuDevice) : gpu.withStatus gpu.status = gpu := rfl

@[simp] theorem GpuDevice.withStatus_withStatus (first second : GpuStatus) (gpu : GpuDevice) :
    (gpu.withStatus first).withStatus second = gpu.withStatus second := rfl

/-- The states Docker reports for a container; the column takes any text. -/
inductive ContainerStatus where
  | created | restarting | running | removing | paused | exited | dead
  | other (text : String)
  deriving Repr, DecidableEq

structure RunningContainer where
  containerId : ContainerId
  nodeId : NodeId
  taskId : Option TaskId := none
  image : Option String := none
  status : ContainerStatus := .running
  gpuIndices : List Int := []
  startedAt : Option Time := none
  deriving Repr, DecidableEq

/-! ## Users and billing -/

structure User where
  id : UserId
  role : String := "user"
  credits : ℚ := 0
  deriving Repr, DecidableEq

structure BillingRecord where
  userId : UserId
  taskId : Option TaskId
  resourceType : String
  gpuModel : Option String
  durationSeconds : Int
  costCredits : ℚ
  createdAt : Time
  deriving Repr, DecidableEq

/-! ## Models -/

/-- The keys of `Model.config_json` that `ModelService` looks up. -/
structure ModelConfig where
  containerPort : Option Int := none
  env : List (String × String) := []
  volumes : List (String × String) := []
  deriving Repr, DecidableEq

structure Model where
  id : ModelId
  name : String
  containerImage : Option String := none
  launchCommand : Option String := none
  configJson : Option ModelConfig := none
  status : String := "offline"
  replicas : Int := 1
  gpuRequirement : Option String := none
  deriving Repr, DecidableEq

structure ModelInstance where
  id : InstanceId
  modelId : ModelId
  nodeId : NodeId
  containerId : Option ContainerId := none
  assignedGpuIndices : Option (List Int) := none
  port : Option Int := none
  status : String := "starting"
  apiEndpoint : Option String := none
  deriving Repr, DecidableEq

/-- The GPU `(node, index)` is assigned to the instance. -/
def ModelInstance.Lists (row : ModelInstance) (node : NodeId) (index : Int) : Prop :=
  row.nodeId = node ∧ index ∈ row.assignedGpuIndices.getD []

instance (row : ModelInstance) (node : NodeId) (index : Int) : Decidable (row.Lists node index) :=
  inferInstanceAs (Decidable (_ ∧ _))

/-! ## The database -/

structure Database where
  nodes : Table Node.id := .empty
  gpus : Table GpuDevice.slot := .empty
  tasks : Table Task.id := .empty
  taskLogs : List TaskLog := []
  runningContainers : Table RunningContainer.containerId := .empty
  users : Table User.id := .empty
  billingRecords : List BillingRecord := []
  models : Table Model.id := .empty
  modelInstances : Table ModelInstance.id := .empty

namespace Database

/-- The GPU is recorded in the assignment columns of the task `t`. -/
def Holds (db : Database) (t : TaskId) (node : NodeId) (index : Int) : Prop :=
  ∃ task, db.tasks.get t = some task ∧ task.Lists node index

/-- `session.add(TaskLog(...))`. -/
def addLog (db : Database) (taskId : TaskId) (source message : String) : Database :=
  { db with taskLogs := db.taskLogs ++ [⟨taskId, source, message⟩] }

@[simp] theorem addLog_tasks (db : Database) (t source message) :
    (db.addLog t source message).tasks = db.tasks := rfl
@[simp] theorem addLog_gpus (db : Database) (t source message) :
    (db.addLog t source message).gpus = db.gpus := rfl

/-- Write the columns of one task row. -/
def updateTask (db : Database) (t : TaskId) (f : Task → Task) (keeps : ∀ task, (f task).id = task.id) :
    Database :=
  { db with tasks := db.tasks.update t f keeps }

@[simp] theorem updateTask_gpus (db : Database) (t f keeps) :
    (db.updateTask t f keeps).gpus = db.gpus := rfl

theorem updateTask_get (db : Database) (t : TaskId) (f : Task → Task)
    (keeps : ∀ task, (f task).id = task.id) (t' : TaskId) :
    (db.updateTask t f keeps).tasks.get t' =
      if t' = t then (db.tasks.get t').map f else db.tasks.get t' :=
  Table.get_update _ _ _ keeps _

end Database

end SuitApi
