import SuitApi.GpuAllocator

/-! # The node agent and the scheduler's client for it

The agent turns a `RunRequest` into a labelled Docker container and lists every
container that carries the label, exited ones included.  Between the scheduler
and the agent is a network: what the agent did (`started`) and what the client
saw (`response`) are two things.
-/

namespace SuitApi

/-- The body of `POST /api/run`. -/
structure RunRequest where
  taskId : String
  image : String
  gpus : List Int := []
  command : String
  volumes : List (String × String) := []
  env : List (String × String) := []
  ports : List (String × Int) := []
  deriving Repr, DecidableEq

/-- A managed container: what Docker keeps of the request, as
    `list_managed_containers` reports it. -/
structure Container where
  nodeIp : String
  containerId : ContainerId
  taskId : Option String
  image : String
  status : ContainerStatus
  gpuIndices : List Int
  startedAt : Option Time := none
  deriving Repr, DecidableEq

/-- The container has not stopped.  A paused one counts as stopped, and is never resumed. -/
def Container.alive (c : Container) : Bool :=
  c.status ∈ [ContainerStatus.created, .restarting, .running]

/-- `ContainerTracker.run_container`: the labels carry the request's task id and
    GPU indices. -/
def ContainerTracker.runContainer (nodeIp : String) (id : ContainerId) (request : RunRequest) :
    Container where
  nodeIp := nodeIp
  containerId := id
  taskId := some request.taskId
  image := request.image
  status := .created
  gpuIndices := request.gpus

/-- One call of `POST /api/run`: the container it started, if any, and the JSON
    object or the exception that `AgentClient.launch_task` ends with. -/
structure AgentRun where
  started : Option ContainerId := none
  response : Except String Dict
  deriving Repr

/-- `result.get("container_id")`, when it is a usable id.  The code would go on with any other
    true value too, and no agent sends one. -/
def containerIdOf (result : Dict) : Option ContainerId :=
  match Dict.get result "container_id" with
  | some (.str id) => if id = "" then none else some id
  | _ => none

/-- The client is told a container id only of the container that was started. -/
def AgentRun.Truthful (run : AgentRun) : Prop :=
  ∀ result id, run.response = .ok result → containerIdOf result = some id → run.started = some id

namespace ContainerManager

structure Settings where
  agentPort : Int := 9000
  taskVolumeRoot : String := "/data/tasks"
  workspaceMountPath : String := "/workspace"
  deriving Repr, DecidableEq

/-- The request `launch` sends.  The stored configuration is a dumped
    `TaskConfig`, which has no `volumes` of its own. -/
def request (settings : Settings) (task : Task) (a : Allocation) (image : String) : RunRequest where
  taskId := task.id
  image := image
  gpus := a.gpuIndices
  command := task.containerCommand.getD ""
  volumes := [(settings.taskVolumeRoot ++ "/" ++ task.id, settings.workspaceMountPath)]

/-- `launch`; a task without an image raises before the agent is called. -/
def launch (settings : Settings) (agent : RunRequest → AgentRun) (task : Task) (a : Allocation) :
    AgentRun :=
  match truthyText task.containerImage with
  | none => { response := .error ("任务 " ++ task.id ++ " 未指定容器镜像") }
  | some image => agent (request settings task a image)

end ContainerManager

end SuitApi
