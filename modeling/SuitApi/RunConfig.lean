import SuitApi.Platform

/-! # A task's configuration on its way to the container

The configuration passes through the request schema, the task row, the scheduler's
client, the agent's `RunRequest` and the Docker call.  Every hop copies image,
command and GPU indices; the client's body has no place for the environment.
-/

namespace SuitApi

/-- What the schema of `POST /api/v1/tasks` demands. -/
structure TaskCreate.Accepted (payload : TaskCreate) : Prop where
  name : 1 ≤ payload.name.length ∧ payload.name.length ≤ 128
  taskType : payload.taskType ∈ ["train", "inference", "custom"]
  image : 1 ≤ payload.containerImage.length ∧ payload.containerImage.length ≤ 256
  command : 1 ≤ payload.containerCommand.length
  gpuCount : 1 ≤ payload.configJson.gpuCount
  minMemoryMb : ∀ least ∈ payload.configJson.minMemoryMb, 0 ≤ least
  maxRuntimeSeconds : ∀ limit ∈ payload.configJson.maxRuntimeSeconds, 1 ≤ limit

/-! ## The hops after the row -/

/-- The body that `launch_task` posts. -/
structure LaunchBody where
  taskId : String
  image : String
  gpus : List Int
  command : String
  volumes : List (String × String)
  deriving Repr, DecidableEq

def AgentClient.launchTask (taskId image : String) (gpus : List Int) (command : String)
    (volumes : List (String × String)) : LaunchBody :=
  { taskId, image, gpus, command, volumes }

/-- The agent's reading of the body; `env` and `ports`, which it lacks, are empty. -/
def RunRequest.ofBody (body : LaunchBody) : RunRequest where
  taskId := body.taskId
  image := body.image
  gpus := body.gpus
  command := body.command
  volumes := body.volumes

/-- A device request of the Docker API. -/
structure DeviceRequest where
  count : Nat
  deviceIds : List String
  capabilities : List (List String)
  deriving Repr, DecidableEq

/-- The arguments of `containers.run`. -/
structure DockerRun where
  image : String
  command : String
  detach : Bool
  /-- Host path, container path and mode. -/
  volumes : List (String × String × String)
  environment : Option (List (String × String))
  ports : Option (List (String × Int))
  labels : List (String × String)
  deviceRequests : Option (List DeviceRequest)
  deriving Repr, DecidableEq

/-- `d or None` on a dictionary. -/
def truthyDict {α : Type} (d : List (String × α)) : Option (List (String × α)) :=
  if d.isEmpty then none else some d

/-- `json.dumps` on a list of integers. -/
def jsonOfIndices (indices : List Int) : String := "[" ++ ", ".intercalate (indices.map toString) ++ "]"

/-- The call that `run_container` makes. -/
def ContainerTracker.dockerRun (request : RunRequest) : DockerRun where
  image := request.image
  command := request.command
  detach := true
  volumes := request.volumes.map fun volume => (volume.1, volume.2, "rw")
  environment := truthyDict request.env
  ports := truthyDict request.ports
  labels :=
    [("suit.managed", "true"), ("suit.task_id", request.taskId), ("suit.gpu_indices", jsonOfIndices request.gpus)]
  deviceRequests :=
    if request.gpus.isEmpty then none
    else some [⟨request.gpus.length, request.gpus.map toString, [["gpu"]]⟩]

/-- The environment of the started container, beside that of its image. -/
def DockerRun.env (docker : DockerRun) : List (String × String) := docker.environment.getD []

/-- The devices of the started container. -/
def DockerRun.devices (docker : DockerRun) : List String :=
  (docker.deviceRequests.getD []).flatMap (·.deviceIds)

/-- The request that reaches the agent in `launch`, if it gets that far. -/
def ContainerManager.sent (settings : Settings) (task : Task) (a : Allocation) : Option RunRequest :=
  (truthyText task.containerImage).map fun image =>
    RunRequest.ofBody (AgentClient.launchTask task.id image a.gpuIndices (task.containerCommand.getD "")
      [(settings.taskVolumeRoot ++ "/" ++ task.id, settings.workspaceMountPath)])

namespace RunConfig

/-- `launch` hands the agent what was sent. -/
theorem launch_sent {settings : ContainerManager.Settings} {task : Task} {a : Allocation} {request : RunRequest}
    (sent : ContainerManager.sent settings task a = some request) (agent : RunRequest → AgentRun) :
    ContainerManager.launch settings agent task a = agent request := by
  obtain ⟨image, given, rfl⟩ := Option.map_eq_some_iff.mp sent
  simp only [ContainerManager.launch, given]
  rfl

theorem env_dockerRun (request : RunRequest) : (ContainerTracker.dockerRun request).env = request.env := by
  unfold DockerRun.env ContainerTracker.dockerRun truthyDict
  cases request.env <;> rfl

theorem devices_dockerRun (request : RunRequest) :
    (ContainerTracker.dockerRun request).devices = request.gpus.map toString := by
  unfold DockerRun.devices ContainerTracker.dockerRun
  cases request.gpus <;> simp

/-! ## The row keeps its configuration -/

/-- The columns that say what is to run. -/
structure Configured (payload : TaskCreate) (task : Task) : Prop where
  image : task.containerImage = some payload.containerImage
  command : task.containerCommand = some payload.containerCommand
  config : task.configJson = some payload.configJson

theorem configured_calledBack {payload : TaskCreate} {task : Task} (configured : Configured payload task) (now : Time)
    (callback : TaskCallbackRequest) : Configured payload (TaskService.calledBack now callback task) := by
  obtain ⟨image, command, config⟩ := configured
  unfold TaskService.calledBack
  cases callback.status <;> exact ⟨image, command, config⟩

theorem configured_step {payload : TaskCreate} {t : TaskId} {op : Platform.Op} {old new : Option Task} {launched : Nat}
    (step : Platform.RowStep t op old new launched) (before : ∃ task, old = some task ∧ Configured payload task) :
    ∃ task, new = some task ∧ Configured payload task := by
  obtain ⟨task, here, configured⟩ := before
  obtain ⟨image, command, config⟩ := configured
  subst here
  cases step with
  | calledBack now callback => exact ⟨_, rfl, configured_calledBack ⟨image, command, config⟩ now callback⟩
  | kept | submitted | cancelled | started | failed | cleared | lost | billed =>
      exact ⟨_, rfl, image, command, config⟩

theorem configured_run {payload : TaskCreate} {t : TaskId} (ops : List Platform.Op) {w : World}
    (before : ∃ task, w.row t = some task ∧ Configured payload task) :
    ∃ task, (Runs.run Platform.exec ops w).row t = some task ∧ Configured payload task := by
  apply Runs.run_invariant (I := fun w => ∃ task, World.row w t = some task ∧ Configured payload task) _ ops before
  intro w op here
  obtain ⟨launched, step, _⟩ := Platform.exec_row op w t
  exact configured_step step here

theorem configured_created {payload : TaskCreate} {t : TaskId} {now : Time} {user : User} {w : World}
    (created : (TaskService.createTask t now user payload w.db).isSome = true) :
    ∃ task, (Platform.exec (.create t now user payload) w).row t = some task ∧ Configured payload task := by
  obtain ⟨db, done⟩ := Option.isSome_iff_exists.mp created
  obtain ⟨_, _, _, row⟩ := TaskService.createTask_get done
  refine ⟨TaskService.newTask t now user payload, ?_, rfl, rfl, rfl⟩
  simp only [Platform.exec, done, World.row, row, if_pos]

/-! ## What arrives -/

/-- The request and the container carry what the payload asks for, on the allocated GPUs. -/
structure Delivered (payload : TaskCreate) (a : Allocation) (request : RunRequest) (docker : DockerRun) : Prop where
  image : request.image = payload.containerImage ∧ docker.image = payload.containerImage
  command : request.command = payload.containerCommand ∧ docker.command = payload.containerCommand
  gpus : request.gpus = a.gpuIndices ∧ docker.devices = a.gpuIndices.map toString
  env : request.env = payload.configJson.envVars ∧ docker.env = payload.configJson.envVars

theorem sent_of_configured {payload : TaskCreate} (accepted : payload.Accepted) {task : Task}
    (configured : Configured payload task) (settings : ContainerManager.Settings) (a : Allocation) :
    ∃ request, ContainerManager.sent settings task a = some request ∧ request.image = payload.containerImage ∧
      request.command = payload.containerCommand ∧ request.gpus = a.gpuIndices ∧ request.env = [] := by
  have named : truthyText (some payload.containerImage) = some payload.containerImage := by
    have nonempty : payload.containerImage ≠ "" := by
      intro empty
      have length := accepted.image.1
      rw [empty] at length
      exact absurd length (by decide)
    rw [truthyText, Option.filter_some, if_pos (decide_eq_true nonempty)]
  refine ⟨RunRequest.ofBody (AgentClient.launchTask task.id payload.containerImage a.gpuIndices
    (task.containerCommand.getD "")
    [(settings.taskVolumeRoot ++ "/" ++ task.id, settings.workspaceMountPath)]), ?_, rfl, ?_, rfl, rfl⟩
  · rw [ContainerManager.sent, configured.image, named, Option.map_some]
  · simp only [configured.command, Option.getD_some]
    rfl

/-- Whatever happens between its creation and its launch, a task's request and container
    carry its configuration if and only if it sets no environment variables. -/
theorem config_delivered_iff {payload : TaskCreate} (accepted : payload.Accepted) {t : TaskId} {now : Time}
    {user : User} {w : World} (created : (TaskService.createTask t now user payload w.db).isSome = true)
    (ops : List Platform.Op) {env : Scheduler.Env} {task : Task} {a : Allocation} {run : AgentRun}
    (launched : (Scheduler.scheduleOne env
      (Runs.run Platform.exec (.create t now user payload :: ops) w).toStore).launched = some (task, a, run))
    (mine : task.id = t) :
    ∃ request, ContainerManager.sent env.settings task a = some request ∧ run = env.agent request ∧
      (Delivered payload a request (ContainerTracker.dockerRun request) ↔ payload.configJson.envVars = []) := by
  obtain ⟨planned, same⟩ := Scheduler.launched_eq_some.mp launched
  obtain ⟨found, _⟩ := Scheduler.plan_launch planned
  obtain ⟨row, here, configured⟩ := configured_run ops (configured_created created)
  have equal : row = task := by
    rw [World.row, ← mine, ← Runs.run_cons] at here
    exact Option.some.inj (here.symm.trans (mine ▸ found))
  subst equal
  obtain ⟨request, sent, image, command, gpus, environment⟩ := sent_of_configured accepted configured env.settings a
  refine ⟨request, sent, ?_, ?_⟩
  · rw [← same]
    exact launch_sent sent env.agent
  · constructor
    · intro delivered
      rw [← delivered.env.1, environment]
    · intro none
      constructor
      case image => exact ⟨image, image⟩
      case command => exact ⟨command, command⟩
      case gpus => exact ⟨gpus, by rw [devices_dockerRun, gpus]⟩
      case env => exact ⟨by rw [environment, none], by rw [env_dockerRun, environment, none]⟩

/-! ## A task on one GPU -/

open Platform

theorem sample_accepted : Sample.payload.Accepted where
  name := by decide
  taskType := by decide
  image := by decide
  command := by decide
  gpuCount := by decide
  minMemoryMb := by rintro _ ⟨⟩
  maxRuntimeSeconds := by rintro _ ⟨⟩

theorem accepted_withEnv {payload : TaskCreate} (accepted : payload.Accepted) (envVars : List (String × String)) :
    TaskCreate.Accepted { payload with configJson.envVars := envVars } :=
  ⟨accepted.name, accepted.taskType, accepted.image, accepted.command, accepted.gpuCount, accepted.minMemoryMb,
    accepted.maxRuntimeSeconds⟩

/-- The node has reported its GPU. -/
def idle : World := Platform.exec (Sample.beat 0 []) {}

/-- Without environment variables the sample task arrives as it was created. -/
theorem sample_delivered : ∃ request a run,
    (Scheduler.scheduleOne (Sample.env "c" 2) (Runs.run Platform.exec
      [.create "t" 1 Sample.user Sample.payload, .submit .none "" Sample.user "t"] idle).toStore).launched =
        some (TaskService.submitted (TaskService.newTask "t" 1 Sample.user Sample.payload), a, run) ∧
      Delivered Sample.payload a request (ContainerTracker.dockerRun request) := by
  have created : (TaskService.createTask "t" 1 Sample.user Sample.payload idle.db).isSome = true := rfl
  have launched : (Scheduler.scheduleOne (Sample.env "c" 2) (Runs.run Platform.exec
      [.create "t" 1 Sample.user Sample.payload, .submit .none "" Sample.user "t"] idle).toStore).launched =
        some (_, _, _) := rfl
  obtain ⟨request, _, _, delivered⟩ := config_delivered_iff sample_accepted created _ launched rfl
  exact ⟨request, _, _, launched, delivered.mpr rfl⟩

/-- The task asks for one variable, and neither the agent nor the container sees it. -/
theorem environment_lost : ¬ ∀ (payload : TaskCreate), payload.Accepted →
    ∀ (t : TaskId) (now : Time) (user : User) (w : World),
    (TaskService.createTask t now user payload w.db).isSome = true →
    ∀ (ops : List Platform.Op) (env : Scheduler.Env) (task : Task) (a : Allocation) (run : AgentRun),
    (Scheduler.scheduleOne env (Runs.run Platform.exec (.create t now user payload :: ops) w).toStore).launched =
      some (task, a, run) → task.id = t →
    ∃ request, ContainerManager.sent env.settings task a = some request ∧ run = env.agent request ∧
      Delivered payload a request (ContainerTracker.dockerRun request) := by
  intro all
  obtain ⟨request, sent, _, delivered⟩ := all { Sample.payload with configJson.envVars := [("A", "1")] }
    (accepted_withEnv sample_accepted _) "t" 1 Sample.user idle rfl [.submit .none "" Sample.user "t"]
    (Sample.env "c" 2) _ _ _ rfl rfl
  obtain ⟨_, _, rfl⟩ := Option.map_eq_some_iff.mp sent
  have kept : ([] : List (String × String)) = [("A", "1")] := delivered.env.1
  cases kept

end RunConfig

end SuitApi
