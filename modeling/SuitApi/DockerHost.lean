import Mathlib.Data.List.Forall2
import SuitApi.NodeService
import SuitApi.RunConfig
import SuitApi.UsageStream
import SuitApi.Wire

/-! # The agent's memory in Docker's labels

The agent keeps no list of its containers.  It writes what it was asked for into labels and
reads them back for every heartbeat, while others start containers on the same host, with
labels of their own.
-/

namespace SuitApi

/-- A request as the agent's schema accepts it: no integer is longer than Python converts. -/
structure AcceptedRun extends RunRequest where
  short : ∀ index ∈ gpus, (Nat.toDigits 10 index.natAbs).length ≤ Json.maxStrDigits

namespace DockerHost

/-! ## Docker -/

structure Image where
  labels : List (String × String) := []
  tags : List String := []
  shortId : String
  deriving Repr, DecidableEq

/-- A container as Docker keeps it.  Of several labels of one name the first one counts. -/
structure DockerContainer where
  id : ContainerId
  labels : List (String × String)
  /-- The image, as long as Docker has it. -/
  image : Option Image
  status : ContainerStatus
  startedAt : Option String := none
  /-- The request on which the agent started the container. -/
  request : Option RunRequest := none
  deriving Repr, DecidableEq

abbrev Docker := Table DockerContainer.id

def DockerContainer.managed (c : DockerContainer) : Bool := c.labels.lookup "suit.managed" = some "true"

/-- What `containers.run` makes of the agent's call; the labels of the image lie under those of
    the call. -/
def started (request : RunRequest) (id : ContainerId) (image : Image) : DockerContainer where
  id := id
  labels := (ContainerTracker.dockerRun request).labels ++ image.labels
  image := some image
  status := .created
  request := some request

/-- What happens to the containers of the host; Docker gives no id twice. -/
inductive Op where
  | run (request : AcceptedRun) (id : ContainerId) (image : Image)
  /-- Somebody else starts a container. -/
  | other (container : DockerContainer)
  | moves (id : ContainerId) (status : ContainerStatus) (startedAt : Option String)
  | retag (id : ContainerId) (tags : List String)
  /-- The image of a container is deleted. -/
  | deleteImage (id : ContainerId)
  | remove (id : ContainerId)

def exec : Op → Docker → Docker
  | .run request id image, docker => (docker.insert? (started request.toRunRequest id image)).getD docker
  | .other container, docker => (docker.insert? { container with request := none }).getD docker
  | .moves id status startedAt, docker => docker.update id (fun c => { c with status, startedAt }) fun _ => rfl
  | .retag id tags, docker =>
      docker.update id (fun c => { c with image := c.image.map fun image => { image with tags } }) fun _ => rfl
  | .deleteImage id, docker => docker.update id (fun c => { c with image := none }) fun _ => rfl
  | .remove id, docker => docker.deleteWhere fun c => c.id = id

/-! ## list_managed_containers -/

structure Entry where
  containerId : ContainerId
  taskId : Option String
  image : String
  status : ContainerStatus
  gpuIndices : List Int
  startedAt : Option String
  deriving Repr, DecidableEq

/-- What a loop over a decoded value goes through, or `none` where it raises. -/
def iterated : Json → Option (List Json)
  | .arr items => some items
  | .str text => some (text.toList.map fun c => .str (String.singleton c))
  | .obj members => some ((members.map (·.1)).eraseDups.map .str)
  | _ => none

section

variable (py : Python)
-- `datetime.fromisoformat(…).astimezone(utc).isoformat()`, where it does not raise
variable (normalized : String → Option String)

def parseGpuIndices (value : Option String) : Option (List Int) :=
  match truthyText value with
  | none => some []
  | some text =>
      match py.loads text with
      | .error .malformed => some []
      | .error _ => none
      | .ok parsed => (iterated parsed).bind fun indices => indices.mapM AIService.intOf

def getImageName (image : Image) : String := image.tags.head?.getD image.shortId

def getStartedAt (startedAt : Option String) : Option String :=
  (truthyText startedAt).map fun text => (normalized (text.replace "Z" "+00:00")).getD text

/-- One turn of the loop, or `none` where it raises. -/
def entryOf (c : DockerContainer) : Option Entry := do
  let gpuIndices ← parseGpuIndices py (c.labels.lookup "suit.gpu_indices")
  let image ← c.image
  return {
    containerId := c.id
    taskId := c.labels.lookup "suit.task_id"
    image := getImageName image
    status := c.status
    gpuIndices
    startedAt := getStartedAt normalized c.startedAt }

/-- `list_managed_containers`, or `none` where it raises. -/
def listManagedContainers (docker : Docker) : Option (List Entry) :=
  (docker.rows.filter DockerContainer.managed).mapM (entryOf py normalized)

end

/-! ## What the labels say -/

section

variable {py : Python} {normalized : String → Option String}

theorem toList_toString (n : Int) : (toString n).toList = Json.intText n := by
  cases n with
  | ofNat n => simp [Json.intText, toString, Int.repr]
  | negSucc n => simp [Json.intText, toString, Int.repr]

theorem toList_intercalate (parts : List String) :
    (", ".intercalate parts).toList = Json.separated (parts.map String.toList) := by
  induction parts with
  | nil => rfl
  | cons part rest ih =>
      cases rest with
      | nil => simp [Json.separated]
      | cons next rest =>
          rw [String.intercalate_cons_cons, String.toList_append, String.toList_append, ih]
          simp [Json.separated]

/-- The label is the text of the list. -/
theorem jsonOfIndices_eq (py : Python) (indices : List Int) :
    jsonOfIndices indices = py.dumps (.arr (indices.map .int)) := by
  apply String.toList_injective
  have texts : (indices.map toString).map String.toList =
      Json.dumpsItems py.floatText (indices.map .int) := by
    rw [Json.dumpsItems_eq, List.map_map, List.map_map]
    apply List.map_congr_left
    intro index _
    exact toList_toString index
  rw [jsonOfIndices, String.toList_append, String.toList_append, toList_intercalate, texts]
  simp [Python.dumps, Json.dumps]

theorem parseGpuIndices_written {indices : List Int}
    (short : ∀ index ∈ indices, (Nat.toDigits 10 index.natAbs).length ≤ Json.maxStrDigits) :
    parseGpuIndices py (some (jsonOfIndices indices)) = some indices := by
  obtain ⟨depth, deep⟩ : ∃ depth, py.depth = depth + 1 := Nat.exists_eq_succ_of_ne_zero (Nat.ne_of_gt py.deep)
  have writable : Json.Writable py.floatText py.depth (.arr (indices.map .int)) := by
    rw [deep]
    intro item inside
    obtain ⟨index, member, rfl⟩ := List.mem_map.mp inside
    cases depth <;> exact short index member
  have nonempty : truthyText (some (jsonOfIndices indices)) = some (jsonOfIndices indices) := by
    rw [truthyText, Option.filter_some, if_pos]
    apply decide_eq_true
    intro empty
    have front := congrArg String.toList empty
    rw [jsonOfIndices, String.toList_append, String.toList_append] at front
    cases front
  have ints : (indices.map Json.int).mapM AIService.intOf = some indices := by
    clear short writable nonempty
    induction indices with
    | nil => rfl
    | cons index rest ih => simp [AIService.intOf, ih]
  rw [parseGpuIndices, nonempty]
  simp only [jsonOfIndices_eq py, Python.loads_dumps py writable, iterated, Option.bind_some, ints]

/-- The labels of a container that the agent started say what it was asked for. -/
structure Labelled (c : DockerContainer) (request : RunRequest) : Prop where
  managed : c.managed = true
  task : c.labels.lookup "suit.task_id" = some request.taskId
  gpus : c.labels.lookup "suit.gpu_indices" = some (jsonOfIndices request.gpus)
  short : ∀ index ∈ request.gpus, (Nat.toDigits 10 index.natAbs).length ≤ Json.maxStrDigits

def AllLabelled (docker : Docker) : Prop :=
  ∀ c ∈ docker.rows, ∀ request, c.request = some request → Labelled c request

theorem started_labelled (request : AcceptedRun) (id : ContainerId) (image : Image) :
    Labelled (started request.toRunRequest id image) request.toRunRequest where
  managed := by simp [DockerContainer.managed, started, ContainerTracker.dockerRun]
  task := rfl
  gpus := rfl
  short := request.short

theorem labelled_insert {docker : Docker} (h : AllLabelled docker) {c : DockerContainer}
    (mine : ∀ request, c.request = some request → Labelled c request) :
    AllLabelled ((docker.insert? c).getD docker) := by
  cases done : docker.insert? c with
  | none => exact h
  | some docker' =>
      intro other inside
      rw [Option.getD_some, Table.insert?_rows done, List.mem_append, List.mem_singleton] at inside
      cases inside with
      | inl old => exact h other old
      | inr new =>
          subst new
          exact mine

theorem labelled_update {docker : Docker} (h : AllLabelled docker) (id : ContainerId)
    (f : DockerContainer → DockerContainer) (keeps : ∀ c, (f c).id = c.id)
    (labels : ∀ c, (f c).labels = c.labels) (request : ∀ c, (f c).request = c.request) :
    AllLabelled (docker.update id f keeps) := by
  intro c inside asked started
  obtain ⟨old, member, rfl⟩ := List.mem_map.mp inside
  by_cases here : decide (old.id = id) = true
  · rw [if_pos here] at started ⊢
    rw [request] at started
    obtain ⟨managed, task, gpus, short⟩ := h old member asked started
    constructor
    case managed => rwa [DockerContainer.managed, labels]
    case task => rwa [labels]
    case gpus => rwa [labels]
    case short => exact short
  · rw [if_neg here] at started ⊢
    exact h old member asked started

theorem labelled_step (docker : Docker) (op : Op) (h : AllLabelled docker) : AllLabelled (exec op docker) := by
  cases op with
  | run request id image =>
      apply labelled_insert h
      intro asked same
      cases same
      exact started_labelled request id image
  | other container =>
      apply labelled_insert h
      intro asked same
      cases same
  | moves id | retag id | deleteImage id =>
      exact labelled_update h id _ _ (fun _ => rfl) fun _ => rfl
  | remove id => exact fun c inside => h c (List.mem_of_mem_filter inside)

/-! ## What a listing reads -/

theorem mapM_eq_some {α β : Type} {f : α → Option β} {l : List α} {out : List β} :
    l.mapM f = some out ↔ List.Forall₂ (fun b a => f a = some b) out l := by
  induction l generalizing out with
  | nil => simp [eq_comm]
  | cons a rest ih =>
      simp only [List.mapM_cons, Option.bind_eq_bind, Option.bind_eq_some_iff, Option.pure_def,
        Option.some.injEq, List.forall₂_cons_right_iff, ih]
      constructor
      · rintro ⟨b, here, later, all, rfl⟩
        exact ⟨b, later, here, all, rfl⟩
      · rintro ⟨b, later, here, all, rfl⟩
        exact ⟨b, here, later, all, rfl⟩

theorem mapM_isSome {α β : Type} {f : α → Option β} {l : List α} :
    (l.mapM f).isSome = true ↔ ∀ a ∈ l, (f a).isSome = true := by
  induction l with
  | nil => simp
  | cons a rest ih =>
      rw [List.forall_mem_cons, ← ih, List.mapM_cons]
      cases f a <;> cases rest.mapM f <;> simp

/-- The agent's own containers, as the model of the platform has them. -/
def own (nodeIp : String) (docker : Docker) : List Container :=
  docker.rows.filterMap fun c => c.request.map fun request =>
    { ContainerTracker.runContainer nodeIp c.id request with status := c.status }

/-- The entry says what Docker has, and of a container that the agent started what it was
    asked for. -/
structure Describes (entry : Entry) (c : DockerContainer) : Prop where
  id : entry.containerId = c.id
  status : entry.status = c.status
  image : ∃ image, c.image = some image ∧ entry.image = getImageName image
  asked : ∀ request, c.request = some request →
    entry.taskId = some request.taskId ∧ entry.gpuIndices = request.gpus

/-- The entry says what the model of the platform reports, but for the image and the start. -/
structure Shows (entry : Entry) (info : RunningContainerInfo) : Prop where
  id : entry.containerId = info.containerId
  task : entry.taskId = info.taskId
  status : entry.status = info.status
  gpus : entry.gpuIndices = info.gpuIndices

/-- Somebody else's label is one that the agent can read. -/
def Legible (py : Python) (c : DockerContainer) : Prop :=
  c.request = none → (parseGpuIndices py (c.labels.lookup "suit.gpu_indices")).isSome = true

structure Faithful (py : Python) (normalized : String → Option String) (docker : Docker) : Prop where
  /-- Only a deleted image or a foreign label stops the listing. -/
  succeeds : (listManagedContainers py normalized docker).isSome = true ↔
    ∀ c ∈ docker.rows, c.managed = true → c.image.isSome = true ∧ Legible py c
  /-- None of the agent's containers is missing. -/
  complete : ∀ c ∈ docker.rows, c.request.isSome = true → c.managed = true
  entries : ∀ entries, listManagedContainers py normalized docker = some entries →
    List.Forall₂ Describes entries (docker.rows.filter DockerContainer.managed)
  /-- While nobody else uses the label, the listing agrees with that of the platform's model. -/
  alone : (∀ c ∈ docker.rows, c.managed = true → c.request.isSome = true) →
    ∀ entries, listManagedContainers py normalized docker = some entries → ∀ nodeIp,
      List.Forall₂ Shows entries (ContainerTracker.listManagedContainers nodeIp (own nodeIp docker))

theorem entryOf_isSome {c : DockerContainer} (labelled : ∀ request, c.request = some request → Labelled c request) :
    (entryOf py normalized c).isSome = true ↔ c.image.isSome = true ∧ Legible py c := by
  have read : Legible py c ↔ (parseGpuIndices py (c.labels.lookup "suit.gpu_indices")).isSome = true := by
    cases asked : c.request with
    | none => simp [Legible, asked]
    | some request =>
        have mine := labelled request asked
        simp [Legible, asked, mine.gpus, parseGpuIndices_written mine.short]
  rw [read]
  unfold entryOf
  cases parseGpuIndices py (c.labels.lookup "suit.gpu_indices") <;> cases c.image <;> simp

theorem entryOf_describes {c : DockerContainer} {entry : Entry}
    (labelled : ∀ request, c.request = some request → Labelled c request)
    (read : entryOf py normalized c = some entry) : Describes entry c := by
  simp only [entryOf, Option.bind_eq_bind, Option.bind_eq_some_iff, Option.pure_def, Option.some.injEq] at read
  obtain ⟨gpuIndices, parsed, image, kept, rfl⟩ := read
  refine ⟨rfl, rfl, ⟨image, kept, rfl⟩, ?_⟩
  intro request asked
  have mine := labelled request asked
  rw [mine.gpus, parseGpuIndices_written mine.short] at parsed
  cases parsed
  exact ⟨mine.task, rfl⟩

/-- What the platform's model reports of a container. -/
def report (c : DockerContainer) (request : RunRequest) : RunningContainerInfo where
  containerId := c.id
  taskId := some request.taskId
  image := some request.image
  status := c.status
  gpuIndices := request.gpus

theorem listManaged_own (nodeIp : String) (docker : Docker) :
    ContainerTracker.listManagedContainers nodeIp (own nodeIp docker) =
      (docker.rows.filter (·.request.isSome)).filterMap fun c => c.request.map (report c) := by
  rw [ContainerTracker.listManagedContainers, own, List.filter_eq_self.mpr, List.map_filterMap,
    List.filterMap_filter]
  · apply List.filterMap_congr
    intro c _
    cases c.request <;> rfl
  · intro c inside
    obtain ⟨d, _, found⟩ := List.mem_filterMap.mp inside
    obtain ⟨request, _, rfl⟩ := Option.map_eq_some_iff.mp found
    exact decide_eq_true rfl

theorem forall₂_filterMap {α β γ : Type} {R : α → β → Prop} {S : α → γ → Prop} {g : β → Option γ} {l : List α}
    {u : List β} (paired : List.Forall₂ R l u) (each : ∀ b ∈ u, ∀ a, R a b → ∃ x, g b = some x ∧ S a x) :
    List.Forall₂ S l (u.filterMap g) := by
  induction paired with
  | nil => exact .nil
  | cons here _ ih =>
      obtain ⟨x, found, related⟩ := each _ List.mem_cons_self _ here
      rw [List.filterMap_cons_some found]
      exact .cons related (ih fun b inside => each b (List.mem_cons_of_mem _ inside))

theorem faithful_of_labelled {docker : Docker} (h : AllLabelled docker) : Faithful py normalized docker := by
  have describes : ∀ entries, listManagedContainers py normalized docker = some entries →
      List.Forall₂ Describes entries (docker.rows.filter DockerContainer.managed) := by
    intro entries listed
    have paired := forall₂_filterMap (g := some) (mapM_eq_some.mp listed) (S := Describes) (by
      intro c inside entry read
      exact ⟨c, rfl, entryOf_describes (h c (List.mem_of_mem_filter inside)) read⟩)
    rwa [List.filterMap_some] at paired
  constructor
  case succeeds =>
    rw [listManagedContainers, mapM_isSome]
    simp only [List.mem_filter, and_imp]
    constructor
    · intro all c inside managed
      exact (entryOf_isSome (h c inside)).mp (all c inside managed)
    · intro all c inside managed
      exact (entryOf_isSome (h c inside)).mpr (all c inside managed)
  case complete =>
    intro c inside mine
    obtain ⟨request, asked⟩ := Option.isSome_iff_exists.mp mine
    exact (h c inside request asked).managed
  case entries => exact describes
  case alone =>
    intro alone entries listed nodeIp
    have same : docker.rows.filter DockerContainer.managed = docker.rows.filter (·.request.isSome) := by
      apply List.filter_congr
      intro c inside
      rw [Bool.eq_iff_iff]
      refine ⟨alone c inside, ?_⟩
      intro mine
      obtain ⟨request, asked⟩ := Option.isSome_iff_exists.mp mine
      exact (h c inside request asked).managed
    rw [listManaged_own, ← same]
    apply forall₂_filterMap (describes entries listed)
    intro c inside entry told
    obtain ⟨member, managed⟩ := List.mem_filter.mp inside
    obtain ⟨request, asked⟩ := Option.isSome_iff_exists.mp (alone c member managed)
    obtain ⟨task, gpus⟩ := told.asked request asked
    refine ⟨report c request, by rw [asked, Option.map_some], told.id, task, told.status, gpus⟩

/-- Whatever the agent and others do on a host: every listing has each container that the
    agent started, with the task and the GPUs of its request read back out of the labels. -/
theorem listing_faithful (py : Python) (normalized : String → Option String) (ops : List Op) :
    Faithful py normalized (Runs.run exec ops .empty) := by
  apply faithful_of_labelled
  apply Runs.run_invariant labelled_step ops
  intro c inside
  cases inside

end

end DockerHost

end SuitApi
