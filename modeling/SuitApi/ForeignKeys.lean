import Mathlib.Data.Fintype.EquivFin
import SuitApi.LaunchFailure
import SuitApi.ModelService

/-! # The task label as a foreign key

The label a container is started with travels through Docker and the agent's
heartbeat into a column that refers to the task table.  Two services choose it,
and a third deletes the rows it may refer to.  A request that its client has given
up on is still with the agent, and its label with it.
-/

namespace SuitApi.ForeignKeys

open Platform NodeService
open LaunchFailure (Pending unexecuted)

/-- What an agent reads about its host; the driver numbers the GPUs. -/
structure Reading where
  payload : HeartbeatPayload
  numbered : (payload.gpus.map (·.index)).Nodup

structure Fleet extends World where
  /-- The containers there have been, with the address of their agent. -/
  seen : List (ContainerId × String) := []
  /-- The run requests that no client waits for, and that an agent may still execute. -/
  inFlight : List Pending := []

inductive Op where
  | platform (op : Platform.Op)
  | createModel (id : ModelId) (payload : ModelCreate)
  /-- An agent reports the managed containers it holds at this moment. -/
  | heartbeat (env : NodeService.Env) (reading : Reading)
  | deploy (env : ModelService.Env) (id : ModelId)
  | delete (user : User) (t : TaskId)

def deployed (env : ModelService.Env) (id : ModelId) (w : World) : ModelService.State :=
  (ModelService.deployModel env id { db := w.db, containers := w.containers }).2

def step : Op → World → World
  | .platform op, w => Platform.exec op w
  | .createModel id payload, w =>
      match ModelService.createModel id payload w.db with
      | .ok (some db) => { w with db }
      | _ => w
  | .heartbeat env reading, w => Platform.exec (.heartbeat env (buildPayload reading.payload w)) w
  | .deploy env id, w => { w with db := (deployed env id w).db, containers := (deployed env id w).containers }
  | .delete user t, w =>
      match TaskService.deleteTask user t w.db with
      | .ok (some db) => { w with db }
      | _ => w

def isModelLabel (label : String) : Bool := "model-".toList.isPrefixOf label.toList

/-- A task id is a `uuid4`, and a heartbeat reports what its agent holds. -/
def genuine : Op → Bool
  | .platform (.create t _ _ _) => !isModelLabel t
  | .platform (.heartbeat _ _) => false
  | _ => true

/-! ## Requests that outlive their client -/

inductive Event where
  | operation (op : Op)
  /-- An agent executes a request that the client no longer waits for. -/
  | execute (i : Nat) (id : ContainerId)
  | lose (i : Nat)

/-- The run requests of a deployment's replicas that the agents have not executed. -/
def unexecutedReplicas (env : ModelService.Env) (model : Model) : List Nat → ModelService.State → List Pending
  | [], _ => []
  | replica :: rest, s =>
      match ModelService.allocateForModel env.lower model s.db with
      | .error _ => []
      | .ok a =>
          (if (env.replica replica).started.isSome then []
            else [⟨a.nodeIp, ModelService.runRequest env.settings model a replica⟩]) ++
          match ModelService.launchModelInstance env model a replica s with
          | (none, _) => []
          | (some _, s') => unexecutedReplicas env model rest s'

/-- The requests of a step that nobody waits for when it ends. -/
def givenUp : Op → World → List Pending
  | .platform (.schedule env), w =>
      ((Scheduler.scheduleOne env w.toStore).launched.bind (unexecuted env)).toList
  | .deploy env id, w =>
      match ModelService.deployGuard id w.db with
      | .error _ => []
      | .ok model =>
          unexecutedReplicas env model (List.range (max model.replicas 1).toNat)
            { db := ModelService.markModel id "deploying" w.db, containers := w.containers }
  | _, _ => []

def after : Event → Fleet → World
  | .operation op, f => step op f.toWorld
  | .execute i id, f =>
      match f.inFlight[i]? with
      | some ⟨nodeIp, request⟩ =>
          { f.toWorld with containers := f.containers ++ [ContainerTracker.runContainer nodeIp id request] }
      | none => f.toWorld
  | .lose _, f => f.toWorld

def waiting : Event → Fleet → List Pending
  | .operation op, f => f.inFlight ++ givenUp op f.toWorld
  | .execute i _, f | .lose i, f => f.inFlight.eraseIdx i

/-! ## What can happen -/

/-- A Docker id names one container of one host. -/
def Distinct (seen : List (ContainerId × String)) (containers : List Container) : Prop :=
  (containers.map (·.containerId)).Nodup ∧
    ∀ c ∈ containers, ∀ old ∈ seen, old.1 = c.containerId → old.2 = c.nodeIp

instance (seen : List (ContainerId × String)) (containers : List Container) :
    Decidable (Distinct seen containers) :=
  inferInstanceAs (Decidable (_ ∧ _))

/-- A Docker id has 64 digits; an image reference and an address are short. -/
def nameable (c : Container) : Bool :=
  fitsUncut 64 c.containerId && fitsUncut 256 c.image && c.status.fits && fitsUncut 45 c.nodeIp

def Event.genuine : Event → Bool
  | .operation op => ForeignKeys.genuine op
  | _ => true

/-- The step can happen with the names that others give. -/
def Possible (f : Fleet) (e : Event) : Prop :=
  e.genuine = true ∧ (after e f).containers.all nameable = true ∧ Distinct f.seen (after e f).containers

instance (f : Fleet) (e : Event) : Decidable (Possible f e) := inferInstanceAs (Decidable (_ ∧ _ ∧ _))

def exec (e : Event) (f : Fleet) : Fleet :=
  if Possible f e then
    { toWorld := after e f
      seen := f.seen ++ (after e f).containers.map fun c => (c.containerId, c.nodeIp)
      inFlight := waiting e f }
  else f

/-! ## The property and its condition -/

/-- Whichever agent reports its containers now, with a reading that fits the columns, its
    heartbeat is committed. -/
def Accepts (f : Fleet) : Prop :=
  ∀ (env : NodeService.Env) (reading : Reading), f.db.nodes.get env.nodeId = none →
    reading.payload.fits = true →
      (handleHeartbeat env (buildPayload reading.payload f.toWorld) f.db).isSome = true

/-- A deployment leaves no container of its own behind, a deleted task has no container on
    any agent, and a request executed late is one of a stored task. -/
def Careful (f : Fleet) (e : Event) : Prop :=
  Possible f e →
    match e with
    | .operation (.deploy env id) => ∀ c ∈ (deployed env id f.toWorld).containers,
        ∃ old ∈ f.containers, { old with status := c.status } = c
    | .operation (.delete user t) => ∀ db, TaskService.deleteTask user t f.db = .ok (some db) →
        ∀ c ∈ f.containers, c.taskId ≠ some t
    | .execute i _ => ∀ pending, f.inFlight[i]? = some pending →
        (f.db.tasks.get pending.request.taskId).isSome = true
    | _ => True

/-! ## What every run keeps -/

/-- Ids and addresses are used as Docker and the network use them. -/
structure Sound (f : Fleet) : Prop where
  nameable : ∀ c ∈ f.containers, ForeignKeys.nameable c = true
  ids : (f.containers.map (·.containerId)).Nodup
  named : ∀ c ∈ f.containers, (c.containerId, c.nodeIp) ∈ f.seen
  agree : ∀ old ∈ f.seen, ∀ old' ∈ f.seen, old.1 = old'.1 → old.2 = old'.2
  located : ((addresses f.db).map Prod.snd).Nodup
  stored : ∀ row ∈ f.db.runningContainers.rows, ∃ ip, (row.nodeId, ip) ∈ addresses f.db ∧
    (row.containerId, ip) ∈ f.seen
  plain : ∀ t, (f.db.tasks.get t).isSome = true → isModelLabel t = false

/-- Every label of a managed container is the id of a task. -/
def Labelled (w : World) : Prop :=
  ∀ c ∈ w.containers, ∀ t, c.taskId = some t → (w.db.tasks.get t).isSome = true

theorem replicaLabel_isModelLabel (model : ModelId) (replica : Nat) :
    isModelLabel (ModelService.replicaLabel model replica) = true := by
  rw [isModelLabel, List.isPrefixOf_iff_prefix, ModelService.replicaLabel, String.toList_append,
    String.toList_append, String.toList_append, List.append_assoc, List.append_assoc]
  exact List.prefix_append _ _

theorem mem_addresses {db : Database} {node : NodeId} {ip : String} :
    (node, ip) ∈ addresses db ↔ ∃ row ∈ db.nodes.rows, row.id = node ∧ row.ip = ip := by
  simp [addresses]

theorem fresh_exists (db : Database) : ∃ id : NodeId, db.nodes.get id = none := by
  have : Infinite String := Infinite.of_injective String.ofList fun _ _ => String.ofList_injective
  obtain ⟨id, outside⟩ := Infinite.exists_notMem_finset (db.nodes.rows.map (·.id)).toFinset
  refine ⟨id, Table.get_eq_none.mpr ?_⟩
  intro node inside same
  exact outside (List.mem_toFinset.mpr (List.mem_map.mpr ⟨node, inside, same⟩))

theorem mem_listManagedContainers {ip : String} {containers : List Container} {item : RunningContainerInfo} :
    item ∈ ContainerTracker.listManagedContainers ip containers ↔
      ∃ c ∈ containers, c.nodeIp = ip ∧ item =
        { containerId := c.containerId
          taskId := c.taskId
          image := some c.image
          status := c.status
          gpuIndices := c.gpuIndices
          startedAt := c.startedAt } := by
  rw [ContainerTracker.listManagedContainers, List.mem_map]
  constructor
  · rintro ⟨c, inside, same⟩
    obtain ⟨held, here⟩ := List.mem_filter.mp inside
    exact ⟨c, held, of_decide_eq_true here, same.symm⟩
  · rintro ⟨c, held, here, same⟩
    exact ⟨c, List.mem_filter.mpr ⟨held, decide_eq_true here⟩, same.symm⟩

/-- The reported containers break no unique constraint: their ids differ, and a
    stored row with one of them belongs to the reporting node. -/
theorem reported_free {f : Fleet} (sound : Sound f) {env : NodeService.Env} {ip : String} {node : Node}
    {nodes : Table Node.id} (located : findNode env ip f.db = some (node, nodes)) :
    ((ContainerTracker.listManagedContainers ip f.containers).map (·.containerId)).Nodup ∧
      ∀ item ∈ ContainerTracker.listManagedContainers ip f.containers,
        ∀ row ∈ f.db.runningContainers.rows, row.containerId = item.containerId → row.nodeId = node.id := by
  obtain ⟨here, origin⟩ := findNode_spec located
  constructor
  · rw [ContainerTracker.listManagedContainers, List.map_map]
    exact sound.ids.sublist (List.filter_sublist.map _)
  · intro item inside row stored same
    obtain ⟨c, held, there, rfl⟩ := mem_listManagedContainers.mp inside
    obtain ⟨ip', placed, seen⟩ := sound.stored row stored
    have sameIp : ip' = ip := (sound.agree _ seen _ (sound.named c held) same).trans there
    obtain ⟨other, present, id, address⟩ := mem_addresses.mp placed
    rcases origin with ⟨member, _⟩ | ⟨missing, _⟩
    · have equal : other = node := by
        have located := sound.located
        rw [addresses, List.map_map] at located
        exact List.inj_on_of_nodup_map located present member (address.trans (sameIp.trans here.symm))
      rw [← id, equal]
    · exact absurd (address.trans sameIp) (missing other present)

/-- A reading that fits, fits with the containers as well. -/
theorem Sound.fits {f : Fleet} (sound : Sound f) {payload : HeartbeatPayload} (fits : payload.fits = true) :
    (buildPayload payload f.toWorld).fits = true := by
  rw [HeartbeatPayload.fits, Bool.and_eq_true] at fits ⊢
  refine ⟨fits.1, List.all_eq_true.mpr ?_⟩
  intro item reported
  obtain ⟨c, held, _, rfl⟩ := mem_listManagedContainers.mp reported
  have named := sound.nameable c held
  simp only [ForeignKeys.nameable, Bool.and_eq_true] at named
  simp [RunningContainerInfo.fits, named]

/-- Only the foreign key can refuse an agent's heartbeat. -/
theorem accepts_iff {f : Fleet} (sound : Sound f) : Accepts f ↔ Labelled f.toWorld := by
  constructor
  · intro accepts c inside t label
    obtain ⟨id, fresh⟩ := fresh_exists f.db
    let reading : Reading := ⟨{ hostname := "", ip := c.nodeIp }, List.nodup_nil⟩
    have fits : reading.payload.fits = true := by
      have named := sound.nameable c inside
      simp only [nameable, Bool.and_eq_true] at named
      simp only [reading, HeartbeatPayload.fits, named.2]
      rfl
    have accepted := accepts { nodeId := id, now := 0 } reading fresh fits
    obtain ⟨node, nodes, located⟩ := findNode_isSome { nodeId := id, now := 0 } c.nodeIp fresh
    obtain ⟨ids, free⟩ := reported_free sound located
    rw [handleHeartbeat_isSome (sound.fits fits) located ids free reading.numbered,
      List.all_eq_true] at accepted
    have known := accepted _ (mem_listManagedContainers.mpr ⟨c, inside, rfl, rfl⟩)
    simpa only [taskKnown, label] using known
  · intro labelled env reading fresh fits
    obtain ⟨node, nodes, located⟩ := findNode_isSome env reading.payload.ip fresh
    obtain ⟨ids, free⟩ := reported_free sound located
    rw [handleHeartbeat_isSome (sound.fits fits) located ids free reading.numbered, List.all_eq_true]
    intro item inside
    obtain ⟨c, held, _, rfl⟩ := mem_listManagedContainers.mp inside
    simp only [taskKnown]
    split
    · rfl
    · rename_i t label
      exact labelled c held t label

/-! ## The steps -/

theorem deployed_extends (env : ModelService.Env) (id : ModelId) (w : World) :
    ModelService.Extends { db := w.db, containers := w.containers } (deployed env id w) :=
  ModelService.deployModel_extends env id _

theorem createModel_spec {id : ModelId} {payload : ModelCreate} {db db' : Database}
    (created : ModelService.createModel id payload db = .ok (some db')) :
    ∃ models, db' = { db with models } := by
  unfold ModelService.createModel at created
  split at created
  · cases created
  · obtain ⟨models, _, rfl⟩ := Option.map_eq_some_iff.mp (Except.ok.inj created)
    exact ⟨models, rfl⟩

theorem step_frame (op : Op) (w : World) (possible : genuine op = true)
    (quiet : ∀ env reading, op ≠ .heartbeat env reading) :
    addresses (step op w).db = addresses w.db ∧
      (step op w).db.runningContainers = w.db.runningContainers := by
  cases op with
  | heartbeat env reading => exact absurd rfl (quiet env reading)
  | platform op =>
      apply exec_frame
      rintro env payload rfl
      cases possible
  | createModel id payload =>
      simp only [step]
      split
      · rename_i db created
        obtain ⟨models, rfl⟩ := createModel_spec created
        exact ⟨rfl, rfl⟩
      · exact ⟨rfl, rfl⟩
  | deploy env id =>
      have extended := deployed_extends env id w
      exact ⟨congrArg (fun table => table.rows.map fun node : Node => (node.id, node.ip)) extended.nodes,
        extended.runningContainers⟩
  | delete user t =>
      simp only [step]
      split
      · rename_i db deleted
        obtain ⟨_, _, nodes, containers, _⟩ := TaskService.deleteTask_spec deleted
        exact ⟨congrArg (fun table => table.rows.map fun node : Node => (node.id, node.ip)) nodes, containers⟩
      · exact ⟨rfl, rfl⟩

/-- A heartbeat adds its node, if it is new, and moves none. -/
theorem heartbeat_addresses {env : NodeService.Env} {payload : HeartbeatPayload} {db db' : Database}
    {node : Node} {nodes : Table Node.id} (spec : Handled env payload db db' node nodes)
    (located : ((addresses db).map Prod.snd).Nodup) :
    ((addresses db').map Prod.snd).Nodup ∧ (node.id, payload.ip) ∈ addresses db' ∧
      ∀ place ∈ addresses db, place ∈ addresses db' := by
  obtain ⟨here, origin⟩ := findNode_spec spec.located
  have member : node ∈ nodes.rows := by
    rcases origin with ⟨inside, rfl⟩ | ⟨_, rows⟩
    · exact inside
    · rw [rows]
      exact List.mem_append_right _ (List.mem_singleton_self _)
  -- The address written to the row is the one by which it was found.
  have same : addresses db' = nodes.rows.map fun row => (row.id, row.ip) := by
    rw [addresses, spec.nodes]
    apply Table.map_updateWhere
    intro row inside selected
    have equal : row = node :=
      List.inj_on_of_nodup_map nodes.unique inside member (of_decide_eq_true selected)
    rw [equal]
    exact Prod.ext rfl here.symm
  rw [same]
  refine ⟨?_, List.mem_map.mpr ⟨node, member, by rw [here]⟩, ?_⟩
  · rcases origin with ⟨_, rfl⟩ | ⟨missing, rows⟩
    · exact located
    · rw [rows, List.map_append, List.map_append, List.map_singleton, List.map_singleton]
      refine List.nodup_append.mpr ⟨located, List.nodup_singleton _, ?_⟩
      intro ip inside other single equal
      obtain ⟨place, placed, rfl⟩ := List.mem_map.mp inside
      obtain ⟨row, present, rfl⟩ := List.mem_map.mp placed
      rw [List.mem_singleton] at single
      exact missing row present ((equal.trans single).trans here)
  · intro place placed
    rcases origin with ⟨_, rfl⟩ | ⟨_, rows⟩
    · exact placed
    · rw [rows, List.map_append]
      exact List.mem_append_left _ placed

/-- After every step the nodes have different addresses, and a stored container row
    belongs to the node at whose address the container is. -/
theorem step_stored {f : Fleet} (sound : Sound f) (op : Op) (possible : genuine op = true) :
    ((addresses (step op f.toWorld).db).map Prod.snd).Nodup ∧
      ∀ row ∈ (step op f.toWorld).db.runningContainers.rows, ∃ ip,
        (row.nodeId, ip) ∈ addresses (step op f.toWorld).db ∧ (row.containerId, ip) ∈ f.seen := by
  by_cases quiet : ∀ env reading, op ≠ .heartbeat env reading
  · obtain ⟨places, containers⟩ := step_frame op f.toWorld possible quiet
    rw [places, containers]
    exact ⟨sound.located, sound.stored⟩
  · simp only [not_forall, not_not] at quiet
    obtain ⟨env, reading, rfl⟩ := quiet
    simp only [step, Platform.exec]
    split
    · rename_i db handled
      obtain ⟨node, nodes, spec⟩ := handleHeartbeat_spec handled
      obtain ⟨located, placed, kept⟩ := heartbeat_addresses spec sound.located
      refine ⟨located, ?_⟩
      intro row inside
      rw [insertContainers_rows spec.containers] at inside
      rcases List.mem_append.mp inside with old | new
      · obtain ⟨ip, place, seen⟩ := sound.stored row (List.mem_of_mem_filter old)
        exact ⟨ip, kept _ place, seen⟩
      · obtain ⟨item, reported, rfl⟩ := List.mem_map.mp new
        obtain ⟨c, held, there, rfl⟩ := mem_listManagedContainers.mp reported
        exact ⟨reading.payload.ip, placed, there ▸ sound.named c held⟩
    · exact ⟨sound.located, sound.stored⟩

/-- Only `create_task` adds task rows, and only `delete_task` removes one. -/
theorem step_tasks (op : Op) (w : World) (possible : genuine op = true) (t : TaskId) :
    (((step op w).db.tasks.get t).isSome = true →
        (w.db.tasks.get t).isSome = true ∨ isModelLabel t = false) ∧
      ((w.db.tasks.get t).isSome = true → (∀ user, op ≠ .delete user t) →
        ((step op w).db.tasks.get t).isSome = true) := by
  cases op with
  | platform op =>
      obtain ⟨launched, row, _⟩ := exec_row op w t
      simp only [step]
      generalize w.db.tasks.get t = old at row
      generalize (Platform.exec op w).db.tasks.get t = new at row
      cases row with
      | kept => exact ⟨.inl, fun present _ => present⟩
      | created =>
          refine ⟨fun _ => .inr ?_, fun present _ => absurd present Bool.false_ne_true⟩
          simpa [genuine] using possible
      | submitted | cancelled | calledBack | started | failed | cleared | lost | billed =>
          exact ⟨fun _ => .inl rfl, fun _ _ => rfl⟩
  | createModel id payload =>
      simp only [step]
      split
      · rename_i db created
        obtain ⟨models, rfl⟩ := createModel_spec created
        exact ⟨.inl, fun present _ => present⟩
      · exact ⟨.inl, fun present _ => present⟩
  | heartbeat env reading =>
      simp only [step, Platform.exec]
      split
      · rename_i db handled
        obtain ⟨node, nodes, spec⟩ := handleHeartbeat_spec handled
        rw [spec.tasks]
        exact ⟨.inl, fun present _ => present⟩
      · exact ⟨.inl, fun present _ => present⟩
  | deploy env id =>
      simp only [step, (deployed_extends env id w).tasks]
      exact ⟨.inl, fun present _ => present⟩
  | delete user id =>
      simp only [step]
      split
      · rename_i db deleted
        obtain ⟨_, _, _, _, tasks⟩ := TaskService.deleteTask_spec deleted
        rw [tasks]
        split
        · rename_i same
          subst same
          exact ⟨fun present => absurd present Bool.false_ne_true, fun _ other => absurd rfl (other user)⟩
        · exact ⟨.inl, fun present _ => present⟩
      · exact ⟨.inl, fun present _ => present⟩

/-- What a late start leaves alone. -/
theorem after_late {e : Event} (f : Fleet) (late : ∀ op, e ≠ .operation op) : (after e f).db = f.db := by
  cases e with
  | operation op => exact absurd rfl (late op)
  | execute i id =>
      simp only [after]
      split <;> rfl
  | lose i => rfl

theorem sound_exec {f : Fleet} (e : Event) (sound : Sound f) : Sound (exec e f) := by
  unfold exec
  split
  · rename_i possible
    obtain ⟨real, named, distinct, consistent⟩ := possible
    have rows : ((addresses (after e f).db).map Prod.snd).Nodup ∧
        (∀ row ∈ (after e f).db.runningContainers.rows, ∃ ip,
          (row.nodeId, ip) ∈ addresses (after e f).db ∧ (row.containerId, ip) ∈ f.seen) ∧
        ∀ t, ((after e f).db.tasks.get t).isSome = true → isModelLabel t = false := by
      cases e with
      | operation op =>
          have real : genuine op = true := real
          obtain ⟨located, stored⟩ := step_stored sound op real
          refine ⟨located, stored, ?_⟩
          intro t present
          rcases (step_tasks op f.toWorld real t).1 present with before | plain
          · exact sound.plain t before
          · exact plain
      | execute i id | lose i =>
          rw [after_late f (by rintro op ⟨⟩)]
          exact ⟨sound.located, sound.stored, sound.plain⟩
    obtain ⟨located, stored, plain⟩ := rows
    have new : ∀ {place : ContainerId × String},
        place ∈ (after e f).containers.map (fun c => (c.containerId, c.nodeIp)) →
          ∃ c ∈ (after e f).containers, (c.containerId, c.nodeIp) = place :=
      fun inside => List.mem_map.mp inside
    refine ⟨List.all_eq_true.mp named, distinct, ?_, ?_, located, ?_, plain⟩
    · intro c inside
      exact List.mem_append_right _ (List.mem_map.mpr ⟨c, inside, rfl⟩)
    · intro first inside second inside' same
      rcases List.mem_append.mp inside with old | now <;> rcases List.mem_append.mp inside' with old' | now'
      · exact sound.agree first old second old' same
      · obtain ⟨c, held, rfl⟩ := new now'
        exact consistent c held first old same
      · obtain ⟨c, held, rfl⟩ := new now
        exact (consistent c held second old' same.symm).symm
      · obtain ⟨c, held, rfl⟩ := new now
        obtain ⟨c', held', rfl⟩ := new now'
        rw [List.inj_on_of_nodup_map distinct held held' same]
    · intro row inside
      obtain ⟨ip, placed, seen⟩ := stored row inside
      exact ⟨ip, placed, List.mem_append_left _ seen⟩
  · exact sound

/-- An operation keeps every label known exactly when it is careful. -/
theorem labelled_step_iff {f : Fleet} {op : Op} (sound : Sound f) (labelled : Labelled f.toWorld)
    (possible : Possible f (.operation op)) : Labelled (step op f.toWorld) ↔ Careful f (.operation op) := by
  simp only [Careful, possible, forall_const]
  have real : genuine op = true := possible.1
  have kept := fun t => (step_tasks op f.toWorld real t).2
  cases op with
  | platform op =>
      refine iff_of_true ?_ trivial
      intro c inside t label
      rcases exec_containers op f.toWorld inside with ⟨old, held, same⟩ | ⟨t', label', present⟩
      · exact kept t (labelled old held t (same ▸ label)) (fun _ => by rintro ⟨⟩)
      · rw [label, Option.some.injEq] at label'
        exact kept t (label' ▸ present) (fun _ => by rintro ⟨⟩)
  | createModel id payload =>
      refine iff_of_true ?_ trivial
      intro c inside t label
      refine kept t (labelled c ?_ t label) (fun _ => by rintro ⟨⟩)
      simp only [step] at inside
      split at inside <;> exact inside
  | heartbeat env reading =>
      refine iff_of_true ?_ trivial
      intro c inside t label
      refine kept t (labelled c ?_ t label) (fun _ => by rintro ⟨⟩)
      simp only [step, Platform.exec] at inside
      split at inside <;> exact inside
  | deploy env id =>
      constructor
      · intro after c inside
        rcases (deployed_extends env id f.toWorld).containers c inside with old | ⟨model, replica, label⟩
        · exact old
        · have present := after c inside _ label
          rw [show (step (.deploy env id) f.toWorld).db.tasks = f.db.tasks from
            (deployed_extends env id f.toWorld).tasks] at present
          have plain := sound.plain _ present
          rw [replicaLabel_isModelLabel] at plain
          cases plain
      · intro nothing c inside t label
        obtain ⟨old, held, same⟩ := nothing c inside
        have label' : old.taskId = some t := (congrArg Container.taskId same).trans label
        exact kept t (labelled old held t label') (fun _ => by rintro ⟨⟩)
  | delete user id =>
      constructor
      · intro after db deleted c held label
        have committed : step (.delete user id) f.toWorld = { f.toWorld with db } := by
          simp only [step, deleted]
        have present := after c (by rw [committed]; exact held) id label
        obtain ⟨_, _, _, _, tasks⟩ := TaskService.deleteTask_spec deleted
        rw [committed, tasks, if_pos rfl] at present
        cases present
      · intro unused c inside t label
        cases deleted : TaskService.deleteTask user id f.db with
        | error refusal =>
            simp only [step, deleted] at inside ⊢
            exact labelled c inside t label
        | ok result =>
            cases result with
            | none =>
                simp only [step, deleted] at inside ⊢
                exact labelled c inside t label
            | some db =>
                simp only [step, deleted] at inside
                refine kept t (labelled c inside t label) ?_
                rintro _ ⟨⟩
                exact unused db deleted c inside label

/-- A step keeps every label known exactly when it is careful. -/
theorem labelled_exec_iff {f : Fleet} (e : Event) (sound : Sound f) (labelled : Labelled f.toWorld) :
    Labelled (exec e f).toWorld ↔ Careful f e := by
  by_cases possible : Possible f e
  · have moved : (exec e f).toWorld = after e f := by rw [exec, if_pos possible]
    rw [moved]
    cases e with
    | operation op => exact labelled_step_iff sound labelled possible
    | lose i =>
        simp only [Careful, implies_true, iff_true]
        exact labelled
    | execute i id =>
        simp only [Careful, possible, forall_const, after]
        cases f.inFlight[i]? with
        | none =>
            refine iff_of_true labelled ?_
            intro pending late
            cases late
        | some pending =>
            constructor
            · rintro known _ ⟨⟩
              exact known _ (List.mem_append_right _ (List.mem_singleton_self _)) _ rfl
            · intro stored c inside t label
              rcases List.mem_append.mp inside with old | late
              · exact labelled c old t label
              · obtain rfl := List.mem_singleton.mp late
                cases label
                exact stored pending rfl
  · have stays : exec e f = f := if_neg possible
    rw [stays]
    exact iff_of_true labelled fun happens => absurd happens possible

theorem sound_empty : Sound {} where
  nameable := by
    intro c inside
    cases inside
  ids := List.nodup_nil
  named := by
    intro c inside
    cases inside
  agree := by
    intro old inside
    cases inside
  located := List.nodup_nil
  stored := by
    intro row inside
    cases inside
  plain := by
    intro t present
    cases present

/-- In a run from the empty platform every agent's heartbeat is accepted after every
    step, if and only if no deployment leaves a container of its own behind, no task is
    deleted while an agent holds a container of it, and no request of a model or of a
    deleted task is executed late. -/
theorem heartbeats_accepted_iff (events : List Event) :
    Runs.Along exec (fun f e => Accepts (exec e f)) events {} ↔ Runs.Along exec Careful events {} := by
  apply Runs.along_congr (I := fun f => Sound f ∧ Labelled f.toWorld)
  · intro f e invariant accepts
    have sound := sound_exec e invariant.1
    exact ⟨sound, (accepts_iff sound).mp accepts⟩
  · intro f e invariant
    rw [accepts_iff (sound_exec e invariant.1), labelled_exec_iff e invariant.1 invariant.2]
  · refine ⟨sound_empty, ?_⟩
    intro c inside
    cases inside

/-! ## A deployed model and a deleted task -/

def reading : Reading where
  payload := { hostname := "n1", ip := "10.0.0.1", gpus := [{ index := 0, model := "A100" }] }
  numbered := List.nodup_singleton 0

def firstBeat : Op := .heartbeat { nodeId := "n1", now := 0 } reading

def deployment : List Event :=
  [.operation firstBeat,
    .operation (.createModel "m" { name := "llm", containerImage := some "image", launchCommand := some "serve" }),
    .operation (.deploy { replica := fun _ =>
      { instanceId := "i", started := some "c", response := .accepted (some "c") } } "m")]

/-- The heartbeat after the deployment reports `model-m-0`, which is no task. -/
theorem deployed_model_refused :
    ¬ ∀ events : List Event, Runs.Along exec (fun f e => Accepts (exec e f)) events {} := by
  intro all
  obtain ⟨_, _, accepts, _⟩ := all deployment
  have accepted := accepts { nodeId := "n2", now := 1 } reading (by decide) (by decide)
  exact absurd accepted (by decide)

/-- A task runs to its end and is deleted; its container has exited and is still
    reported. -/
def deletion : List Event :=
  .operation firstBeat :: (Sample.launch "t" "c" 1).map (fun op => .operation (.platform op)) ++
    [.operation (.platform (.container "c" .exited)),
      .operation (.platform (Sample.callback 2 .success "t")), .operation (.delete Sample.user "t")]

example : ¬ Accepts (Runs.run exec deletion {}) := by
  intro accepts
  have accepted := accepts { nodeId := "n2", now := 3 } reading (by decide) (by decide)
  exact absurd accepted (by decide)

/-- The launch of `t` times out and `t`, failed, is deleted; then its container starts. -/
def lateStart : List Event :=
  [.operation firstBeat, .operation (.platform (.create "t" 0 Sample.user Sample.payload)),
    .operation (.platform (.submit .none "" Sample.user "t")),
    .operation (.platform (.schedule { agent := fun _ => { response := .error "timed out" } })),
    .operation (.delete Sample.user "t"), .execute 0 "c"]

example : ¬ Accepts (Runs.run exec lateStart {}) := by
  intro accepts
  have accepted := accepts { nodeId := "n2", now := 3 } reading (by decide) (by decide)
  exact absurd accepted (by decide)

end SuitApi.ForeignKeys
