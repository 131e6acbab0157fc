import SuitApi.Exclusive
import SuitApi.SharedCluster

/-! # The containers behind the instances

A deployment stores an instance for each container that an agent has started for it, and a
stop takes both away.  In between the gateway routes to the row, and the row says `running`
whatever has become of its container.
-/

namespace SuitApi.Hosting

open ModelService
open SharedCluster (Op exec modelService)
open StopRetry (AllServed OwnContainers Place attempt called keeps place present untouched)
open Platform (addresses)

/-! ## The property and its condition -/

/-- The container has not stopped, has the GPUs of the instance, and is on the host that the
    endpoint of the instance names. -/
structure Serves (db : Database) (row : ModelInstance) (c : Container) : Prop where
  alive : c.alive = true
  named : truthyText row.containerId = some c.containerId
  host : (row.nodeId, c.nodeIp) ∈ addresses db
  gpus : row.assignedGpuIndices = some c.gpuIndices
  endpoint : ∃ port, row.port = some port ∧
    row.apiEndpoint = some ("http://" ++ c.nodeIp ++ ":" ++ toString port)

/-- Every instance is served by a container of its own. -/
structure Hosted (db : Database) (containers : List Container) : Prop where
  served : ∀ row ∈ db.modelInstances.rows, ∃ c ∈ containers, Serves db row c
  own : ∀ row ∈ db.modelInstances.rows, ∀ other ∈ db.modelInstances.rows,
    row.containerId = other.containerId → row.id = other.id

/-- The agents answer with the id of the container they have started, and the ids that
    Docker gives are new. -/
structure Answers (env : Env) (containers : List Container) (replicas : List Nat) : Prop where
  told : ∀ replica ∈ replicas, ∀ answer, (env.replica replica).response = .accepted answer →
    truthyText answer ≠ none ∧ (env.replica replica).started = answer
  fresh : ∀ replica ∈ replicas, ∀ id, (env.replica replica).started = some id →
    ∀ c ∈ containers, c.containerId ≠ id
  distinct : (replicas.filterMap fun replica => (env.replica replica).started).Nodup

def Genuine (w : World) : Op → Prop
  | .models (.deploy env id) => ∀ model, w.db.models.get id = some model →
      Answers env w.containers (Deployment.replicaIndices model)
  | _ => True

/-- The first call fails, and its container is as it was. -/
def FirstUntouched (calls : InstanceId → StopCall) (rows : List ModelInstance) : Prop :=
  ∃ row, rows.head? = some row ∧ untouched (calls row.id) = true

/-- No container of an instance stops or is removed behind the back of the model service, and
    a stop of a model is served throughout or fails before it has stopped anything. -/
def Careful (w : World) : Op → Prop
  | .platform (.container id status) => (∃ row ∈ w.db.modelInstances.rows, row.containerId = some id) →
      status ∈ [ContainerStatus.created, .restarting, .running]
  | .platform (.remove id) => ∀ row ∈ w.db.modelInstances.rows, row.containerId ≠ some id
  | .models (.stop calls id) => (w.db.models.get id).isSome = true →
      AllServed calls (instancesOf id w.db) ∨ FirstUntouched calls (instancesOf id w.db)
  | _ => True

theorem truthyText_eq_some {text : Option String} {s : String} (found : truthyText text = some s) :
    text = some s := (Option.filter_eq_some_iff.mp found).1

theorem Serves.of_id {db : Database} {row : ModelInstance} {c : Container} (h : Serves db row c) :
    row.containerId = some c.containerId := truthyText_eq_some h.named

/-- Rows may go, and containers that serve no instance. -/
theorem Hosted.mono {db db' : Database} {containers containers' : List Container} (h : Hosted db containers)
    (rows : ∀ row ∈ db'.modelInstances.rows, row ∈ db.modelInstances.rows)
    (known : ∀ node ip, (node, ip) ∈ addresses db → (node, ip) ∈ addresses db')
    (stays : ∀ row ∈ db'.modelInstances.rows, ∀ c ∈ containers, c.alive = true →
      row.containerId = some c.containerId → c ∈ containers') : Hosted db' containers' where
  served row inside := by
    obtain ⟨c, member, serves⟩ := h.served row (rows row inside)
    exact ⟨c, stays row inside c member serves.alive serves.of_id,
      serves.alive, serves.named, known _ _ serves.host, serves.gpus, serves.endpoint⟩
  own row inside other inside' := h.own row (rows row inside) other (rows other inside')

theorem addresses_congr {db db' : Database} (nodes : db'.nodes = db.nodes) : addresses db' = addresses db := by
  rw [addresses, addresses, nodes]

/-- Only nodes and instances matter, and containers may come. -/
theorem Hosted.congr {db db' : Database} {containers containers' : List Container} (h : Hosted db containers)
    (instances : db'.modelInstances = db.modelInstances) (nodes : db'.nodes = db.nodes)
    (more : ∀ c ∈ containers, c ∈ containers') : Hosted db' containers' := by
  refine h.mono ?_ ?_ fun _ _ c member _ _ => more c member
  · exact fun row inside => instances ▸ inside
  · intro node ip known
    rw [addresses_congr nodes]
    exact known

/-! ## The platform's steps -/

theorem exec_keeps (op : Platform.Op) (w : World) (kept : ∀ id status, op ≠ .container id status)
    (stays : ∀ id, op ≠ .remove id) {c : Container} (inside : c ∈ w.containers) :
    c ∈ (Platform.exec op w).containers := by
  cases op with
  | container id status => exact absurd rfl (kept id status)
  | remove id => exact absurd rfl (stays id)
  | schedule env => exact List.mem_append_left _ inside
  | create | heartbeat | billing | finished =>
      simp only [Platform.exec]
      split <;> exact inside
  | submit | cancel | callback | markOffline | queues => exact inside

/-- What happens to a container counts exactly for the instance that it is of. -/
theorem container_iff (id : ContainerId) (status : ContainerStatus) {w : World} (h : Hosted w.db w.containers) :
    Hosted w.db (w.containers.map (Platform.setStatus id status)) ↔
      Careful w (.platform (.container id status)) := by
  constructor
  · rintro after ⟨row, inside, named⟩
    obtain ⟨c, member, serves⟩ := after.served row inside
    obtain ⟨old, _, rfl⟩ := List.mem_map.mp member
    have alive := serves.alive
    have same := serves.of_id
    -- a container that serves afterwards is the one that was written, and alive with its new status
    unfold Platform.setStatus at alive same
    split at alive
    · simpa [Container.alive] using alive
    · rename_i other
      rw [if_neg other, named] at same
      exact absurd ⟨(Option.some.inj same).symm, alive⟩ other
  · intro careful
    refine ⟨fun row inside => ?_, h.own⟩
    obtain ⟨c, member, serves⟩ := h.served row inside
    refine ⟨_, List.mem_map_of_mem member, ?_⟩
    unfold Platform.setStatus
    split
    · rename_i hit
      have good := careful ⟨row, inside, hit.1 ▸ serves.of_id⟩
      exact ⟨by simpa [Container.alive] using good, serves.named, serves.host, serves.gpus, serves.endpoint⟩
    · exact serves

theorem remove_iff (id : ContainerId) {w : World} (h : Hosted w.db w.containers) :
    Hosted w.db (w.containers.filter fun c => c.containerId ≠ id) ↔ Careful w (.platform (.remove id)) := by
  constructor
  · intro after row inside named
    obtain ⟨c, member, serves⟩ := after.served row inside
    have other : c.containerId ≠ id := by simpa using (List.mem_filter.mp member).2
    rw [serves.of_id] at named
    exact other (Option.some.inj named)
  · intro careful
    refine h.mono (fun row inside => inside) (fun _ _ known => known) ?_
    intro row inside c member _ named
    refine List.mem_filter.mpr ⟨member, ?_⟩
    rw [decide_eq_true_eq]
    rintro rfl
    exact careful row inside named

theorem platform_iff (op : Platform.Op) {w : World} (h : Hosted w.db w.containers) :
    Hosted (Platform.exec op w).db (Platform.exec op w).containers ↔ Careful w (.platform op) := by
  have instances := SharedCluster.exec_modelInstances op w
  by_cases kept : ∀ id status, op ≠ .container id status
  · by_cases stays : ∀ id, op ≠ .remove id
    · have careful : Careful w (.platform op) := by
        cases op with
        | container id status => exact absurd rfl (kept id status)
        | remove id => exact absurd rfl (stays id)
        | _ => trivial
      refine iff_of_true (h.mono ?_ (fun _ _ => Exclusive.exec_addresses op w) ?_) careful
      · rw [instances]
        exact fun row inside => inside
      · exact fun _ _ c member _ _ => exec_keeps op w kept stays member
    · push Not at stays
      obtain ⟨id, rfl⟩ := stays
      exact remove_iff id h
  · push Not at kept
    obtain ⟨id, status, rfl⟩ := kept
    exact container_iff id status h

/-! ## Deployments -/

section Replica

variable {env : Env} {model : Model} {a : ModelService.Allocation} {replica : Nat} {s : State}

theorem mem_start {c : Container} : c ∈ (start env model a replica s).containers ↔ c ∈ s.containers ∨
    ∃ id, (env.replica replica).started = some id ∧
      ContainerTracker.runContainer a.nodeIp id (runRequest env.settings model a replica) = c := by
  rw [start, List.mem_append, Option.mem_toList]
  exact or_congr_right Option.map_eq_some_iff

theorem mem_stopInstance {row : ModelInstance} {c : Container}
    (inside : c ∈ (stopInstance env row s).containers) :
    ∃ old ∈ s.containers, old.containerId = c.containerId := by
  unfold stopInstance at inside
  split at inside
  · obtain ⟨old, member, same⟩ := mem_agentStop inside
    exact ⟨old, member, by rw [← same]⟩
  · exact ⟨c, inside, rfl⟩

/-- The clean-up asks for the container of the instance only. -/
theorem stopInstance_keeps {row : ModelInstance} {c : Container} (inside : c ∈ s.containers)
    (other : truthyText row.containerId ≠ some c.containerId) : c ∈ (stopInstance env row s).containers := by
  unfold stopInstance
  split
  · rename_i node id found named
    refine agentStop_keeps inside ?_
    rw [isContainer, Bool.and_eq_false_iff, decide_eq_false_iff_not, decide_eq_false_iff_not]
    right
    rintro rfl
    exact other named
  · exact inside

variable (env model a replica s) in
/-- What a launch leaves of the rows and of the containers. -/
inductive Leaves : State → Prop
  | unstored {s' : State} (db : s'.db = s.db)
      (containers : s'.containers = (start env model a replica s).containers) : Leaves s'
  | running {s' : State} {answer : Option ContainerId} {stored : Database}
      (accepted : (env.replica replica).response = .accepted answer)
      (commit : storeInstance (newInstance (env.replica replica).instanceId model.id a answer) a s.db = some stored)
      (db : s'.db = markInstance (env.replica replica).instanceId "running" stored)
      (containers : s'.containers = (start env model a replica s).containers) : Leaves s'
  | released {s' : State} {answer : Option ContainerId} {stored : Database}
      (accepted : (env.replica replica).response = .accepted answer)
      (commit : storeInstance (newInstance (env.replica replica).instanceId model.id a answer) a s.db = some stored)
      (db : s'.db = releaseInstance (env.replica replica).instanceId stored)
      (fewer : ∀ c ∈ s'.containers,
        ∃ old ∈ (start env model a replica s).containers, old.containerId = c.containerId)
      (others : ∀ c ∈ (start env model a replica s).containers, truthyText answer ≠ some c.containerId →
        c ∈ s'.containers) : Leaves s'

theorem launch_leaves : Leaves env model a replica s (launchModelInstance env model a replica s).2 := by
  unfold launchModelInstance
  cases response : (env.replica replica).response with
  | raised exc =>
      simp only [response]
      exact .unstored rfl rfl
  | refused text =>
      simp only [response]
      exact .unstored rfl rfl
  | accepted answer =>
      cases commit : storeInstance (newInstance (env.replica replica).instanceId model.id a answer) a s.db with
      | none =>
          have refused : storeInstance (newInstance (env.replica replica).instanceId model.id a answer) a
              (start env model a replica s).db = none := commit
          simp only [response, refused]
          exact .unstored rfl rfl
      | some stored =>
          have wrote : storeInstance (newInstance (env.replica replica).instanceId model.id a answer) a
              (start env model a replica s).db = some stored := commit
          simp only [response, wrote]
          split
          · exact .running response commit rfl rfl
          · refine .released response commit ?_ (fun c inside => ?_) fun c inside other => ?_
            · rw [dropInstance, (Deployment.stopInstance_spec env _ _).1]
              rfl
            · exact mem_stopInstance (s := { start env model a replica s with db := stored }) inside
            · exact stopInstance_keeps (s := { start env model a replica s with db := stored }) inside other

/-- A launch brings at most the container that the agent has started. -/
theorem launch_containers {c : Container} (inside : c ∈ (launchModelInstance env model a replica s).2.containers) :
    (∃ old ∈ s.containers, old.containerId = c.containerId) ∨ (env.replica replica).started = some c.containerId := by
  have begun : ∃ old ∈ (start env model a replica s).containers, old.containerId = c.containerId := by
    cases @launch_leaves env model a replica s with
    | unstored db containers | running accepted commit db containers => exact ⟨c, containers ▸ inside, rfl⟩
    | released accepted commit db fewer others => exact fewer c inside
  obtain ⟨old, member, same⟩ := begun
  rcases mem_start.mp member with before | ⟨id, started, rfl⟩
  · exact .inl ⟨old, before, same⟩
  · exact .inr (started.trans (congrArg some same))

theorem Answers.rest {containers containers' : List Container} {rest : List Nat}
    (h : Answers env containers (replica :: rest))
    (more : ∀ c ∈ containers', (∃ old ∈ containers, old.containerId = c.containerId) ∨
      (env.replica replica).started = some c.containerId) :
    Answers env containers' rest where
  told other inside := h.told other (List.mem_cons_of_mem _ inside)
  fresh other inside id started c member := by
    rcases more c member with ⟨old, before, same⟩ | mine
    · exact same ▸ h.fresh other (List.mem_cons_of_mem _ inside) id started old before
    · rintro rfl
      have distinct := h.distinct
      simp only [List.filterMap_cons, mine, List.nodup_cons] at distinct
      exact distinct.1 (List.mem_filterMap.mpr ⟨other, inside, started⟩)
  distinct := by
    have distinct := h.distinct
    rw [List.filterMap_cons] at distinct
    split at distinct
    · exact distinct
    · exact (List.nodup_cons.mp distinct).2

/-- A new instance and its container come together. -/
theorem Hosted.store {db stored : Database} {containers containers' : List Container} (h : Hosted db containers)
    (request : RunRequest) {answer : Option ContainerId} {id : ContainerId} (named : truthyText answer = some id)
    (fresh : ∀ c ∈ containers, c.containerId ≠ id) {instanceId : InstanceId}
    (granted : allocateForModel env.lower model db = .ok a)
    (commit : storeInstance (newInstance instanceId model.id a answer) a db = some stored)
    (gpus : request.gpus = a.gpuIndices) (old : ∀ c ∈ containers, c ∈ containers')
    (new : ContainerTracker.runContainer a.nodeIp id request ∈ containers') :
    Hosted (markInstance instanceId "running" stored) containers' := by
  have rows := Deployment.marked_rows commit
  have known : addresses (markInstance instanceId "running" stored) = addresses db :=
    addresses_congr (storeInstance_frame commit).1
  have other : ∀ row ∈ db.modelInstances.rows, row.containerId ≠ answer := by
    intro row inside same
    obtain ⟨c, member, serves⟩ := h.served row inside
    rw [serves.of_id, truthyText_eq_some named] at same
    exact fresh c member (Option.some.inj same)
  constructor
  · intro row inside
    rw [rows, List.mem_append, List.mem_singleton] at inside
    rcases inside with before | rfl
    · obtain ⟨c, member, serves⟩ := h.served row before
      exact ⟨c, old c member, serves.alive, serves.named, known ▸ serves.host, serves.gpus, serves.endpoint⟩
    · obtain ⟨⟨node, found, here⟩, _⟩ := allocateForModel_node granted
      refine ⟨_, new, rfl, named, ?_, congrArg some gpus.symm, a.port, rfl, rfl⟩
      rw [known]
      exact Exclusive.mem_addresses.mpr ⟨node, found, here⟩
  · intro row inside row' inside' same
    rw [rows, List.mem_append, List.mem_singleton] at inside inside'
    rcases inside with before | rfl
    · rcases inside' with before' | rfl
      · exact h.own row before row' before' same
      · exact absurd same (other row before)
    · rcases inside' with before' | rfl
      · exact absurd same.symm (other row' before')
      · rfl

theorem launch_hosted {rest : List Nat} (h : Hosted s.db s.containers)
    (answers : Answers env s.containers (replica :: rest))
    (granted : allocateForModel env.lower model s.db = .ok a) :
    Hosted (launchModelInstance env model a replica s).2.db
      (launchModelInstance env model a replica s).2.containers := by
  cases @launch_leaves env model a replica s with
  | unstored db containers =>
      rw [db, containers]
      exact h.congr rfl rfl fun c old => mem_start.mpr (.inl old)
  | running accepted commit db containers =>
      obtain ⟨given, started⟩ := answers.told replica List.mem_cons_self _ accepted
      obtain ⟨id, named⟩ := Option.ne_none_iff_exists'.mp given
      rw [truthyText_eq_some named] at started
      rw [db, containers]
      have fresh := answers.fresh replica List.mem_cons_self id started
      refine h.store (runRequest env.settings model a replica) named fresh granted commit rfl ?_ ?_
      · exact fun c old => mem_start.mpr (.inl old)
      · exact mem_start.mpr (.inr ⟨id, started, rfl⟩)
  | released accepted commit db fewer others =>
      obtain ⟨_, started⟩ := answers.told replica List.mem_cons_self _ accepted
      have split := (storeInstance_spec commit).2.2
      obtain ⟨rows, nodes, _⟩ := releaseInstance_spec split
      rw [List.append_nil] at rows
      rw [db]
      refine h.mono ?_ ?_ ?_
      · intro row inside
        exact rows ▸ inside
      · intro node ip known
        rw [← addresses_congr (nodes.trans (storeInstance_frame commit).1)] at known
        exact known
      -- the agent was asked to stop the new container only
      · intro _ _ c old _ _
        refine others c (mem_start.mpr (.inl old)) fun named => ?_
        rw [truthyText_eq_some named] at started
        exact answers.fresh replica List.mem_cons_self _ started c old rfl

theorem deployReplicas_hosted (replicas : List Nat) {created : List ModelInstance} (h : Hosted s.db s.containers)
    (answers : Answers env s.containers replicas) :
    Hosted (deployReplicas env model replicas created s).2.2.db
      (deployReplicas env model replicas created s).2.2.containers := by
  induction replicas generalizing created s with
  | nil => exact h
  | cons replica rest ih =>
      rw [deployReplicas]
      cases granted : allocateForModel env.lower model s.db with
      | error refusal => exact h
      | ok a =>
          have hosted := launch_hosted h answers granted
          have more := answers.rest fun c => @launch_containers env model a replica s c
          cases launched : launchModelInstance env model a replica s with
          | mk row s' =>
              rw [launched] at hosted more
              cases row with
              | none =>
                  simp only [launched]
                  exact hosted
              | some row =>
                  simp only [launched]
                  exact ih hosted more

/-- The clean-up takes each instance away with its container, and no other container. -/
theorem cleanup_hosted {created : List ModelInstance} {before : List ModelInstance}
    (h : Hosted s.db s.containers)
    (rows : s.db.modelInstances.rows = before ++ created.map (setInstanceStatus "running")) :
    Hosted (cleanupPartialInstances env created s).db (cleanupPartialInstances env created s).containers := by
  induction created generalizing s with
  | nil => exact h
  | cons row rest ih =>
      have split : s.db.modelInstances.rows = before ++
          setInstanceStatus "running" row :: rest.map (setInstanceStatus "running") := rows
      obtain ⟨left, nodes, _⟩ := releaseInstance_spec split
      rw [setInstanceStatus_id] at left nodes
      have db : (dropInstance row.id (stopInstance env row s)).db = releaseInstance row.id s.db := by
        rw [dropInstance, (Deployment.stopInstance_spec env row s).1]
      have stored : setInstanceStatus "running" row ∈ s.db.modelInstances.rows := by simp [split]
      have older : ∀ other ∈ before ++ rest.map (setInstanceStatus "running"),
          other ∈ s.db.modelInstances.rows := by
        intro other inside
        rw [split, List.mem_append, List.mem_cons]
        exact (List.mem_append.mp inside).imp_right .inr
      apply ih
      · refine h.mono ?_ ?_ ?_
        · intro other inside
          rw [db] at inside
          exact older other (left ▸ inside)
        · intro node ip known
          rw [db, addresses_congr nodes]
          exact known
        · intro other inside c member _ named
          rw [db] at inside
          have kept := left ▸ inside
          refine stopInstance_keeps member fun mine => ?_
          have same := h.own other (older other kept) _ stored (named.trans (truthyText_eq_some mine).symm)
          exact Table.key_ne_of_split split kept same
      · rw [db]
        exact left

end Replica

theorem Hosted.mark {db : Database} {containers : List Container} (h : Hosted db containers) (id : ModelId)
    (status : String) : Hosted (markModel id status db) containers :=
  h.congr rfl rfl fun _ member => member

theorem deploy_hosted {env : Env} {id : ModelId} {w : World} (h : Hosted w.db w.containers)
    (genuine : Genuine w (.models (.deploy env id))) :
    Hosted (deployModel env id (modelService w)).2.db (deployModel env id (modelService w)).2.containers := by
  unfold deployModel
  cases passed : deployGuard id (modelService w).db with
  | error refusal => exact h
  | ok model =>
      have answers := genuine model (Deployment.deployGuard_ok passed)
      have hosted := @deployReplicas_hosted env model (Deployment.deploying id (modelService w))
        (Deployment.replicaIndices model) [] (h.mark id "deploying") answers
      have start := Deployment.Undoable.start (Deployment.deploying id (modelService w)).db model.id
      obtain ⟨undoable, _⟩ := @Deployment.loop_undoable env model _ (Deployment.replicaIndices model) [] _ start
      simp only [Deployment.deploying, Deployment.replicaIndices] at hosted undoable ⊢
      cases result : deployReplicas env model (List.range (max model.replicas 1).toNat) []
          { modelService w with db := markModel id "deploying" (modelService w).db } with
      | mk succeeded rest =>
          obtain ⟨created, s'⟩ := rest
          simp only [result] at hosted undoable ⊢
          cases succeeded with
          | true => exact hosted.mark id "online"
          | false => exact (cleanup_hosted hosted undoable.rows).mark id "error"

/-! ## Stops -/

theorem Serves.place {db : Database} {row : ModelInstance} {c : Container} (h : Serves db row c) :
    place db row = some (c.nodeIp, c.containerId) := by
  obtain ⟨node, found, here⟩ := Exclusive.mem_addresses.mp h.host
  rw [StopRetry.place, found, h.named, ← here]

section Stop

variable {db : Database} {containers : List Container}

/-- A stop calls for every instance of the model, and each has a container to call for. -/
theorem Hosted.stoppable (h : Hosted db containers) (id : ModelId) :
    called db (instancesOf id db) = instancesOf id db ∧ OwnContainers db (instancesOf id db) containers := by
  have stored : ∀ row ∈ instancesOf id db, row ∈ db.modelInstances.rows := fun row => List.mem_of_mem_filter
  refine ⟨List.filter_eq_self.mpr ?_, ?_, ?_⟩
  · intro row inside
    obtain ⟨c, _, serves⟩ := h.served row (stored row inside)
    rw [serves.place]
    rfl
  · rw [List.Nodup, List.pairwise_filterMap]
    have unique : (instancesOf id db).Pairwise fun row other => row.id ≠ other.id :=
      List.pairwise_map.mp (db.modelInstances.unique.sublist (List.filter_sublist.map _))
    refine unique.imp_of_mem ?_
    intro row other inside inside' apart p here p' here' same
    obtain ⟨c, _, serves⟩ := h.served row (stored row inside)
    obtain ⟨c', _, serves'⟩ := h.served other (stored other inside')
    rw [serves.place] at here
    rw [serves'.place, ← same, ← here] at here'
    refine apart (h.own row (stored row inside) other (stored other inside') ?_)
    rw [serves.of_id, serves'.of_id, (Prod.mk.inj (Option.some.inj here')).2]
  · intro p asked
    obtain ⟨row, inside, here⟩ := List.mem_filterMap.mp asked
    obtain ⟨c, member, serves⟩ := h.served row (stored row inside)
    rw [serves.place] at here
    exact List.any_eq_true.mpr ⟨c, member, StopRetry.isContainer_iff.mpr (Option.some.inj here).symm⟩

theorem releaseAll_nodes (rows : List ModelInstance) (db : Database) :
    (StopRetry.releaseAll rows db).nodes = db.nodes := by
  induction rows generalizing db with
  | nil => rfl
  | cons row rest ih => exact (ih (releaseInstance row.id db)).trans (StopRetry.releaseInstance_frame row.id db).1

/-- A container that no call is for stays, however the calls end. -/
theorem stopInstances_keeps (calls : InstanceId → StopCall) (rows : List ModelInstance) {s : State} {c : Container}
    (inside : c ∈ s.containers) (other : ∀ row ∈ rows, place s.db row ≠ some (c.nodeIp, c.containerId)) :
    c ∈ (stopInstances calls rows s).2.containers := by
  induction rows generalizing s with
  | nil => exact inside
  | cons row rest ih =>
      have apart : ∀ {p}, place s.db row = some p → isContainer p.1 p.2 c = false := by
        intro p here
        rw [← Bool.not_eq_true, StopRetry.isContainer_iff]
        rintro rfl
        exact other row List.mem_cons_self here
      have spec := StopRetry.callStop_spec calls row s
      rw [stopInstances]
      cases result : callStop calls row s with
      | mk answer s' =>
          rw [result] at spec
          have later : ∀ t : State, t.db = s.db → ∀ row' ∈ rest,
              place (dropInstance row.id t).db row' ≠ some (c.nodeIp, c.containerId) := by
            intro t same row' member
            rw [dropInstance, same, StopRetry.place_congr (StopRetry.releaseInstance_frame row.id s.db).1]
            exact other row' (List.mem_cons_of_mem row member)
          cases spec with
          | skipped nowhere => exact ih (s := dropInstance row.id s') inside (later s' rfl)
          | stopped here served there db containers =>
              refine ih (s := dropInstance row.id s') ?_ (later s' db)
              rw [dropInstance, containers]
              exact List.mem_filter.mpr ⟨inside, by rw [apart here, Bool.not_false]⟩
          | failed here unserved db containers =>
              rw [containers]
              exact agentStop_keeps inside (apart here)
          | missing here absent served db containers => exact containers ▸ inside

end Stop

theorem FirstUntouched.kept {calls : InstanceId → StopCall} {rows : List ModelInstance}
    (h : FirstUntouched calls rows) : StopRetry.FirstKept calls rows := by
  obtain ⟨row, first, remains⟩ := h
  exact ⟨row, first, StopRetry.keeps_of_untouched remains⟩

/-- A container that has been halted serves no instance. -/
theorem not_serves_halt {db : Database} {row : ModelInstance} {c : Container} {p : Place}
    (here : place db row = some p) : ¬ Serves db row (halt p.1 p.2 c) := by
  intro serves
  have same := serves.place
  have alive := serves.alive
  unfold halt at same alive
  split at alive
  · simp [Container.alive] at alive
  · rename_i other
    rw [if_neg other, here, Option.some.injEq] at same
    exact other (by rw [StopRetry.isContainer_iff.mpr same, alive, Bool.and_self])

/-- Where the first call fails with its container still there, the instance is served on
    exactly when the call has not touched it. -/
theorem first_kept_iff {calls : InstanceId → StopCall} {id : ModelId} {db : Database} {containers : List Container}
    {row : ModelInstance} {p : Place} (h : Hosted db containers) (first : (instancesOf id db).head? = some row)
    (here : place db row = some p) (remains : keeps (calls row.id) = true) :
    Hosted db (agentStop (calls row.id) p.1 p.2 containers).2 ↔
      AllServed calls (instancesOf id db) ∨ FirstUntouched calls (instancesOf id db) := by
  have inside := List.mem_of_head? first
  cases same : untouched (calls row.id) with
  | true =>
      rw [StopRetry.agentStop_untouched same]
      exact iff_of_true h (.inr ⟨row, first, same⟩)
  | false =>
      refine iff_of_false ?_ ?_
      · intro after
        rw [StopRetry.agentStop_touched remains same] at after
        obtain ⟨c, member, serves⟩ := after.served row (List.mem_of_mem_filter inside)
        obtain ⟨old, _, rfl⟩ := List.mem_map.mp member
        exact not_serves_halt here serves
      · rintro (served | ⟨row', first', remains'⟩)
        · rw [served row inside] at remains
          cases remains
        · rw [first] at first'
          cases first'
          rw [same] at remains'
          cases remains'

theorem stop_iff (calls : InstanceId → StopCall) (id : ModelId) {w : World} (h : Hosted w.db w.containers) :
    Hosted (attempt id calls (modelService w)).db (attempt id calls (modelService w)).containers ↔
      Careful w (.models (.stop calls id)) := by
  cases found : w.db.models.get id with
  | none =>
      have same : attempt id calls (modelService w) = modelService w := by
        simp only [attempt, stopModel, modelService, found]
      rw [same]
      exact iff_of_true h (by simp [Careful, found])
  | some model =>
      have stored : ((modelService w).db.models.get id).isSome = true := Option.isSome_of_eq_some found
      have careful : Careful w (.models (.stop calls id)) ↔
          AllServed calls (instancesOf id w.db) ∨ FirstUntouched calls (instancesOf id w.db) := by
        simp [Careful, found]
      obtain ⟨all, own⟩ := h.stoppable id
      have succeeds := @StopRetry.stopModel_ok_iff id calls (modelService w) stored
      simp only [modelService, all, own, and_true] at succeeds
      rw [careful]
      cases @StopRetry.attempt_spec id calls (modelService w) stored with
      | completed succeeded =>
          refine iff_of_true ?_ (.inl (succeeds.mp succeeded))
          have wrote := StopRetry.attempt_db stored succeeded
          rw [wrote]
          refine Hosted.mark (h.mono ?_ ?_ ?_) id "offline"
          · exact fun row inside => (StopRetry.mem_releaseAll_instancesOf.mp inside).1
          · intro node ip known
            rw [addresses_congr (releaseAll_nodes _ _)]
            exact known
          · intro row inside c member _ named
            obtain ⟨here, other⟩ := StopRetry.mem_releaseAll_instancesOf.mp inside
            rw [StopRetry.attempt_containers stored]
            refine stopInstances_keeps calls _ member ?_
            intro gone listed asked
            obtain ⟨mine, model'⟩ : gone ∈ w.db.modelInstances.rows ∧ gone.modelId = id := by
              simpa [instancesOf, modelService] using listed
            obtain ⟨c', _, serves⟩ := h.served gone mine
            have same := (Prod.mk.inj (Option.some.inj (serves.place.symm.trans asked))).2
            have ids := h.own row here gone mine (named.trans (same ▸ serves.of_id.symm))
            obtain rfl := List.inj_on_of_nodup_map w.db.modelInstances.unique here mine ids
            exact other model'
      | @kept failed row p first here remains containers =>
          rw [StopRetry.attempt_failed failed, containers]
          exact first_kept_iff h (all ▸ first) here remains
      | broken failed unkept asked absent =>
          refine iff_of_false ?_ ?_
          -- the roll-back brings the row back, and the container stays away
          · intro after
            rw [StopRetry.attempt_failed failed] at after
            have there := (after.stoppable id).2.2 _ asked
            rw [absent] at there
            cases there
          · rintro (served | first)
            · exact failed (succeeds.mpr served)
            · exact unkept (all.symm ▸ first.kept)

/-! ## Runs -/

theorem step_iff (op : Op) {w : World} (h : Hosted w.db w.containers) (genuine : Genuine w op) :
    Hosted (exec op w).db (exec op w).containers ↔ Careful w op := by
  have catalogue : ∀ models, Hosted { w.db with models } w.containers := fun models =>
    h.congr rfl rfl fun _ member => member
  cases op with
  | platform op => exact platform_iff op h
  | delete user t =>
      refine iff_of_true ?_ trivial
      simp only [exec]
      split
      · rename_i db deleted
        obtain ⟨_, _, nodes, _⟩ := TaskService.deleteTask_spec deleted
        obtain ⟨_, instances, _⟩ := TaskService.deleteTask_frame deleted
        exact h.congr instances nodes fun _ member => member
      · exact h
  | models op =>
      cases op with
      | deploy env id => exact iff_of_true (deploy_hosted h genuine) trivial
      | stop calls id => exact stop_iff calls id h
      | create id payload =>
          refine iff_of_true ?_ trivial
          simp only [exec, Catalogue.exec]
          split
          · rename_i db created
            obtain ⟨models, rfl⟩ := ForeignKeys.createModel_spec created
            exact catalogue models
          · exact h
      | update id payload =>
          refine iff_of_true ?_ trivial
          simp only [exec, Catalogue.exec]
          split
          · rename_i db updated
            obtain ⟨models, rfl⟩ := SharedCluster.updateModel_models updated
            exact catalogue models
          · exact h
      | delete id =>
          refine iff_of_true ?_ trivial
          simp only [exec, Catalogue.exec]
          split
          · rename_i db deleted
            obtain ⟨models, rfl⟩ := SharedCluster.deleteModel_models deleted
            exact catalogue models
          · exact h

theorem hosted_start : Hosted ({} : World).db ({} : World).containers :=
  ⟨fun _ inside => (List.not_mem_nil inside).elim, fun _ inside => (List.not_mem_nil inside).elim⟩

/-- From the empty database on, whatever happens on the cluster: every instance is served by a
    container of its own, as long as no container of an instance stops or is removed by itself
    and no stop of a model stops or removes a container and then fails, and no longer. -/
theorem hosted_iff (ops : List Op) (genuine : Runs.Along exec Genuine ops {}) :
    Runs.Along exec (fun w op => Hosted (exec op w).db (exec op w).containers) ops {} ↔
      Runs.Along exec Careful ops {} := by
  have both : Runs.Along exec (fun w op => Hosted (exec op w).db (exec op w).containers ∧ Genuine w op) ops {} ↔
      Runs.Along exec (fun w op => Careful w op ∧ Genuine w op) ops {} := by
    apply Runs.along_congr (I := fun w : World => Hosted w.db w.containers)
    · exact fun w op _ after => after.1
    · exact fun w op h => and_congr_left fun genuine => step_iff op h genuine
    · exact hosted_start
  rwa [Runs.along_and, Runs.along_and, and_iff_left genuine, and_iff_left genuine] at both

/-! ## What clients and operators see -/

theorem route_mem {startedAt : InstanceId → Time} {counters : AIService.Counters} {payload : Dict} {db : Database}
    {row : ModelInstance} (routed : (AIService.route startedAt counters payload db).1 = .ok row) :
    row ∈ db.modelInstances.rows := by
  unfold AIService.route at routed
  split at routed
  · split at routed
    · cases routed
    · split at routed
      · cases routed
      · rename_i model _
        rcases AIService.selectRunningInstance_spec startedAt counters model.id db with
          ⟨_, refused, _⟩ | ⟨other, listed, selected⟩
        · split at routed
          · cases routed
          · rename_i result
            rw [result] at refused
            cases refused
        · split at routed
          · cases routed
          · rename_i result
            rw [result] at selected
            cases selected
            cases routed
            exact (AIService.mem_runningInstances.mp listed).1
  · split at routed <;> cases routed
  · cases routed

/-- After a careful run the gateway routes every request to an instance whose own container is
    up at the endpoint, and a stop of a model succeeds whenever its calls are served. -/
theorem deployed_serves (ops : List Op) (genuine : Runs.Along exec Genuine ops {})
    (careful : Runs.Along exec Careful ops {}) :
    let w := Runs.run exec ops {}
    (∀ startedAt counters payload row, (AIService.route startedAt counters payload w.db).1 = .ok row →
      ∃ c ∈ w.containers, Serves w.db row c ∧
        ∀ other ∈ w.db.modelInstances.rows, Serves w.db other c → other = row) ∧
    ∀ calls id, (w.db.models.get id).isSome = true →
      ((stopModel calls id (modelService w)).1 = .ok () ↔ AllServed calls (instancesOf id w.db)) := by
  intro w
  have hosted : Hosted w.db w.containers := by
    refine Runs.Along.invariant (I := fun w : World => Hosted w.db w.containers) ?_
      (Runs.along_and.mpr ⟨genuine, careful⟩) hosted_start
    exact fun w op h kept => (step_iff op h kept.1).mpr kept.2
  constructor
  · intro startedAt counters payload row routed
    have inside := route_mem routed
    obtain ⟨c, member, serves⟩ := hosted.served row inside
    refine ⟨c, member, serves, fun other listed serves' => ?_⟩
    have same := hosted.own other listed row inside (serves'.of_id.trans serves.of_id.symm)
    exact List.inj_on_of_nodup_map w.db.modelInstances.unique listed inside same
  · intro calls id stored
    obtain ⟨all, own⟩ := hosted.stoppable id
    have succeeds := @StopRetry.stopModel_ok_iff id calls (modelService w) stored
    simpa only [modelService, all, own, and_true] using succeeds

/-! ## One instance -/

/-- The agent starts the container it reports. -/
def sampleEnv : Env where
  replica := fun _ => { instanceId := "i", started := some "c", response := .accepted (some "c") }

/-- A node reports a GPU, and a model is created and deployed there. -/
def sampleDeployed : List Op :=
  [.platform (.heartbeat { nodeId := "n", now := 0 } {
      hostname := "host"
      ip := "10.0.0.1"
      gpus := [{ index := 0, model := "A100" }] }),
    .models (.create "m" Catalogue.Sample.payload), .models (.deploy sampleEnv "m")]

/-- The model is stopped, with one outcome for every call. -/
def sampleStopped (call : StopCall) : List Op := sampleDeployed ++ [.models (.stop (fun _ => call) "m")]

theorem sample_genuine : Runs.Along exec Genuine sampleDeployed {} := by
  refine ⟨trivial, trivial, ?_, trivial⟩
  intro model found
  obtain rfl : ModelService.newModel "m" Catalogue.Sample.payload = model := Option.some.inj found
  refine ⟨?_, ?_, by decide⟩
  · rintro _ _ answer ⟨⟩
    exact ⟨by decide, rfl⟩
  · intro _ _ _ _ c member
    cases member

theorem sample_careful : Runs.Along exec Careful sampleDeployed {} := ⟨trivial, trivial, trivial, trivial⟩

theorem sample_instances : (instancesOf "m" (Runs.run exec sampleDeployed {}).db).map (·.id) = ["i"] := by
  decide +kernel

/-- Where the answer of the one stop call is lost, an instance without a container stays. -/
theorem stop_lost_or_served :
    Runs.Along exec (fun w op => Hosted (exec op w).db (exec op w).containers) (sampleStopped .served) {} ∧
      ¬ Runs.Along exec (fun w op => Hosted (exec op w).db (exec op w).containers)
        (sampleStopped (.lost "timed out")) {} := by
  have genuine : ∀ call, Runs.Along exec Genuine (sampleStopped call) {} := fun call =>
    Runs.along_append.mpr ⟨sample_genuine, trivial, trivial⟩
  constructor
  · apply (hosted_iff (sampleStopped .served) (genuine _)).mpr
    exact Runs.along_append.mpr ⟨sample_careful, fun _ => .inl fun _ _ => rfl, trivial⟩
  · intro hosted
    have careful := (hosted_iff (sampleStopped (.lost "timed out")) (genuine _)).mp hosted
    rcases (Runs.along_append.mp careful).2.1 (by decide +kernel) with served | ⟨_, _, kept⟩
    · have some_ : "i" ∈ (instancesOf "m" (Runs.run exec sampleDeployed {}).db).map (·.id) := by
        simp [sample_instances]
      obtain ⟨row, inside, _⟩ := List.mem_map.mp some_
      cases served row inside
    · cases kept

theorem sample_served :
    (stopModel (fun _ => .served) "m" (modelService (Runs.run exec sampleDeployed {}))).1 = .ok () := by
  apply ((deployed_serves sampleDeployed sample_genuine sample_careful).2 _ "m" (by decide +kernel)).mpr
  exact fun _ _ => rfl

end SuitApi.Hosting
