import SuitApi.ModelService

/-! # Deployments that fail

`deploy_model` commits every replica on its own, so a rollback does not undo a
deployment that fails halfway.  What undoes it is the clean-up: it releases the
GPUs of each stored instance, which were idle before, and deletes its row.
-/

namespace SuitApi.Deployment

open ModelService

/-- The generated keys are new, so that every commit of the deployment succeeds. -/
structure Committing (env : Env) (db : Database) (replicas : List Nat) : Prop where
  fresh : ∀ replica ∈ replicas, db.modelInstances.get (env.replica replica).instanceId = none
  distinct : (replicas.map fun replica => (env.replica replica).instanceId).Nodup

/-! ## What is stored and can be undone -/

/-- Since `before` the deployment has stored these instances of the model, on GPUs that
    were idle. -/
structure Undoable (before : Database) (id : ModelId) (created : List ModelInstance) (db : Database) :
    Prop where
  nodes : db.nodes = before.nodes
  models : db.models = before.models
  rows : db.modelInstances.rows =
    before.modelInstances.rows ++ created.map (setInstanceStatus "running")
  others : ∀ node index, (∀ row ∈ created, ¬ row.Lists node index) →
    db.gpus.get (node, index) = before.gpus.get (node, index)
  taken : ∀ row ∈ created, ∀ node index, row.Lists node index →
    ∃ gpu status, before.gpus.get (node, index) = some gpu ∧ gpu.status = .idle ∧
      db.gpus.get (node, index) = some (gpu.withStatus status)
  located : ∀ row ∈ created, (before.nodes.get row.nodeId).isSome = true
  own : ∀ row ∈ created, row.modelId = id

theorem Undoable.start (db : Database) (id : ModelId) : Undoable db id [] db where
  nodes := rfl
  models := rfl
  rows := (List.append_nil _).symm
  others _ _ _ := rfl
  taken row inside := by cases inside
  located row inside := by cases inside
  own row inside := by cases inside

theorem Undoable.congr {before db db' : Database} {id : ModelId} {created : List ModelInstance}
    (h : Undoable before id created db) (nodes : db'.nodes = db.nodes) (models : db'.models = db.models)
    (rows : db'.modelInstances.rows = db.modelInstances.rows)
    (gpus : ∀ node index, db'.gpus.get (node, index) = db.gpus.get (node, index)) :
    Undoable before id created db' where
  nodes := nodes.trans h.nodes
  models := models.trans h.models
  rows := rows.trans h.rows
  others node index unlisted := (gpus node index).trans (h.others node index unlisted)
  taken row inside node index listed := by
    rw [gpus]
    exact h.taken row inside node index listed
  located := h.located
  own := h.own

/-- A GPU that the database shows as idle was idle before. -/
theorem Undoable.idle {before db : Database} {id : ModelId} {created : List ModelInstance}
    (h : Undoable before id created db) {node : NodeId} {index : Int} {gpu : GpuDevice} (found : db.gpus.get (node, index) = some gpu)
    (idle : gpu.status = .idle) : before.gpus.get (node, index) = some gpu := by
  by_cases listed : ∃ row ∈ created, row.Lists node index
  · obtain ⟨row, inside, here⟩ := listed
    obtain ⟨old, status, was, wasIdle, is⟩ := h.taken row inside node index here
    rw [found, Option.some.injEq] at is
    subst is
    simp only [GpuDevice.withStatus_status] at idle
    rw [idle, ← wasIdle, GpuDevice.withStatus_same]
    exact was
  · rw [← h.others node index fun row inside here => listed ⟨row, inside, here⟩]
    exact found

/-- Releasing the first of the stored instances leaves the others to be undone. -/
theorem Undoable.release {before db : Database} {id : ModelId} {row : ModelInstance} {rest : List ModelInstance}
    (h : Undoable before id (row :: rest) db) : Undoable before id rest (releaseInstance row.id db) := by
  have split : db.modelInstances.rows = before.modelInstances.rows ++
      setInstanceStatus "running" row :: rest.map (setInstanceStatus "running") := h.rows
  obtain ⟨rows, nodes, models, gpus⟩ := releaseInstance_spec split
  have lists : ∀ node index, (setInstanceStatus "running" row).Lists node index ↔ row.Lists node index :=
    fun _ _ => Iff.rfl
  simp only [setInstanceStatus_id, lists] at rows nodes models gpus
  have undone : ∀ node index, row.Lists node index →
      (releaseInstance row.id db).gpus.get (node, index) = before.gpus.get (node, index) := by
    intro node index here
    obtain ⟨gpu, status, was, idle, is⟩ := h.taken row List.mem_cons_self node index here
    rw [gpus, is, Option.map_some, if_pos here, was, GpuDevice.withStatus_withStatus, ← idle,
      GpuDevice.withStatus_same]
  have kept : ∀ node index, ¬ row.Lists node index →
      (releaseInstance row.id db).gpus.get (node, index) = db.gpus.get (node, index) := by
    intro node index other
    rw [gpus]
    simp [other]
  refine ⟨nodes.trans h.nodes, models.trans h.models, rows, ?_, ?_, ?_, ?_⟩
  · intro node index unlisted
    by_cases here : row.Lists node index
    · exact undone node index here
    · rw [kept node index here]
      exact h.others node index (by simpa [here] using unlisted)
  · intro other inside node index listed
    obtain ⟨gpu, status, was, idle, is⟩ := h.taken other (List.mem_cons_of_mem row inside) node index listed
    by_cases here : row.Lists node index
    · refine ⟨gpu, .idle, was, idle, ?_⟩
      rw [undone node index here, was, ← idle, GpuDevice.withStatus_same]
    · exact ⟨gpu, status, was, idle, (kept node index here).trans is⟩
  · exact fun other inside => h.located other (List.mem_cons_of_mem row inside)
  · exact fun other inside => h.own other (List.mem_cons_of_mem row inside)

/-! ## One replica -/

section Replica

variable {db db' : Database} {lower : String → String} {model : Model} {a : ModelService.Allocation}
  {id : InstanceId} {containerId : Option ContainerId}

theorem newInstance_lists (node : NodeId) (index : Int) :
    (newInstance id model.id a containerId).Lists node index ↔ node = a.nodeId ∧ index ∈ a.gpuIndices :=
  and_congr_left' eq_comm

theorem stored_gpus (stored : storeInstance (newInstance id model.id a containerId) a db = some db')
    (node : NodeId) (index : Int) :
    db'.gpus.get (node, index) = (db.gpus.get (node, index)).map fun gpu =>
      if node = a.nodeId ∧ index ∈ a.gpuIndices then gpu.withStatus .allocated else gpu := by
  rw [(storeInstance_spec stored).1]
  exact setGpus_get .allocated a.nodeId a.gpuIndices db node index

theorem marked_rows (stored : storeInstance (newInstance id model.id a containerId) a db = some db') :
    (markInstance id "running" db').modelInstances.rows =
      db.modelInstances.rows ++ [setInstanceStatus "running" (newInstance id model.id a containerId)] :=
  Table.update_rows_of_split (r := newInstance id model.id a containerId) (storeInstance_spec stored).2.2
    (setInstanceStatus "running") (setInstanceStatus_id "running")

variable {before : Database} {created : List ModelInstance}

/-- The commit of a new instance, on the GPUs it has been granted. -/
theorem Undoable.store (h : Undoable before model.id created db)
    (granted : allocateForModel lower model db = .ok a)
    (stored : storeInstance (newInstance id model.id a containerId) a db = some db') :
    Undoable before model.id (created ++ [newInstance id model.id a containerId])
      (markInstance id "running" db') := by
  obtain ⟨nodes, models⟩ := storeInstance_frame stored
  have wrote := stored_gpus stored
  refine ⟨nodes.trans h.nodes, models.trans h.models, ?_, ?_, ?_, ?_, ?_⟩
  · rw [marked_rows stored, h.rows]
    simp
  · intro node index unlisted
    have other : ¬ (node = a.nodeId ∧ index ∈ a.gpuIndices) := fun here =>
      unlisted (newInstance id model.id a containerId) (by simp) ((newInstance_lists node index).mpr here)
    refine (wrote node index).trans ?_
    rw [← h.others node index fun row inside => unlisted row (by simp [inside])]
    simp [other]
  · intro row inside node index listed
    by_cases here : node = a.nodeId ∧ index ∈ a.gpuIndices
    · obtain ⟨rfl, member⟩ := here
      obtain ⟨gpu, found, idle⟩ := allocateForModel_idle granted member
      refine ⟨gpu, .allocated, h.idle found idle, idle, (wrote _ index).trans ?_⟩
      simp [found, member]
    · rcases List.mem_append.mp inside with old | new
      · obtain ⟨gpu, status, was, idle, is⟩ := h.taken row old node index listed
        refine ⟨gpu, status, was, idle, (wrote node index).trans ?_⟩
        simp [is, here]
      · rw [List.mem_singleton.mp new, newInstance_lists] at listed
        exact absurd listed here
  · intro row inside
    rcases List.mem_append.mp inside with old | new
    · exact h.located row old
    · obtain ⟨⟨node, found, _⟩, _⟩ := allocateForModel_node granted
      rw [List.mem_singleton.mp new, ← h.nodes]
      exact Option.isSome_of_eq_some found
  · intro row inside
    rcases List.mem_append.mp inside with old | new
    · exact h.own row old
    · rw [List.mem_singleton.mp new]
      rfl

/-- An instance that never became healthy is taken back at once. -/
theorem Undoable.unstore (h : Undoable before model.id created db)
    (granted : allocateForModel lower model db = .ok a)
    (stored : storeInstance (newInstance id model.id a containerId) a db = some db') :
    Undoable before model.id created (releaseInstance id db') := by
  obtain ⟨nodes, models⟩ := storeInstance_frame stored
  obtain ⟨rows', nodes', models', gpus'⟩ := releaseInstance_spec (storeInstance_spec stored).2.2
  rw [List.append_nil] at rows'
  refine h.congr (nodes'.trans nodes) (models'.trans models) rows' fun node index => ?_
  refine (gpus' node index).trans ?_
  rw [stored_gpus stored]
  simp only [newInstance_lists]
  cases found : db.gpus.get (node, index) with
  | none => rfl
  | some gpu =>
      by_cases here : node = a.nodeId ∧ index ∈ a.gpuIndices
      · obtain ⟨rfl, member⟩ := here
        obtain ⟨old, found', idle⟩ := allocateForModel_idle granted member
        rw [found] at found'
        cases found'
        simp [member, ← idle, GpuDevice.withStatus_same]
      · simp [here]

end Replica

/-- The stop requests for a stored instance. -/
def requested (db : Database) (row : ModelInstance) : List ContainerId :=
  match db.nodes.get row.nodeId with
  | some _ => (truthyText row.containerId).toList
  | none => []

theorem stopInstance_spec (env : Env) (row : ModelInstance) (s : State) :
    (stopInstance env row s).db = s.db ∧
      (stopInstance env row s).stopRequests = s.stopRequests ++ requested s.db row := by
  unfold stopInstance requested
  cases s.db.nodes.get row.nodeId with
  | none => simp
  | some node => cases truthyText row.containerId <;> simp

/-- The container id an agent has reported. -/
def reportedId : RunResponse → Option ContainerId
  | .accepted containerId => truthyText containerId
  | .raised _ | .refused _ => none

/-- How `_launch_model_instance` ends when its commits succeed. -/
inductive Launched (env : Env) (model : Model) (a : ModelService.Allocation) (replica : Nat) (s : State) :
    Option ModelInstance → State → Prop
  | unreported {s' : State} (silent : reportedId (env.replica replica).response = none) (db : s'.db = s.db)
      (requests : s'.stopRequests = s.stopRequests) : Launched env model a replica s none s'
  | unhealthy {s' : State} {containerId : Option ContainerId} {stored : Database}
      (accepted : (env.replica replica).response = .accepted containerId)
      (commit : storeInstance (newInstance (env.replica replica).instanceId model.id a containerId) a s.db =
        some stored)
      (db : s'.db = releaseInstance (env.replica replica).instanceId stored)
      (requests : s'.stopRequests = s.stopRequests ++
        requested stored (newInstance (env.replica replica).instanceId model.id a containerId)) :
      Launched env model a replica s none s'
  | running {s' : State} {containerId : Option ContainerId} {stored : Database}
      (accepted : (env.replica replica).response = .accepted containerId)
      (commit : storeInstance (newInstance (env.replica replica).instanceId model.id a containerId) a s.db =
        some stored)
      (db : s'.db = markInstance (env.replica replica).instanceId "running" stored)
      (requests : s'.stopRequests = s.stopRequests) :
      Launched env model a replica s
        (some (newInstance (env.replica replica).instanceId model.id a containerId)) s'

theorem launchModelInstance_spec (env : Env) (model : Model) (a : ModelService.Allocation) (replica : Nat)
    {s : State} (fresh : s.db.modelInstances.get (env.replica replica).instanceId = none) :
    Launched env model a replica s (launchModelInstance env model a replica s).1
      (launchModelInstance env model a replica s).2 := by
  unfold launchModelInstance
  cases response : (env.replica replica).response with
  | raised exc =>
      simp only [response]
      exact .unreported (by rw [response]; rfl) rfl rfl
  | refused text =>
      simp only [response]
      exact .unreported (by rw [response]; rfl) rfl rfl
  | accepted containerId =>
      obtain ⟨stored, commit⟩ := storeInstance_isSome
        (newInstance (env.replica replica).instanceId model.id a containerId) a fresh
      have commit' : storeInstance (newInstance (env.replica replica).instanceId model.id a containerId) a
          (start env model a replica s).db = some stored := commit
      simp only [response, commit']
      split
      · exact .running response commit rfl rfl
      · obtain ⟨db, requests⟩ := stopInstance_spec env
          (newInstance (env.replica replica).instanceId model.id a containerId)
          { start env model a replica s with db := stored }
        refine .unhealthy response commit ?_ requests
        exact congrArg (releaseInstance _) db

/-! ## The replica loop -/

/-- The containers that the agents report while the replicas are launched. -/
def reported (env : Env) (model : Model) : List Nat → State → List ContainerId
  | [], _ => []
  | replica :: rest, s =>
      match allocateForModel env.lower model s.db with
      | .error _ => []
      | .ok a =>
          (reportedId (env.replica replica).response).toList ++
            match launchModelInstance env model a replica s with
            | (none, _) => []
            | (some _, s') => reported env model rest s'

theorem Committing.rest {env : Env} {db db' : Database} {replica : Nat} {rest : List Nat}
    (h : Committing env db (replica :: rest)) {row : ModelInstance}
    (here : row.id = (env.replica replica).instanceId)
    (rows : db'.modelInstances.rows = db.modelInstances.rows ++ [row]) : Committing env db' rest where
  fresh other inside := by
    have distinct := h.distinct
    rw [List.map_cons, List.nodup_cons] at distinct
    rw [Table.get_eq_none, rows]
    intro old member same
    rcases List.mem_append.mp member with before | new
    · exact Table.get_eq_none.mp (h.fresh other (List.mem_cons_of_mem _ inside)) old before same
    · rw [List.mem_singleton.mp new, here] at same
      exact distinct.1 (List.mem_map.mpr ⟨other, inside, same.symm⟩)
  distinct := (List.nodup_cons.mp h.distinct).2

/-- Every container that is reported is either asked to stop or belongs to an instance that
    is stored. -/
structure Deployed (env : Env) (model : Model) (replicas : List Nat) (created : List ModelInstance) (s : State)
    (result : Bool × List ModelInstance × State) : Prop where
  grows : ∀ row ∈ created, row ∈ result.2.1
  stops : ∃ sent, result.2.2.stopRequests = s.stopRequests ++ sent ∧
    ∀ id ∈ reported env model replicas s, id ∈ sent ∨ ∃ row ∈ result.2.1, truthyText row.containerId = some id

theorem deployReplicas_spec {env : Env} {model : Model} {replicas : List Nat} {created : List ModelInstance}
    {s : State} (committing : Committing env s.db replicas) :
    Deployed env model replicas created s (deployReplicas env model replicas created s) := by
  induction replicas generalizing created s with
  | nil => exact ⟨fun row inside => inside, [], by simp [deployReplicas], by simp [reported]⟩
  | cons replica rest ih =>
      rw [deployReplicas]
      cases granted : allocateForModel env.lower model s.db with
      | error refusal => exact ⟨fun row inside => inside, [], by simp, by simp [reported, granted]⟩
      | ok a =>
          have fresh := committing.fresh replica List.mem_cons_self
          have launched := launchModelInstance_spec env model a replica fresh
          cases result : launchModelInstance env model a replica s with
          | mk launch s' =>
              simp only [result] at launched ⊢
              cases launched with
              | unreported silent db requests =>
                  exact ⟨fun row inside => inside, [], by simp [requests], by simp [reported, granted, result, silent]⟩
              | unhealthy accepted commit db requests =>
                  refine ⟨fun row inside => inside, _, requests, ?_⟩
                  intro id inside
                  left
                  obtain ⟨⟨node, found, _⟩, _⟩ := allocateForModel_node granted
                  rw [← (storeInstance_frame commit).1] at found
                  simpa [reported, granted, result, accepted, reportedId, requested, newInstance, found]
                    using inside
              | running accepted commit db requests =>
                  rename_i containerId stored
                  have rows := marked_rows commit
                  rw [← db] at rows
                  have next := @ih (created ++ [newInstance (env.replica replica).instanceId model.id a containerId])
                    s' (committing.rest rfl rows)
                  obtain ⟨sent, wrote, covered⟩ := next.stops
                  refine ⟨fun row inside => next.grows row (by simp [inside]), sent, ?_, ?_⟩
                  · rw [← requests]
                    exact wrote
                  · intro id inside
                    simp only [reported, granted, result, accepted, reportedId, List.mem_append,
                      Option.mem_toList] at inside
                    cases inside with
                    | inl here =>
                        exact .inr ⟨_, next.grows _ (List.mem_append_right _ (List.mem_singleton_self _)), here⟩
                    | inr later => exact covered id later

/-- What one replica has stored can be undone, also where its commit fails. -/
theorem launch_undoable {env : Env} {model : Model} {a : ModelService.Allocation} {before : Database}
    {created : List ModelInstance} (replica : Nat) {s : State} (h : Undoable before model.id created s.db)
    (granted : allocateForModel env.lower model s.db = .ok a) :
    Undoable before model.id (created ++ (launchModelInstance env model a replica s).1.toList)
      (launchModelInstance env model a replica s).2.db := by
  have unchanged : Undoable before model.id (created ++ []) s.db := by simpa using h
  unfold launchModelInstance
  cases response : (env.replica replica).response with
  | raised | refused =>
      simp only [response]
      exact unchanged
  | accepted containerId =>
      cases commit : storeInstance (newInstance (env.replica replica).instanceId model.id a containerId) a s.db with
      | none =>
          simp only [response, start, commit]
          exact unchanged
      | some stored =>
          simp only [response, start, commit]
          split
          · exact h.store granted commit
          · simp only [dropInstance, stopInstance_spec]
            simpa [newInstance] using h.unstore granted commit

theorem loop_undoable {env : Env} {model : Model} {before : Database} (replicas : List Nat)
    {created : List ModelInstance} {s : State} (h : Undoable before model.id created s.db) :
    Undoable before model.id (deployReplicas env model replicas created s).2.1
        (deployReplicas env model replicas created s).2.2.db ∧
      ((deployReplicas env model replicas created s).1 = true →
        (deployReplicas env model replicas created s).2.1.length = created.length + replicas.length) := by
  induction replicas generalizing created s with
  | nil => exact ⟨h, fun _ => rfl⟩
  | cons replica rest ih =>
      rw [deployReplicas]
      cases granted : allocateForModel env.lower model s.db with
      | error refusal => exact ⟨h, by simp⟩
      | ok a =>
          have launched := launch_undoable replica h granted
          cases result : launchModelInstance env model a replica s with
          | mk row s' =>
              rw [result] at launched
              cases row with
              | none =>
                  simp only [result]
                  exact ⟨by simpa using launched, by simp⟩
              | some row =>
                  simp only [result]
                  obtain ⟨undoable, complete⟩ := ih launched
                  refine ⟨undoable, fun succeeded => (complete succeeded).trans ?_⟩
                  simp only [Option.toList_some, List.length_append, List.length_cons, List.length_nil]
                  omega

/-! ## The clean-up -/

theorem cleanup_spec {env : Env} {before : Database} {id : ModelId} {created : List ModelInstance} {s : State}
    (h : Undoable before id created s.db) :
    Undoable before id [] (cleanupPartialInstances env created s).db ∧
      (cleanupPartialInstances env created s).stopRequests =
        s.stopRequests ++ created.flatMap (requested before) := by
  induction created generalizing s with
  | nil => exact ⟨h, by simp [cleanupPartialInstances]⟩
  | cons row rest ih =>
      obtain ⟨db, requests⟩ := stopInstance_spec env row s
      have dropped : Undoable before id rest (dropInstance row.id (stopInstance env row s)).db := by
        rw [dropInstance, db]
        exact h.release
      obtain ⟨undone, sent⟩ := ih dropped
      have nodes : requested s.db row = requested before row := by rw [requested, h.nodes, requested]
      refine ⟨undone, sent.trans ?_⟩
      simp [dropInstance, requests, nodes]

theorem Undoable.undone {before db : Database} {id : ModelId} (h : Undoable before id [] db) :
    (∀ slot, db.gpus.get slot = before.gpus.get slot) ∧ db.modelInstances.rows = before.modelInstances.rows ∧
      db.models = before.models := by
  refine ⟨fun slot => h.others slot.1 slot.2 (by simp), ?_, h.models⟩
  rw [h.rows, List.map_nil, List.append_nil]

/-- The state in which the first replica is allocated. -/
def deploying (id : ModelId) (s : State) : State := { s with db := markModel id "deploying" s.db }

/-- The indices of the replica loop. -/
abbrev replicaIndices (model : Model) : List Nat := List.range (max model.replicas 1).toNat

theorem deployGuard_ok {id : ModelId} {db : Database} {model : Model} (passed : deployGuard id db = .ok model) :
    db.models.get id = some model := by
  unfold deployGuard at passed
  split at passed
  · cases passed
  · rename_i row found
    split at passed
    · cases passed
    · split at passed
      · cases passed
      · split at passed
        · cases passed
        · cases passed
          exact found

theorem markModel_get (id : ModelId) (status : String) (db : Database) (other : ModelId) :
    (markModel id status db).models.get other =
      if other = id then (db.models.get other).map (setModelStatus status) else db.models.get other :=
  Table.get_update db.models id _ (setModelStatus_id status) other

/-- A deployment that passes its guards and raises restores every GPU and every instance
    row, leaves the model in `error`, and has asked every container to stop that was
    reported to it. -/
theorem failed_deployment_leaves_nothing (env : Env) (id : ModelId) (s : State) {model : Model}
    (passed : deployGuard id s.db = .ok model) (committing : Committing env s.db (replicaIndices model))
    (raised : (deployModel env id s).1 = false) :
    (∀ slot, (deployModel env id s).2.db.gpus.get slot = s.db.gpus.get slot) ∧
      (deployModel env id s).2.db.modelInstances.rows = s.db.modelInstances.rows ∧
      (deployModel env id s).2.db.models.get id = some (setModelStatus "error" model) ∧
      ∃ sent, (deployModel env id s).2.stopRequests = s.stopRequests ++ sent ∧
        ∀ container ∈ reported env model (replicaIndices model) (deploying id s), container ∈ sent := by
  have key : model.id = id := Table.key_of_get (deployGuard_ok passed)
  have loop : Deployed env model (replicaIndices model) [] (deploying id s)
      (deployReplicas env model (replicaIndices model) [] (deploying id s)) :=
    deployReplicas_spec ⟨committing.fresh, committing.distinct⟩
  have start := Undoable.start (deploying id s).db model.id
  obtain ⟨undoable, _⟩ := @loop_undoable env model _ (replicaIndices model) [] (deploying id s) start
  simp only [deployModel, passed] at raised ⊢
  simp only [deploying, replicaIndices] at loop undoable ⊢
  cases result : deployReplicas env model (List.range (max model.replicas 1).toNat) []
    { s with db := markModel id "deploying" s.db } with
  | mk succeeded rest =>
      obtain ⟨created, s'⟩ := rest
      simp only [result] at loop undoable raised ⊢
      cases succeeded with
      | true => cases raised
      | false =>
          obtain ⟨undone, cleaned⟩ := @cleanup_spec env _ _ _ _ undoable
          obtain ⟨gpus, rows, models⟩ := undone.undone
          obtain ⟨sent, wrote, covered⟩ := loop.stops
          refine ⟨gpus, rows, ?_, sent ++ created.flatMap (requested (deploying id s).db), ?_, ?_⟩
          · refine (markModel_get id "error" _ id).trans ?_
            rw [if_pos rfl, models, markModel_get, if_pos rfl, deployGuard_ok passed]
            rfl
          · refine cleaned.trans ?_
            rw [wrote, List.append_assoc]
            rfl
          · intro container inside
            rcases covered container inside with stopped | ⟨row, member, here⟩
            · exact List.mem_append_left _ stopped
            · obtain ⟨node, found⟩ := Option.isSome_iff_exists.mp (undoable.located row member)
              refine List.mem_append_right _ (List.mem_flatMap.mpr ⟨row, member, ?_⟩)
              have located : (deploying id s).db.nodes.get row.nodeId = some node := found
              simp [requested, located, here]

/-! ## Two replicas on two GPUs -/

namespace Sample

def node : Node := { id := "n1", ip := "10.0.0.1", status := .online }

def gpu (index : Int) : GpuDevice := { id := "gpu", nodeId := "n1", gpuIndex := index }

/-- One node with two idle GPUs, and a model that wants one for each of two replicas. -/
def state : State where
  db :=
    { nodes := .singleton node
      gpus := ⟨[gpu 0, gpu 1], by decide⟩
      models := .singleton
        { id := "m", name := "m", containerImage := some "image", launchCommand := some "run", replicas := 2 } }

/-- Both replicas are started, and the one with index `sick` never gets healthy. -/
def env (sick : Nat) : Env where
  replica := fun replica =>
    let name := if replica = 0 then "first" else "second"
    { instanceId := name, started := some name, response := .accepted (some name), healthy := replica ≠ sick }

end Sample

/-- The second replica fails: both containers are asked to stop and no row is left. -/
theorem second_replica_unhealthy :
    (deployModel (Sample.env 1) "m" Sample.state).2.db.modelInstances.rows = [] ∧
      ∃ sent, (deployModel (Sample.env 1) "m" Sample.state).2.stopRequests = sent ∧
        "first" ∈ sent ∧ "second" ∈ sent := by
  obtain ⟨_, rows, _, sent, wrote, covered⟩ := failed_deployment_leaves_nothing (Sample.env 1) "m" Sample.state
    rfl ⟨by decide, by decide⟩ (by decide +kernel)
  exact ⟨rows, sent, wrote, covered "first" (by decide +kernel), covered "second" (by decide +kernel)⟩

end SuitApi.Deployment
