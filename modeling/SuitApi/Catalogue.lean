import SuitApi.AIService
import SuitApi.StopRetry

/-! # The status of a model and its instances

`model.status` summarises the table of the instances.  A deployment, a stop, a
creation and a deletion keep the summary; `update_model` writes whatever status its
payload has.
-/

namespace SuitApi.Catalogue

open ModelService

/-! ## Calls -/

/-- A call of one of the operations, with what its surroundings decide. -/
inductive Op where
  | create (id : ModelId) (payload : ModelCreate)
  | update (id : ModelId) (payload : ModelUpdate)
  | deploy (env : Env) (id : ModelId)
  | stop (calls : InstanceId → StopCall) (id : ModelId)
  | delete (id : ModelId)

/-- A call that raises, and one whose commit fails, leave the rows as they are; a
    deployment and a stop do themselves what they leave. -/
def exec : Op → State → State
  | .create id payload, s =>
      match createModel id payload s.db with
      | .ok (some db) => { s with db }
      | _ => s
  | .update id payload, s =>
      match updateModel id payload s.db with
      | .ok (some db) => { s with db }
      | _ => s
  | .deploy env id, s => (deployModel env id s).2
  | .stop calls id, s => (stopModel calls id s).2
  | .delete id, s =>
      match deleteModel id s.db with
      | .ok db => { s with db }
      | .error _ => s

/-- Every model of the public list has a running instance, and a model that is offline
    has no instance. -/
structure Advertised (db : Database) : Prop where
  callable : ∀ model ∈ AIService.publicModels db,
    ∃ row ∈ db.modelInstances.rows, row.modelId = model.id ∧ row.status = "running"
  offline : ∀ model ∈ db.models.rows, model.status = "offline" → instancesOf model.id db = []

/-- An accepted update to `online` is for a model with a running instance, and one to
    `offline` for a model without instances. -/
def Truthful (s : State) : Op → Prop
  | .update id payload =>
      (s.db.models.get id).isSome = true → nullsRequired payload = false →
        (payload.status = some (some "online") →
          ∃ row ∈ s.db.modelInstances.rows, row.modelId = id ∧ row.status = "running") ∧
        (payload.status = some (some "offline") → instancesOf id s.db = [])
  | .create .. | .deploy .. | .stop .. | .delete .. => True

/-! ## The invariant -/

/-- Between calls every instance is running, and its model is stored. -/
structure Base (db : Database) : Prop where
  running : ∀ row ∈ db.modelInstances.rows, row.status = "running"
  filed : ∀ row ∈ db.modelInstances.rows, (db.models.get row.modelId).isSome = true

def Deployed (id : ModelId) (db : Database) : Prop := ∃ row ∈ db.modelInstances.rows, row.modelId = id

/-- The status of the model, if it is stored, says whether it is deployed. -/
def Honest (id : ModelId) (db : Database) : Prop :=
  ∀ model, db.models.get id = some model →
    (model.status = "online" → Deployed id db) ∧ (model.status = "offline" → ¬ Deployed id db)

theorem instancesOf_eq_nil {id : ModelId} {db : Database} : instancesOf id db = [] ↔ ¬ Deployed id db := by
  simp [instancesOf, Deployed]

theorem Base.deployed_iff {db : Database} (base : Base db) {id : ModelId} :
    Deployed id db ↔ ∃ row ∈ db.modelInstances.rows, row.modelId = id ∧ row.status = "running" := by
  constructor
  · rintro ⟨row, inside, own⟩
    exact ⟨row, inside, own, base.running row inside⟩
  · rintro ⟨row, inside, own, _⟩
    exact ⟨row, inside, own⟩

theorem Base.advertised_iff {db : Database} (base : Base db) : Advertised db ↔ ∀ id, Honest id db := by
  constructor
  · intro advertised id model found
    obtain ⟨inside, rfl⟩ := Table.get_eq_some.mp found
    constructor
    · intro online
      exact base.deployed_iff.mpr (advertised.callable model (AIService.mem_publicModels.mpr ⟨inside, online⟩))
    · intro offline
      exact instancesOf_eq_nil.mp (advertised.offline model inside offline)
  · intro honest
    constructor
    · intro model listed
      obtain ⟨inside, online⟩ := AIService.mem_publicModels.mp listed
      exact base.deployed_iff.mp ((honest model.id model (Table.get_of_mem inside)).1 online)
    · intro model inside offline
      exact instancesOf_eq_nil.mpr ((honest model.id model (Table.get_of_mem inside)).2 offline)

/-! ## A call for one model -/

/-- A call writes one model row and the instances of that model, which it leaves running. -/
structure Wrote (id : ModelId) (db db' : Database) : Prop where
  models : ∀ other, other ≠ id → db'.models.get other = db.models.get other
  rows : ∀ row, row.modelId ≠ id → (row ∈ db'.modelInstances.rows ↔ row ∈ db.modelInstances.rows)
  own : ∀ row ∈ db'.modelInstances.rows, row.modelId = id →
    row.status = "running" ∧ (db'.models.get id).isSome = true

namespace Wrote

variable {id : ModelId} {db db' : Database}

theorem base (wrote : Wrote id db db') (before : Base db) : Base db' where
  running row inside := by
    by_cases own : row.modelId = id
    · exact (wrote.own row inside own).1
    · exact before.running row ((wrote.rows row own).mp inside)
  filed row inside := by
    by_cases own : row.modelId = id
    · rw [own]
      exact (wrote.own row inside own).2
    · rw [wrote.models row.modelId own]
      exact before.filed row ((wrote.rows row own).mp inside)

theorem honest_iff (wrote : Wrote id db db') {other : ModelId} (apart : other ≠ id) :
    Honest other db' ↔ Honest other db := by
  have same : Deployed other db' ↔ Deployed other db := by
    refine exists_congr fun row => ?_
    constructor
    · rintro ⟨inside, rfl⟩
      exact ⟨(wrote.rows row apart).mp inside, rfl⟩
    · rintro ⟨inside, rfl⟩
      exact ⟨(wrote.rows row apart).mpr inside, rfl⟩
  rw [Honest, Honest, wrote.models other apart, same]

/-- After the call the summary is right exactly when it is for its model. -/
theorem advertised_iff (wrote : Wrote id db db') (before : Base db) (advertised : Advertised db) :
    Advertised db' ↔ Honest id db' := by
  rw [(wrote.base before).advertised_iff]
  constructor
  · exact fun honest => honest id
  · intro honest other
    by_cases same : other = id
    · rw [same]
      exact honest
    · exact (wrote.honest_iff same).mpr (before.advertised_iff.mp advertised other)

end Wrote

/-! ## create_model, update_model, delete_model -/

section

variable {id : ModelId} {db db' : Database}

theorem Base.not_deployed (base : Base db) (unknown : db.models.get id = none) : ¬ Deployed id db := by
  rintro ⟨row, inside, own⟩
  have filed := base.filed row inside
  rw [own, unknown] at filed
  cases filed

theorem create_spec (base : Base db) {payload : ModelCreate} (done : createModel id payload db = .ok (some db')) :
    Wrote id db db' ∧ Honest id db' := by
  unfold createModel at done
  split at done
  · cases done
  · obtain ⟨models, inserted, rfl⟩ := Option.map_eq_some_iff.mp (Except.ok.inj done)
    have unknown : ¬ Deployed id db := base.not_deployed (Table.insert?_fresh inserted)
    have found : ∀ other, models.get other = if other = id then some (newModel id payload) else db.models.get other :=
      Table.get_insert? inserted
    refine ⟨⟨?_, fun row _ => Iff.rfl, ?_⟩, ?_⟩
    · intro other apart
      simp [found, apart]
    · intro row inside own
      exact absurd ⟨row, inside, own⟩ unknown
    · intro model here
      obtain rfl : newModel id payload = model := by simpa [found] using here
      exact ⟨by simp [newModel], fun _ => unknown⟩

theorem delete_spec (done : deleteModel id db = .ok db') : Wrote id db db' ∧ Honest id db' := by
  unfold deleteModel at done
  cases found : db.models.get id with
  | none => simp [found] at done
  | some model =>
      obtain rfl : model.id = id := Table.key_of_get found
      simp only [found] at done
      split at done
      · cases done
      · rename_i empty
        cases done
        have unknown : ¬ Deployed model.id db := instancesOf_eq_nil.mp (not_not.mp empty)
        have left : ∀ other, (db.models.deleteWhere fun row => row.id = model.id).get other =
            (db.models.get other).filter fun row => !decide (row.id = model.id) := Table.get_deleteWhere db.models _
        refine ⟨⟨?_, fun row _ => Iff.rfl, ?_⟩, ?_⟩
        · intro other apart
          refine (left other).trans ?_
          cases here : db.models.get other with
          | none => rfl
          | some row =>
              have key : row.id = other := Table.key_of_get here
              simp [key, apart]
        · intro row inside own
          exact absurd ⟨row, inside, own⟩ unknown
        · intro row here
          rw [left, found] at here
          simp at here
          obtain ⟨rfl, other⟩ := here
          exact absurd rfl other

/-- An accepted update leaves the columns that are not set, and the instances. -/
theorem update_spec (base : Base db) {payload : ModelUpdate} (done : updateModel id payload db = .ok (some db')) :
    Wrote id db db' ∧ (∀ other, Deployed other db' ↔ Deployed other db) ∧ nullsRequired payload = false ∧
      ∃ model, db.models.get id = some model ∧ db'.models.get id = some (updated payload model) := by
  unfold updateModel getModel at done
  cases found : db.models.get id with
  | none => simp [found] at done
  | some model =>
      obtain rfl : model.id = id := Table.key_of_get found
      simp only [found] at done
      split at done
      · cases done
      · rename_i accepted
        cases done
        have wrote := Table.get_update db.models model.id (updated payload) (updated_id payload)
        have here := wrote model.id
        rw [if_pos rfl, found, Option.map_some] at here
        refine ⟨⟨?_, fun row _ => Iff.rfl, ?_⟩, fun other => Iff.rfl, by simpa using accepted, model, rfl, here⟩
        · intro other apart
          exact (wrote other).trans (if_neg apart)
        · intro row inside own
          exact ⟨base.running row inside, Option.isSome_of_eq_some here⟩

end

/-! ## deploy_model, stop_model -/

section

variable {id : ModelId} {s : State}

theorem markModel_wrote {db : Database} (status : String) {other : ModelId} (apart : other ≠ id) :
    (markModel id status db).models.get other = db.models.get other :=
  (Deployment.markModel_get id status db other).trans (if_neg apart)

/-- A model that passes the guards has no instance. -/
theorem deployGuard_vacant {db : Database} (base : Base db) {model : Model} (passed : deployGuard id db = .ok model) :
    ¬ Deployed id db := by
  rintro ⟨row, inside, own⟩
  have running := base.running row inside
  have busy : (db.modelInstances.rows.any fun row =>
      row.modelId = id && (row.status = "starting" || row.status = "running")) = true := by
    rw [List.any_eq_true]
    exact ⟨row, inside, by simp [own, running]⟩
  rw [deployGuard, Deployment.deployGuard_ok passed] at passed
  simp only [busy, if_true] at passed
  split at passed
  · cases passed
  · split at passed <;> cases passed

/-- What a deployment of a vacant model has stored, once its status is written. -/
theorem deployed_spec (vacant : ¬ Deployed id s.db) (stored : (s.db.models.get id).isSome = true)
    {created : List ModelInstance} {db : Database}
    (undoable : Deployment.Undoable (Deployment.deploying id s).db id created db) (status : String) :
    Wrote id s.db (markModel id status db) ∧ (created ≠ [] → Deployed id (markModel id status db)) ∧
      ∀ model, (markModel id status db).models.get id = some model → model.status = status := by
  have models : ∀ other, db.models.get other = (markModel id "deploying" s.db).models.get other := by
    intro other
    rw [undoable.models]
    rfl
  have rows : ∀ row, row ∈ db.modelInstances.rows ↔
      row ∈ s.db.modelInstances.rows ∨ ∃ new ∈ created, setInstanceStatus "running" new = row := by
    intro row
    rw [undoable.rows, List.mem_append, List.mem_map]
    rfl
  refine ⟨⟨?_, ?_, ?_⟩, ?_, ?_⟩
  · intro other apart
    rw [markModel_wrote _ apart, models, markModel_wrote _ apart]
  · intro row apart
    refine (rows row).trans (or_iff_left ?_)
    rintro ⟨new, inside, rfl⟩
    exact apart (undoable.own new inside)
  · intro row inside own
    constructor
    · cases (rows row).mp inside with
      | inl old => exact absurd ⟨row, old, own⟩ vacant
      | inr made =>
          obtain ⟨new, _, rfl⟩ := made
          rfl
    · rw [Deployment.markModel_get, if_pos rfl, models, Deployment.markModel_get, if_pos rfl]
      simpa using stored
  · intro some_
    obtain ⟨new, inside⟩ := List.exists_mem_of_ne_nil created some_
    exact ⟨setInstanceStatus "running" new, (rows _).mpr (.inr ⟨new, inside, rfl⟩), undoable.own new inside⟩
  · intro model found
    rw [Deployment.markModel_get, if_pos rfl] at found
    obtain ⟨_, _, rfl⟩ := Option.map_eq_some_iff.mp found
    rfl

/-- Whether it succeeds or not, a deployment that passes its guards leaves a status that
    says what it has stored. -/
theorem deploy_spec (env : Env) (base : Base s.db) {model : Model} (passed : deployGuard id s.db = .ok model) :
    Wrote id s.db (deployModel env id s).2.db ∧ Honest id (deployModel env id s).2.db := by
  have vacant := deployGuard_vacant base passed
  have found := Deployment.deployGuard_ok passed
  have stored : (s.db.models.get id).isSome = true := Option.isSome_of_eq_some found
  have key : model.id = id := Table.key_of_get found
  have start := Deployment.Undoable.start (Deployment.deploying id s).db model.id
  obtain ⟨undoable, complete⟩ := @Deployment.loop_undoable env model _ (Deployment.replicaIndices model) [] _ start
  simp only [deployModel, passed]
  simp only [Deployment.deploying, Deployment.replicaIndices, key] at undoable complete
  cases result : deployReplicas env model (List.range (max model.replicas 1).toNat) []
    { s with db := markModel id "deploying" s.db } with
  | mk succeeded rest =>
      obtain ⟨created, s'⟩ := rest
      simp only [result] at undoable complete ⊢
      cases succeeded with
      | true =>
          have some_ : created ≠ [] := by
            rw [← List.length_pos_iff, complete rfl, List.length_range]
            simp
          obtain ⟨wrote, deployed, marked⟩ := deployed_spec vacant stored undoable "online"
          refine ⟨wrote, fun model' found' => ⟨fun _ => deployed some_, fun offline => ?_⟩⟩
          simp [marked model' found'] at offline
      | false =>
          obtain ⟨undone, _⟩ := @Deployment.cleanup_spec env _ _ _ _ undoable
          obtain ⟨wrote, _, marked⟩ := deployed_spec vacant stored undone "error"
          refine ⟨wrote, fun model' found' => ?_⟩
          simp [marked model' found']

/-- A stop that succeeds leaves the model offline and without instances. -/
theorem stop_spec {calls : InstanceId → StopCall} (stored : (s.db.models.get id).isSome = true)
    (succeeded : (stopModel calls id s).1 = .ok ()) :
    Wrote id s.db (stopModel calls id s).2.db ∧ Honest id (stopModel calls id s).2.db := by
  have wrote : (stopModel calls id s).2.db = _ := StopRetry.attempt_db stored succeeded
  have rows : ∀ row, row ∈ (stopModel calls id s).2.db.modelInstances.rows ↔
      row ∈ s.db.modelInstances.rows ∧ row.modelId ≠ id := by
    intro row
    rw [wrote]
    exact StopRetry.mem_releaseAll_instancesOf
  refine ⟨⟨?_, ?_, ?_⟩, ?_⟩
  · intro other apart
    rw [wrote, markModel_wrote _ apart, (StopRetry.releaseAll_instancesOf id s.db).models]
  · intro row apart
    exact (rows row).trans (and_iff_left apart)
  · intro row inside own
    exact absurd own ((rows row).mp inside).2
  · have vacant : ¬ Deployed id (stopModel calls id s).2.db := by
      rintro ⟨row, inside, own⟩
      exact ((rows row).mp inside).2 own
    intro model found
    rw [wrote, Deployment.markModel_get, if_pos rfl] at found
    obtain ⟨before, _, rfl⟩ := Option.map_eq_some_iff.mp found
    exact ⟨by simp [setModelStatus], fun _ => vacant⟩

end

/-- After an accepted update the status is right exactly when the update was truthful. -/
theorem update_honest_iff {s : State} {id : ModelId} {payload : ModelUpdate} {db : Database} (base : Base s.db)
    (honest : Honest id s.db) (done : updateModel id payload s.db = .ok (some db)) :
    Honest id db ↔ Truthful s (.update id payload) := by
  obtain ⟨_, deployed, accepted, model, found, here⟩ := update_spec base done
  have before := honest model found
  have after : Honest id db ↔ ((updated payload model).status = "online" → Deployed id s.db) ∧
      ((updated payload model).status = "offline" → ¬ Deployed id s.db) := by
    simp only [Honest, here, Option.some.injEq, forall_eq', deployed]
  have truthful : Truthful s (.update id payload) ↔ (payload.status = some (some "online") → Deployed id s.db) ∧
      (payload.status = some (some "offline") → ¬ Deployed id s.db) := by
    simp only [Truthful, found, Option.isSome_some, accepted, forall_const, base.deployed_iff, instancesOf_eq_nil]
  rw [after, truthful]
  cases written : payload.status with
  | none => simpa [updated, written] using before
  | some status =>
      cases status with
      | none => simp [nullsRequired, written] at accepted
      | some status => simp [updated, written]

/-! ## Runs -/

/-- A call writes nothing, or one model and its instances, and then the summary of this
    model is right exactly when the call was truthful. -/
theorem step_spec (s : State) (op : Op) (base : Base s.db) (advertised : Advertised s.db) :
    ((exec op s).db = s.db ∧ Truthful s op) ∨
      ∃ id, Wrote id s.db (exec op s).db ∧ (Honest id (exec op s).db ↔ Truthful s op) := by
  cases op with
  | create id payload =>
      rw [exec]
      split
      · rename_i db done
        obtain ⟨wrote, honest⟩ := create_spec base done
        exact .inr ⟨id, wrote, iff_of_true honest trivial⟩
      · exact .inl ⟨rfl, trivial⟩
  | update id payload =>
      rw [exec]
      split
      · rename_i db done
        have honest := base.advertised_iff.mp advertised id
        exact .inr ⟨id, (update_spec base done).1, update_honest_iff base honest done⟩
      · rename_i refused
        refine .inl ⟨rfl, fun stored accepted => ?_⟩
        obtain ⟨model, found⟩ := Option.isSome_iff_exists.mp stored
        simp [updateModel, getModel, found, accepted] at refused
  | deploy env id =>
      cases guard : deployGuard id s.db with
      | error refusal => exact .inl ⟨by simp [exec, deployModel, guard], trivial⟩
      | ok model =>
          obtain ⟨wrote, honest⟩ := deploy_spec env base guard
          exact .inr ⟨id, wrote, iff_of_true honest trivial⟩
  | stop calls id =>
      by_cases succeeded : (stopModel calls id s).1 = .ok ()
      · have stored : (s.db.models.get id).isSome = true := by
          cases found : s.db.models.get id with
          | none => simp [stopModel, found] at succeeded
          | some model => rfl
        obtain ⟨wrote, honest⟩ := stop_spec stored succeeded
        exact .inr ⟨id, wrote, iff_of_true honest trivial⟩
      · exact .inl ⟨StopRetry.attempt_failed succeeded, trivial⟩
  | delete id =>
      rw [exec]
      split
      · rename_i db done
        obtain ⟨wrote, honest⟩ := delete_spec done
        exact .inr ⟨id, wrote, iff_of_true honest trivial⟩
      · exact .inl ⟨rfl, trivial⟩

theorem base_step {s : State} (op : Op) (base : Base s.db) (advertised : Advertised s.db) :
    Base (exec op s).db := by
  cases step_spec s op base advertised with
  | inl same => exact same.1 ▸ base
  | inr written =>
      obtain ⟨id, wrote, _⟩ := written
      exact wrote.base base

theorem advertised_step_iff {s : State} (op : Op) (base : Base s.db) (advertised : Advertised s.db) :
    Advertised (exec op s).db ↔ Truthful s op := by
  cases step_spec s op base advertised with
  | inl same =>
      rw [same.1]
      exact iff_of_true advertised same.2
  | inr written =>
      obtain ⟨id, wrote, honest⟩ := written
      exact (wrote.advertised_iff base advertised).trans honest

/-- From empty tables of models and instances, every state that a run reaches advertises
    only models that are callable exactly when the updates of the run are truthful. -/
theorem advertised_iff_truthful (s : State) (models : s.db.models.rows = [])
    (instances : s.db.modelInstances.rows = []) (ops : List Op) :
    Runs.Along exec (fun s op => Advertised (exec op s).db) ops s ↔ Runs.Along exec Truthful ops s := by
  have start : Base s.db ∧ Advertised s.db := by
    have base : Base s.db := ⟨by simp [instances], by simp [instances]⟩
    refine ⟨base, base.advertised_iff.mpr fun id model found => ?_⟩
    have inside := Table.mem_of_get found
    rw [models] at inside
    cases inside
  refine Runs.along_congr (I := fun s => Base s.db ∧ Advertised s.db) ?_ ?_ start
  · intro s op before after
    exact ⟨base_step op before.1 before.2, after⟩
  · intro s op before
    exact advertised_step_iff op before.1 before.2

namespace Sample

/-- Two idle GPUs and no model. -/
def state : State := { db := { Deployment.Sample.state.db with models := .empty } }

def payload : ModelCreate := { name := "llama", containerImage := some "image", launchCommand := some "run" }

end Sample

/-- A deployment that fails, one that succeeds with two replicas, and a stop. -/
theorem deployed_and_stopped : Runs.Along exec (fun s op => Advertised (exec op s).db)
    [.create "m" Sample.payload, .deploy (Deployment.Sample.env 0) "m", .update "m" { replicas := some (some 2) },
      .deploy (Deployment.Sample.env 2) "m", .stop (fun _ => .served) "m"] Sample.state := by
  refine (advertised_iff_truthful Sample.state rfl rfl _).mpr ⟨trivial, trivial, fun _ _ => ?_, trivial, trivial, trivial⟩
  simp

/-- A model that is set online without a deployment is listed and cannot be called. -/
theorem listed_without_instance : ¬ ∀ (s : State), s.db.models.rows = [] → s.db.modelInstances.rows = [] →
    ∀ ops, Runs.Along exec (fun s op => Advertised (exec op s).db) ops s := by
  intro all
  have reached := all Sample.state rfl rfl
    [.create "m" Sample.payload, .update "m" { status := some (some "online") }]
  obtain ⟨row, inside, _⟩ := reached.2.1.callable
    { id := "m", name := "llama", containerImage := some "image", launchCommand := some "run", status := "online" }
    (by decide)
  cases inside

end SuitApi.Catalogue
