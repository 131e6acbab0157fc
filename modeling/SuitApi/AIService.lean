import SuitApi.ModelService

/-! # The backend's AI gateway

The public list shows the models whose status is `online`; a request is routed to
one of the instances whose status is `running`, each in turn.
-/

namespace SuitApi.AIService

/-! ## list_public_models -/

structure PublicModel where
  id : String
  object : String := "model"
  created : Int
  ownedBy : String := "suit-api"
  deriving Repr, DecidableEq

/-- The rows that `list_public_models` selects. -/
def publicModels (db : Database) : List Model :=
  (db.models.rows.filter fun model => model.status = "online").insertionSort fun a b => a.name ≤ b.name

/-- `list_public_models`; `created` is the whole seconds of the column `created_at`. -/
def listPublicModels (created : ModelId → Int) (db : Database) : List PublicModel :=
  (publicModels db).map fun model => { id := model.name, created := created model.id }

/-! ## Routing a request -/

/-- The instances that `_select_running_instance` selects; `startedAt` is the column
    `started_at`. -/
def runningInstances (startedAt : InstanceId → Time) (id : ModelId) (db : Database) : List ModelInstance :=
  (db.modelInstances.rows.filter fun row => row.modelId = id && row.status = "running").insertionSort
    fun a b => startedAt a.id ≤ startedAt b.id

/-- `_rr_counters`. -/
abbrev Counters := ModelId → Nat

/-- `_select_running_instance`, and the counters after it. -/
def selectRunningInstance (startedAt : InstanceId → Time) (counters : Counters) (id : ModelId) (db : Database) :
    Except APIError ModelInstance × Counters :=
  let instances := runningInstances startedAt id db
  match instances[counters id % instances.length]? with
  | none => (.error ⟨"Model is not deployed", some 409, some 40906⟩, counters)
  | some row => (.ok row, Function.update counters id (counters id + 1))

/-- The part of `_proxy_openai_request` that finds the instance.  The schemas of the
    routers make `model` a text. -/
def route (startedAt : InstanceId → Time) (counters : Counters) (payload : Dict) (db : Database) :
    Except Raised ModelInstance × Counters :=
  match Dict.get payload "model" with
  | some (.str name) =>
      if name = "" then (.error (.apiError ⟨"Field 'model' is required", none, none⟩), counters)
      else
        match db.models.rows.find? fun model => model.name = name with
        | none => (.error (.apiError ⟨"Model not found", some 404, some 40401⟩), counters)
        | some model =>
            match selectRunningInstance startedAt counters model.id db with
            | (.error refusal, counters') => (.error (.apiError refusal), counters')
            | (.ok row, counters') => (.ok row, counters')
  | some value =>
      if value.truthy then (.error (.other "the model name is not a text"), counters)
      else (.error (.apiError ⟨"Field 'model' is required", none, none⟩), counters)
  | none => (.error (.apiError ⟨"Field 'model' is required", none, none⟩), counters)

theorem mem_publicModels {db : Database} {model : Model} :
    model ∈ publicModels db ↔ model ∈ db.models.rows ∧ model.status = "online" := by
  simp [publicModels, List.mem_insertionSort]

theorem mem_runningInstances {startedAt : InstanceId → Time} {id : ModelId} {db : Database} {row : ModelInstance} :
    row ∈ runningInstances startedAt id db ↔
      row ∈ db.modelInstances.rows ∧ row.modelId = id ∧ row.status = "running" := by
  simp [runningInstances, List.mem_insertionSort]

/-- An instance is selected exactly when the model has a running one. -/
theorem selectRunningInstance_spec (startedAt : InstanceId → Time) (counters : Counters) (id : ModelId)
    (db : Database) :
    (∃ refusal, (selectRunningInstance startedAt counters id db).1 = .error refusal ∧
        runningInstances startedAt id db = []) ∨
      ∃ row ∈ runningInstances startedAt id db, (selectRunningInstance startedAt counters id db).1 = .ok row := by
  unfold selectRunningInstance
  simp only
  split
  · rename_i outside
    left
    refine ⟨_, rfl, ?_⟩
    by_contra some_
    have inside := Nat.mod_lt (counters id) (List.length_pos_iff.mpr some_)
    rw [List.getElem?_eq_none_iff] at outside
    omega
  · rename_i row found
    exact .inr ⟨row, List.mem_of_getElem? found, rfl⟩

/-- With the counter at its place, every running instance of the model is selected. -/
theorem selectRunningInstance_of_mem {startedAt : InstanceId → Time} {id : ModelId} {db : Database}
    {row : ModelInstance} (inside : row ∈ runningInstances startedAt id db) :
    ∃ counters, (selectRunningInstance startedAt counters id db).1 = .ok row := by
  obtain ⟨place, small, here⟩ := List.mem_iff_getElem.mp inside
  refine ⟨fun _ => place, ?_⟩
  simp only [selectRunningInstance, Nat.mod_eq_of_lt small, List.getElem?_eq_getElem small, here]

end SuitApi.AIService
