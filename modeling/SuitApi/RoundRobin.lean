import SuitApi.AIService
import SuitApi.Library.Rotation
import SuitApi.Library.Runs

/-! # Every instance gets its turn

The routing counters are shared by all requests and are never reset.  However the calls
for different models are mixed, those for one model go round its running instances.
-/

namespace SuitApi.RoundRobin

open AIService

/-- A call of `_select_running_instance` with what it finds in the database. -/
structure Selection where
  model : ModelId
  startedAt : InstanceId → Time := fun _ => 0
  db : Database

def exec (call : Selection) (counters : Counters) : Counters :=
  (selectRunningInstance call.startedAt counters call.model call.db).2

/-- The instance that a call for the model returns. -/
def picked (id : ModelId) (call : Selection) (counters : Counters) : List ModelInstance :=
  if call.model = id then (selectRunningInstance call.startedAt counters id call.db).1.toOption.toList else []

/-- The instances returned to the calls for the model, in order. -/
def picks (id : ModelId) (calls : List Selection) (counters : Counters) : List ModelInstance :=
  (Runs.trace exec (picked id) calls counters).flatten

/-- The calls for the model find these instances in this order. -/
def Finds (id : ModelId) (instances : List ModelInstance) (calls : List Selection) : Prop :=
  ∀ call ∈ calls, call.model = id → runningInstances call.startedAt id call.db = instances

section

variable {id : ModelId} {instances : List ModelInstance}

theorem runningInstances_nodup (startedAt : InstanceId → Time) (id : ModelId) (db : Database) :
    (runningInstances startedAt id db).Nodup := by
  rw [runningInstances, (List.perm_insertionSort _ _).nodup_iff]
  exact (List.Nodup.of_map _ db.modelInstances.unique).filter _

/-- A call for the model takes the place its counter shows and moves the counter on. -/
theorem select_turn (nonempty : instances ≠ []) {startedAt : InstanceId → Time} {db : Database}
    (found : runningInstances startedAt id db = instances) (counters : Counters) :
    selectRunningInstance startedAt counters id db =
      (.ok (instances.get ⟨counters id % instances.length, Rotation.place_lt nonempty _⟩),
        Function.update counters id (counters id + 1)) := by
  have place := List.getElem?_eq_getElem (Rotation.place_lt nonempty (counters id))
  simp only [selectRunningInstance, found, place]
  rfl

/-- A call for another model leaves the counter alone. -/
theorem exec_other {call : Selection} (other : call.model ≠ id) (counters : Counters) :
    exec call counters id = counters id := by
  unfold exec selectRunningInstance
  simp only
  split
  · rfl
  · exact Function.update_of_ne (Ne.symm other) _ _

/-- The calls for the model take turns, whatever the other calls do. -/
theorem picks_turns (nonempty : instances ≠ []) {calls : List Selection} (finds : Finds id instances calls)
    (counters : Counters) :
    picks id calls counters =
      Rotation.turns instances (counters id) (calls.countP fun call => call.model = id) := by
  induction calls generalizing counters with
  | nil => rfl
  | cons call rest ih =>
      have later := ih (fun other inside => finds other (List.mem_cons_of_mem _ inside)) (exec call counters)
      rw [picks, Runs.trace, List.flatten_cons]
      rw [picks] at later
      rw [later]
      by_cases mine : call.model = id
      · have turn := select_turn nonempty (finds call List.mem_cons_self mine) counters
        have next : exec call counters id = counters id + 1 := by
          rw [exec, mine, turn]
          exact Function.update_self _ _ _
        rw [List.countP_cons_of_pos (by simpa using mine), Rotation.turns_succ nonempty, next, picked, if_pos mine,
          turn]
        rfl
      · rw [List.countP_cons_of_neg (by simpa using mine), exec_other mine, picked, if_neg mine, List.nil_append]

end

/-- Calls for a model whose running instances stay the same, mixed with any calls for
    other models, return each instance equally often, rounded down or up, and once in as
    many consecutive calls as there are instances. -/
theorem routing_fair (startedAt : InstanceId → Time) (id : ModelId) (db : Database)
    (deployed : runningInstances startedAt id db ≠ []) (counters : Counters) {calls : List Selection}
    (finds : Finds id (runningInstances startedAt id db) calls) :
    let instances := runningInstances startedAt id db
    let count := calls.countP fun call => call.model = id
    (picks id calls counters).length = count ∧
      (∀ row ∈ instances, (picks id calls counters).count row = count / instances.length ∨
        (picks id calls counters).count row = (count + instances.length - 1) / instances.length) ∧
      ∀ window, window <:+: picks id calls counters → window.length = instances.length →
        ∀ row ∈ instances, window.count row = 1 := by
  intro instances count
  have distinct := runningInstances_nodup startedAt id db
  rw [picks_turns deployed finds counters]
  refine ⟨Rotation.length_turns deployed _ _, ?_, ?_⟩
  · intro row inside
    exact Rotation.count_turns deployed distinct inside _ _
  · intro window part round row inside
    rw [(Rotation.window_perm deployed part round).count_eq]
    exact List.count_eq_one_of_mem distinct inside

namespace Sample

def row (id : InstanceId) : ModelInstance := { id, modelId := "m", nodeId := "n", status := "running" }

/-- One model with two instances, and one with one. -/
def db : Database where
  modelInstances := ⟨[row "i", row "j", { row "k" with modelId := "other" }], by decide⟩

def call (model : ModelId) : Selection := { model, db }

def calls : List Selection := [call "m", call "other", call "m", call "m"]

theorem calls_find : Finds "m" (runningInstances (fun _ => 0) "m" db) calls := by
  have same : ∀ call ∈ calls, call.startedAt = (fun _ => 0) ∧ call.db = db := by simp [calls, call]
  intro call inside _
  rw [(same call inside).1, (same call inside).2]

end Sample

/-- The counter is left over from a time with more instances. -/
theorem sample_fair : picks "m" Sample.calls (fun _ => 7) = [Sample.row "j", Sample.row "i", Sample.row "j"] ∧
    (picks "m" Sample.calls fun _ => 7).length = 3 :=
  ⟨by decide, (routing_fair _ "m" Sample.db (by decide) (fun _ => 7) Sample.calls_find).1⟩

end SuitApi.RoundRobin
