import SuitApi.Borrowing
import SuitApi.Catalogue
import SuitApi.ForeignKeys
import SuitApi.Mirror
import SuitApi.Progress

/-! # One cluster for tasks and models

The scheduler and the model service hand out the same GPUs, each to clients of its own,
and neither looks at the other's tables: a task's GPUs stand in its row, an instance's in
its row, and the status of a GPU is all that both of them read.  The monitor, the
heartbeats and the deletion of tasks write what the two rely on.
-/

namespace SuitApi.SharedCluster

open Bookkeeping (Allocated)
open Instances (Slot)

/-! ## Who has which GPU -/

inductive Owner where
  | task (t : TaskId)
  | replica (id : InstanceId)

def Lists (db : Database) : Owner → Slot → Prop
  | .task t, slot => db.Holds t slot.1 slot.2
  | .replica id, slot => Instances.Lists db id slot

/-- A GPU is allocated exactly when some task or instance lists it, and never two of them. -/
structure OneOwner (db : Database) : Prop where
  allocated : ∀ slot, Allocated db slot ↔ ∃ owner, Lists db owner slot
  once : ∀ owner other slot, Lists db owner slot → Lists db other slot → owner = other

theorem oneOwner_iff_ledger {db : Database} :
    OneOwner db ↔ ∃ owners, Ledger.Represents (Allocated db) (Lists db) owners := by
  constructor
  · intro h
    exact Ledger.Represents.of_views h.allocated h.once
  · intro ⟨owners, ledger⟩
    exact ⟨fun slot => ⟨ledger.lists_of_used, fun ⟨_, listed⟩ => ledger.used_of_lists listed⟩,
      fun _ _ _ first second => ledger.unique first second⟩

/-- A step that changes no list keeps the ledger exactly when it changes no mark. -/
theorem OneOwner.same_lists {db db' : Database} (h : OneOwner db)
    (lists : ∀ owner slot, Lists db' owner slot ↔ Lists db owner slot) :
    OneOwner db' ↔ ∀ slot, Allocated db' slot ↔ Allocated db slot := by
  constructor
  · intro h' slot
    rw [h.allocated, h'.allocated]
    exact exists_congr fun owner => lists owner slot
  · intro same
    constructor
    · intro slot
      rw [same, h.allocated]
      exact exists_congr fun owner => (lists owner slot).symm
    · intro owner other slot first second
      exact h.once owner other slot ((lists owner slot).mp first) ((lists other slot).mp second)

/-! ## The system -/

inductive Op where
  | platform (op : Platform.Op)
  | delete (user : User) (t : TaskId)
  | models (op : Catalogue.Op)

/-- The model service on the tables and the hosts that it shares with the platform. -/
def modelService (w : World) : ModelService.State := { db := w.db, containers := w.containers }

def exec : Op → World → World
  | .platform op, w => Platform.exec op w
  | .delete user t, w =>
      match TaskService.deleteTask user t w.db with
      | .ok (some db) => { w with db }
      | _ => w
  | .models op, w =>
      { w with
        db := (Catalogue.exec op (modelService w)).db
        containers := (Catalogue.exec op (modelService w)).containers }

/-- The step is no sweep over a node with allocated GPUs, no heartbeat that reports other
    GPUs in use than are allocated on its node, and no deletion of a task that still has
    GPUs. -/
def Careful (w : World) : Op → Prop
  | .platform (.markOffline sweep) =>
      ∀ slot, Allocated w.db slot → slot.1 ∉ MonitorService.lostNodes sweep w.db
  | .platform (.heartbeat env payload) =>
      ∀ node nodes, NodeService.findNode env payload.ip w.db = some (node, nodes) →
        (NodeService.handleHeartbeat env payload w.db).isSome = true →
          ∀ index, Allocated w.db (node.id, index) ↔
            index ∈ payload.gpus.map (·.index) ∧ Mirror.InUse payload index
  | .delete user t =>
      ∀ db, TaskService.deleteTask user t w.db = .ok (some db) → ∀ slot : Slot, ¬ w.db.Holds t slot.1 slot.2
  | .platform _ | .models _ => True

/-- A task that has not started lists nothing. -/
def Early (db : Database) : Prop :=
  ∀ t task, db.tasks.get t = some task → task.status = .pending ∨ task.status = .queued → task.gpuIndices = []

structure Shared (db : Database) : Prop where
  oneOwner : OneOwner db
  early : Early db

/-! ## What leaves the lists alone -/

theorem lists_congr {db db' : Database} (rows : ∀ t (slot : Slot), db'.Holds t slot.1 slot.2 ↔ db.Holds t slot.1 slot.2)
    (instances : db'.modelInstances = db.modelInstances) (owner : Owner) (slot : Slot) :
    Lists db' owner slot ↔ Lists db owner slot := by
  cases owner with
  | task t => exact rows t slot
  | replica id =>
      simp only [Lists, Instances.Lists, instances]

theorem OneOwner.congr {db db' : Database} (h : OneOwner db) (gpus : ∀ slot, db'.gpus.get slot = db.gpus.get slot)
    (lists : ∀ owner slot, Lists db' owner slot ↔ Lists db owner slot) : OneOwner db' := by
  apply (h.same_lists lists).mpr
  intro slot
  rw [Allocated, Allocated, gpus]

/-- A row that comes or goes with nothing in its list does not matter. -/
theorem holds_congr {db db' : Database} {t : TaskId}
    (row : (db'.tasks.get t).map Progress.assignment = (db.tasks.get t).map Progress.assignment ∨
      db.tasks.get t = none ∧ ∃ task, db'.tasks.get t = some task ∧ task.gpuIndices = [])
    (node : NodeId) (index : Int) : db'.Holds t node index ↔ db.Holds t node index := by
  rw [Progress.holds_iff, Progress.holds_iff]
  rcases row with same | ⟨missing, task, found, empty⟩
  · rw [same]
  · rw [missing, found]
    simp [Progress.assignment, empty]

/-! ## The platform's steps -/

theorem finishTask_modelInstances (db : Database) (t : TaskId) :
    (Scheduler.finishTask db t).modelInstances = db.modelInstances := by
  have released : (GpuAllocator.releaseByTask db t).modelInstances = db.modelInstances := by
    unfold GpuAllocator.releaseByTask
    split
    · rfl
    · split
      · rfl
      · split
        · rfl
        · exact (GpuAllocator.release_frame db _).2.2
  unfold Scheduler.finishTask
  simp only
  split <;> exact released

/-- No step of the platform writes instances. -/
theorem exec_modelInstances (op : Platform.Op) (w : World) :
    (Platform.exec op w).db.modelInstances = w.db.modelInstances := by
  cases op with
  | queues | container | remove => rfl
  | schedule env =>
      simp only [Platform.exec, Platform.schedule]
      cases Scheduler.scheduleOne_effect env w.toStore with
      | quiet taskLogs launched wrote => rw [wrote]
      | launch task a found queued selected launched wrote =>
          rw [wrote]
          exact (Scheduler.settle_frame env w.db task a _).2.2
  | create t now user payload =>
      simp only [Platform.exec]
      split
      · rename_i db created
        obtain ⟨_, tasks, inserted, rfl⟩ := TaskService.createTask_spec created
        rfl
      · rfl
  | submit fault enqueuedAt user t =>
      simp only [Platform.exec]
      rcases TaskService.submitTask_cases fault enqueuedAt user t w.toStore with same | ⟨_, _, _, wrote⟩
      · rw [same]
      · rw [wrote]
        rfl
  | cancel now user t =>
      simp only [Platform.exec]
      rcases TaskService.cancelTask_cases now user t w.db with same | ⟨_, _, _, wrote⟩
      · rw [same]
      · rw [wrote]
        rfl
  | callback now payload t =>
      simp only [Platform.exec, TaskService.handleCallback]
      cases w.db.tasks.get t <;> rfl
  | finished t =>
      simp only [Platform.exec]
      split
      · rfl
      · exact finishTask_modelInstances w.db t
  | markOffline sweep =>
      simp only [Platform.exec, MonitorService.markOfflineNodes]
      split <;> rfl
  | heartbeat env payload =>
      simp only [Platform.exec]
      split
      · rename_i db handled
        obtain ⟨_, _, _, _, _, _, _, _, rfl⟩ := NodeService.handleHeartbeat_tables handled
        rfl
      · rfl
  | billing rate =>
      simp only [Platform.exec]
      split
      · rename_i db _ done
        rw [BillingService.calculateTaskBilling_frame done]
      · rfl

theorem early_exec (op : Platform.Op) {w : World} (h : Early w.db) : Early (Platform.exec op w).db := by
  intro t
  obtain ⟨_, step, _⟩ := Platform.exec_row op w t
  exact Progress.rowStep_early step (h t)

/-! ## Claims and drops -/

/-- A launch claims idle GPUs for a task that listed nothing. -/
theorem OneOwner.launch {db db' : Database} (h : OneOwner db) {nodes : List Node} {a : Allocation}
    (selected : GpuAllocator.Selected db nodes a) {task : Task} (found : db.tasks.get task.id = some task)
    (free : task.gpuIndices = []) (id : ContainerId) (now : Time) (result : Dict)
    (gpus : ∀ slot, db'.gpus.get slot = (GpuAllocator.mark db a .allocated).gpus.get slot)
    (tasks : ∀ t, db'.tasks.get t =
      if t = task.id then some (Scheduler.markRunning a id now result task) else db.tasks.get t)
    (instances : db'.modelInstances = db.modelInstances) : OneOwner db' := by
  obtain ⟨owners, ledger⟩ := oneOwner_iff_ledger.mp h
  have idle : ∀ slot : Slot, slot.1 = a.nodeId ∧ slot.2 ∈ a.gpuIndices → ¬ Allocated db slot := by
    rintro ⟨node, index⟩ ⟨rfl, inside⟩ ⟨gpu, here, allocated⟩
    obtain ⟨gpu', here', rest⟩ := selected.idle index inside
    cases here.symm.trans here'
    cases rest.symm.trans allocated
  have listedNothing : ∀ slot, ¬ Lists db (.task task.id) slot := by
    intro slot held
    have listed := ((Bookkeeping.holds_iff found slot.1 slot.2).mp held).2
    rw [free] at listed
    cases listed
  apply oneOwner_iff_ledger.mpr
  refine ⟨_, ledger.claim (S := fun slot => slot.1 = a.nodeId ∧ slot.2 ∈ a.gpuIndices) idle listedNothing ?_ ?_⟩
  · intro slot
    obtain ⟨node, index⟩ := slot
    rw [Allocated, Allocated, gpus, GpuAllocator.mark_get]
    by_cases covered : node = a.nodeId ∧ index ∈ a.gpuIndices
    · obtain ⟨rfl, inside⟩ := covered
      obtain ⟨gpu, here, _⟩ := selected.idle index inside
      simp [here, inside]
    · simp only [covered, if_false, Option.map_id', false_or]
  · intro owner slot
    cases owner with
    | replica id => simp [Lists, Instances.Lists, instances]
    | task t =>
        by_cases same : t = task.id
        · have mine : db'.tasks.get task.id = some (Scheduler.markRunning a id now result task) := by
            rw [tasks, if_pos rfl]
          simp only [Lists, same, Bookkeeping.holds_iff mine]
          simp [Task.Lists, Task.gpuIndices, Scheduler.markRunning, eq_comm]
        · simp [Lists, Database.Holds, tasks, same]

/-- A finish notification drops all that its task lists. -/
theorem OneOwner.finish {db : Database} (h : OneOwner db) (t : TaskId) : OneOwner (Scheduler.finishTask db t) := by
  have instances := finishTask_modelInstances db t
  cases found : db.tasks.get t with
  | none =>
      apply h.congr
      · intro slot
        rw [Scheduler.finishTask_gpus, GpuAllocator.releaseByTask_unknown found]
      · apply lists_congr _ instances
        intro u slot
        have row : (Scheduler.finishTask db t).tasks.get u = db.tasks.get u := by
          rw [Scheduler.finishTask_tasks]
          split
          · rename_i same
            rw [same, found, Option.map_none]
          · rfl
        rw [Database.Holds, Database.Holds, row]
  | some task =>
      obtain ⟨owners, ledger⟩ := oneOwner_iff_ledger.mp h
      apply oneOwner_iff_ledger.mpr
      classical
      refine ⟨_, ledger.drop (c := .task t) ?_ ?_⟩
      · intro slot
        obtain ⟨node, index⟩ := slot
        have mine : Lists db (.task t) (node, index) ↔ task.Lists node index := Bookkeeping.holds_iff found node index
        rw [Allocated, Allocated, Scheduler.finishTask_gpus, GpuAllocator.releaseByTask_get found, mine]
        by_cases listed : task.Lists node index
        · simp [listed]
        · simp only [listed, if_false, Option.map_id', not_false_eq_true, and_true]
      · intro owner slot
        cases owner with
        | replica id => simp [Lists, Instances.Lists, instances]
        | task u =>
            simp only [Lists, Database.Holds, Scheduler.finishTask_tasks]
            by_cases same : u = t
            · simp [same, found, Task.Lists, Task.gpuIndices, Scheduler.clearGpuIndices]
            · simp [same]

/-! ## Deployments and stops -/

theorem OneOwner.store {db db' : Database} {lower : String → String} {model : Model}
    {a : ModelService.Allocation} {id : InstanceId} {containerId : Option ContainerId} (h : OneOwner db)
    (granted : ModelService.allocateForModel lower model db = .ok a)
    (stored : ModelService.storeInstance (ModelService.newInstance id model.id a containerId) a db = some db') :
    OneOwner db' := by
  obtain ⟨_, tasks, _⟩ := ModelService.storeInstance_spec stored
  have fresh := Instances.store_fresh stored
  obtain ⟨owners, ledger⟩ := oneOwner_iff_ledger.mp h
  apply oneOwner_iff_ledger.mpr
  refine ⟨_, ledger.claim (c := .replica id) (fun slot inside => Instances.granted_free granted inside) ?_
    (Instances.store_inUse_iff granted stored) ?_⟩
  · rintro slot ⟨row, here, _⟩
    cases fresh.symm.trans here
  · intro owner slot
    cases owner with
    | task t => simp [Lists, Database.Holds, tasks]
    | replica other =>
        simp only [Lists, Borrowing.lists_store stored, Owner.replica.injEq, ne_eq]
        by_cases same : other = id
        · simp [same, Instances.Lists, fresh]
        · simp [same]

theorem OneOwner.release {db : Database} (h : OneOwner db) (id : InstanceId) :
    OneOwner (ModelService.releaseInstance id db) := by
  cases found : db.modelInstances.get id with
  | none =>
      rw [ModelService.releaseInstance, found]
      exact h
  | some row =>
      obtain rfl : row.id = id := Table.key_of_get found
      obtain ⟨owners, ledger⟩ := oneOwner_iff_ledger.mp h
      apply oneOwner_iff_ledger.mpr
      classical
      refine ⟨_, ledger.drop (c := .replica row.id) (Instances.release_inUse_iff found) ?_⟩
      intro owner slot
      cases owner with
      | task t =>
          have tasks : (ModelService.releaseInstance row.id db).tasks = db.tasks := by
            rw [ModelService.releaseInstance, found]
            rfl
          simp [Lists, Database.Holds, tasks]
      | replica other =>
          simp only [Lists, Instances.Lists, Instances.release_get found, Owner.replica.injEq, ne_eq]
          by_cases same : other = row.id
          · simp [same]
          · simp [same]

theorem shared_preserved : ModelService.Preserved Shared where
  mark _ _ _ h := ⟨h.oneOwner.congr (fun _ => rfl) (lists_congr (fun _ _ => Iff.rfl) rfl), h.early⟩
  store _ _ _ _ _ db db' h granted stored := by
    refine ⟨h.oneOwner.store granted stored, ?_⟩
    intro t task found
    rw [(ModelService.storeInstance_spec stored).2.1] at found
    exact h.early t task found
  run id status db h := by
    refine ⟨h.oneOwner.congr (fun _ => rfl) ?_, h.early⟩
    intro owner slot
    cases owner with
    | task t => exact Iff.rfl
    | replica other => exact Borrowing.lists_markInstance id status db other slot
  release id db h := by
    refine ⟨h.oneOwner.release id, ?_⟩
    intro t task found
    apply h.early t task
    unfold ModelService.releaseInstance at found
    split at found <;> exact found

section

variable {id : ModelId} {db db' : Database}

/-- The other calls of the model service write the catalogue. -/
theorem updateModel_models {payload : ModelUpdate}
    (updated : ModelService.updateModel id payload db = .ok (some db')) : ∃ models, db' = { db with models } := by
  unfold ModelService.updateModel at updated
  split at updated
  · cases updated
  · split at updated <;> cases updated
    exact ⟨_, rfl⟩

theorem deleteModel_models (deleted : ModelService.deleteModel id db = .ok db') :
    ∃ models, db' = { db with models } := by
  unfold ModelService.deleteModel at deleted
  split at deleted
  · cases deleted
  · split at deleted <;> cases deleted
    exact ⟨_, rfl⟩

end

/-- What the model service does to the shared tables keeps whatever its writes keep. -/
theorem models_preserved {P : Database → Prop} (preserved : ModelService.Preserved P)
    (catalogue : ∀ db models, P db → P { db with models }) (op : Catalogue.Op) {w : World} (h : P w.db) :
    P (exec (.models op) w).db := by
  cases op with
  | deploy env id => exact preserved.deploy env id (s := modelService w) h
  | stop calls id => exact preserved.stop calls id (s := modelService w) h
  | create id payload =>
      simp only [exec, Catalogue.exec]
      split
      · rename_i db created
        obtain ⟨models, rfl⟩ := ForeignKeys.createModel_spec created
        exact catalogue _ models h
      · exact h
  | update id payload =>
      simp only [exec, Catalogue.exec]
      split
      · rename_i db updated
        obtain ⟨models, rfl⟩ := updateModel_models updated
        exact catalogue _ models h
      · exact h
  | delete id =>
      simp only [exec, Catalogue.exec]
      split
      · rename_i db deleted
        obtain ⟨models, rfl⟩ := deleteModel_models deleted
        exact catalogue _ models h
      · exact h

theorem models_shared (op : Catalogue.Op) {w : World} (h : Shared w.db) : Shared (exec (.models op) w).db := by
  apply models_preserved shared_preserved _ op h
  intro db models h
  exact ⟨h.oneOwner.congr (fun _ => rfl) (lists_congr (fun _ _ => Iff.rfl) rfl), h.early⟩

/-! ## The careful steps -/

/-- The scheduler and the finish notifications keep the ledger, and so does whatever leaves
    the GPU rows alone. -/
theorem platform_shared (op : Platform.Op) (monitor : ∀ sweep, op ≠ .markOffline sweep)
    (beat : ∀ env payload, op ≠ .heartbeat env payload) {w : World} (h : Shared w.db) :
    OneOwner (Platform.exec op w).db := by
  have instances := exec_modelInstances op w
  cases op with
  | markOffline sweep => exact absurd rfl (monitor sweep)
  | heartbeat env payload => exact absurd rfl (beat env payload)
  | finished t =>
      simp only [Platform.exec]
      split
      · exact h.oneOwner
      · exact h.oneOwner.finish t
  | schedule env =>
      have keep : (∀ slot, (Platform.schedule env w).db.gpus.get slot = w.db.gpus.get slot) →
          (∀ t, ((Platform.schedule env w).db.tasks.get t).map Progress.assignment =
            (w.db.tasks.get t).map Progress.assignment) → OneOwner (Platform.schedule env w).db := by
        intro gpus rows
        exact h.oneOwner.congr gpus (lists_congr (fun t slot => holds_congr (.inl (rows t)) slot.1 slot.2) instances)
      cases Scheduler.scheduleOne_rows env w.toStore with
      | kept _ tasks gpus =>
          apply keep gpus
          intro t
          rw [← tasks t]
          rfl
      | failed task a run exc _ _ found _ tasks gpus =>
          apply keep gpus
          intro t
          refine (congrArg (Option.map Progress.assignment) (tasks t)).trans ?_
          by_cases same : t = task.id
          · rw [if_pos same, same, found]
            rfl
          · rw [if_neg same]
      | started task a run id result _ _ left =>
          exact h.oneOwner.launch left.selected left.found (h.early _ _ left.found (.inr left.queued)) id env.now
            result left.gpus left.tasks instances
  | _ =>
      apply h.oneOwner.congr
      · intro slot
        rw [Platform.exec_gpus _ w rfl]
      · apply lists_congr _ instances
        intro t slot
        obtain ⟨_, step, _⟩ := Platform.exec_row _ w t
        exact holds_congr (Progress.rowStep_assignment step rfl) slot.1 slot.2

/-- A sweep keeps all lists and takes the marks of the lost nodes away. -/
theorem sweep_iff (sweep : MonitorService.Sweep) {w : World} (h : Shared w.db) :
    OneOwner (Platform.exec (.markOffline sweep) w).db ↔ Careful w (.platform (.markOffline sweep)) := by
  have lists : ∀ owner slot, Lists (Platform.exec (.markOffline sweep) w).db owner slot ↔ Lists w.db owner slot := by
    apply lists_congr _ (exec_modelInstances (.markOffline sweep) w)
    intro t slot
    apply holds_congr
    left
    simp only [Platform.exec, MonitorService.markOfflineNodes_tasks, Option.map_map]
    congr 1
    funext task
    rw [Function.comp_apply]
    split <;> rfl
  have marks : ∀ slot, Allocated (Platform.exec (.markOffline sweep) w).db slot ↔
      Allocated w.db slot ∧ slot.1 ∉ MonitorService.lostNodes sweep w.db := by
    intro slot
    obtain ⟨node, index⟩ := slot
    simp only [Allocated, Platform.exec, MonitorService.markOfflineNodes_gpus, Option.map_eq_some_iff]
    by_cases lost : node ∈ MonitorService.lostNodes sweep w.db
    · simp [lost, MonitorService.resetGpu]
    · simp [lost]
  rw [h.oneOwner.same_lists lists, Careful]
  apply forall_congr'
  intro slot
  rw [marks]
  tauto

/-- A heartbeat keeps all lists and marks what it reports in use. -/
theorem heartbeat_iff (env : NodeService.Env) (payload : HeartbeatPayload) {w : World} (h : Shared w.db) :
    OneOwner (Platform.exec (.heartbeat env payload) w).db ↔ Careful w (.platform (.heartbeat env payload)) := by
  have lists : ∀ owner slot,
      Lists (Platform.exec (.heartbeat env payload) w).db owner slot ↔ Lists w.db owner slot := by
    apply lists_congr _ (exec_modelInstances (.heartbeat env payload) w)
    have rows : (Platform.exec (.heartbeat env payload) w).db.tasks = w.db.tasks := by
      simp only [Platform.exec]
      split
      · rename_i db handled
        obtain ⟨node, nodes, spec⟩ := NodeService.handleHeartbeat_spec handled
        exact spec.tasks
      · rfl
    intro t slot
    rw [Database.Holds, Database.Holds, rows]
  rw [h.oneOwner.same_lists lists, Careful]
  cases handled : NodeService.handleHeartbeat env payload w.db with
  | none => simp [Platform.exec, handled]
  | some db' =>
      obtain ⟨node, nodes, spec⟩ := NodeService.handleHeartbeat_spec handled
      have own : ∀ index, Allocated db' (node.id, index) ↔
          index ∈ payload.gpus.map (·.index) ∧ Mirror.InUse payload index := by
        intro index
        have status : Allocated db' (node.id, index) ↔
            (db'.gpus.get (node.id, index)).map (·.status) = some .allocated := by
          simp [Allocated]
        rw [status, spec.status]
        cases told : NodeService.lastReport index payload.gpus with
        | none => simp [← NodeService.lastReport_isSome, told]
        | some info =>
            have here := NodeService.lastReport_index told
            have marked := (Mirror.measured_reports payload info (NodeService.newGpu env node.id index)).allocated
            rw [here] at marked
            simp only [← NodeService.lastReport_isSome, told, Option.isSome_some, true_and, Option.map_some,
              Option.some.injEq]
            exact marked
      have others : ∀ other index, other ≠ node.id → (Allocated db' (other, index) ↔ Allocated w.db (other, index)) := by
        intro other index elsewhere
        rw [Allocated, Allocated, spec.others other index elsewhere]
      simp only [Platform.exec, handled, Option.isSome_some, forall_const]
      constructor
      · intro same node' nodes' located index
        cases spec.located.symm.trans located
        rw [← own, same]
      · intro careful slot
        obtain ⟨other, index⟩ := slot
        by_cases here : other = node.id
        · rw [here, own, careful node nodes spec.located]
        · exact others other index here

/-- A deletion forgets what the task lists and leaves the marks. -/
theorem delete_iff (user : User) (t : TaskId) {w : World} (h : Shared w.db) :
    OneOwner (exec (.delete user t) w).db ↔ Careful w (.delete user t) := by
  simp only [exec, Careful]
  split
  · rename_i db deleted
    obtain ⟨_, _, _, _, rows⟩ := TaskService.deleteTask_spec deleted
    obtain ⟨gpus, instances, _⟩ := TaskService.deleteTask_frame deleted
    have lists : ∀ owner slot, Lists db owner slot ↔ owner ≠ .task t ∧ Lists w.db owner slot := by
      intro owner slot
      cases owner with
      | replica id => simp [Lists, Instances.Lists, instances]
      | task u => by_cases same : u = t <;> simp [Lists, Database.Holds, rows, same]
    have marks : ∀ slot, Allocated db slot ↔ Allocated w.db slot := by
      intro slot
      rw [Allocated, Allocated, gpus]
    constructor
    · rintro h' other deleted' slot held
      cases deleted.symm.trans deleted'
      have used := (h.oneOwner.allocated slot).mpr ⟨.task t, held⟩
      obtain ⟨owner, listed⟩ := (h'.allocated slot).mp ((marks slot).mpr used)
      obtain ⟨apart, before⟩ := (lists owner slot).mp listed
      exact apart (h.oneOwner.once owner (.task t) slot before held)
    · intro careful
      have same : ∀ owner slot, Lists db owner slot ↔ Lists w.db owner slot := by
        intro owner slot
        rw [lists]
        constructor
        · exact fun kept => kept.2
        · intro listed
          refine ⟨?_, listed⟩
          rintro rfl
          exact careful db deleted slot listed
      exact (h.oneOwner.same_lists same).mpr marks
  · rename_i refused
    constructor
    · intro _ db deleted
      exact absurd deleted (refused db)
    · exact fun _ => h.oneOwner

theorem step_iff (op : Op) {w : World} (h : Shared w.db) : OneOwner (exec op w).db ↔ Careful w op := by
  cases op with
  | delete user t => exact delete_iff user t h
  | models op => exact iff_of_true (models_shared op h).oneOwner trivial
  | platform op =>
      cases op with
      | markOffline sweep => exact sweep_iff sweep h
      | heartbeat env payload => exact heartbeat_iff env payload h
      | _ => exact iff_of_true (platform_shared _ (by simp) (by simp) h) trivial

theorem early_step (op : Op) {w : World} (h : Shared w.db) : Early (exec op w).db := by
  cases op with
  | platform op => exact early_exec op h.early
  | models op => exact (models_shared op h).early
  | delete user t =>
      simp only [exec]
      split
      · rename_i db deleted
        obtain ⟨_, _, _, _, rows⟩ := TaskService.deleteTask_spec deleted
        intro u task found
        rw [rows] at found
        split at found
        · cases found
        · exact h.early u task found
      · exact h.early

/-- From the empty database on, whatever tasks and models are created, started and ended, and
    in whatever order nodes report: each GPU is allocated exactly when one task or one instance
    lists it, and never two of them, as long as no sweep, no heartbeat and no deletion
    contradicts the lists, and no longer. -/
theorem one_owner_iff (ops : List Op) :
    Runs.Along exec (fun w op => OneOwner (exec op w).db) ops {} ↔ Runs.Along exec Careful ops {} := by
  apply Runs.along_congr (I := fun w : World => Shared w.db)
  · exact fun w op h kept => ⟨kept, early_step op h⟩
  · exact fun w op h => step_iff op h
  · have unlisted : ∀ owner slot, ¬ Lists ({} : World).db owner slot := by
      intro owner slot listed
      cases owner <;> obtain ⟨_, found, _⟩ := listed <;> cases found
    refine ⟨⟨?_, fun owner _ slot listed => absurd listed (unlisted owner slot)⟩, ?_⟩
    · intro slot
      constructor
      · rintro ⟨gpu, found, _⟩
        cases found
      · exact fun ⟨owner, listed⟩ => absurd listed (unlisted owner slot)
    · intro t task found
      cases found

end SuitApi.SharedCluster
