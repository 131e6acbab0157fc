import SuitApi.Deployment
import SuitApi.Library.Runs

/-! # Stopping a model again

`stop_model` stops the containers one after the other and commits at the end.  When
a call fails halfway, the rows stay and the containers already removed stay
removed.  The next attempt asks for them again, and the agent answers a repeated
stop with 404.
-/

namespace SuitApi.StopRetry

open ModelService

/-! ## One call -/

/-- The address of an agent, and a container there. -/
abbrev Place := String × ContainerId

/-- Where `_stop_instance` sends its request for the instance, if it sends one. -/
def place (db : Database) (row : ModelInstance) : Option Place :=
  match db.nodes.get row.nodeId, truthyText row.containerId with
  | some node, some id => some (node.ip, id)
  | _, _ => none

def present (p : Place) (containers : List Container) : Bool := containers.any (isContainer p.1 p.2)

def removed (p : Place) (containers : List Container) : List Container :=
  containers.filter fun c => !isContainer p.1 p.2 c

theorem isContainer_iff {p : Place} {c : Container} : isContainer p.1 p.2 c = true ↔ p = (c.nodeIp, c.containerId) := by
  obtain ⟨nodeIp, id⟩ := p
  rw [isContainer, Bool.and_eq_true, decide_eq_true_eq, decide_eq_true_eq, Prod.mk.injEq]
  exact and_congr eq_comm eq_comm

theorem present_removed_iff {p q : Place} {containers : List Container} :
    present q (removed p containers) = true ↔ present q containers = true ∧ q ≠ p := by
  simp only [present, removed, List.any_eq_true, List.mem_filter, Bool.not_eq_true', ← Bool.not_eq_true,
    isContainer_iff]
  constructor
  · rintro ⟨c, ⟨inside, other⟩, rfl⟩
    exact ⟨⟨c, inside, rfl⟩, Ne.symm other⟩
  · rintro ⟨⟨c, inside, rfl⟩, other⟩
    exact ⟨c, ⟨inside, Ne.symm other⟩, rfl⟩

/-- The call fails and the container is still there, stopped perhaps. -/
def keeps : StopCall → Bool
  | .unreachable _ | .dockerFailed _ | .halted _ => true
  | .lost _ | .served => false

/-- The call fails and leaves the container as it was. -/
def untouched : StopCall → Bool
  | .unreachable _ | .dockerFailed _ => true
  | .lost _ | .halted _ | .served => false

theorem keeps_of_untouched {call : StopCall} (remains : untouched call = true) : keeps call = true := by
  cases call with
  | unreachable | dockerFailed => rfl
  | lost | halted | served => cases remains

/-- What stays and does not stay as it was has been halted. -/
theorem agentStop_touched {call : StopCall} (remains : keeps call = true) (touched : untouched call = false)
    (p : Place) (containers : List Container) :
    (agentStop call p.1 p.2 containers).2 = containers.map (halt p.1 p.2) := by
  cases call with
  | halted answer => cases answer <;> rfl
  | unreachable | dockerFailed => cases touched
  | lost | served => cases remains

theorem present_halted (p q : Place) (containers : List Container) :
    present q (containers.map (halt p.1 p.2)) = present q containers := by
  have same : (isContainer q.1 q.2 ∘ halt p.1 p.2) = isContainer q.1 q.2 := by
    funext c
    rw [Function.comp_apply, halt]
    split <;> rfl
  rw [present, List.any_map, same, present]

/-- A call that fails takes away the container that it is for, or none. -/
theorem present_agentStop {call : StopCall} (unserved : call ≠ .served) (p q : Place) (containers : List Container) :
    present q (agentStop call p.1 p.2 containers).2 = true ↔
      present q containers = true ∧ (keeps call = true ∨ q ≠ p) := by
  cases call with
  | served => exact absurd rfl unserved
  | unreachable | dockerFailed => simp [agentStop, keeps]
  | lost exc =>
      simp only [keeps, Bool.false_eq_true, false_or]
      exact present_removed_iff
  | halted answer => cases answer <;> simp [agentStop, keeps, present_halted]

theorem agentStop_untouched {call : StopCall} (remains : untouched call = true) (p : Place)
    (containers : List Container) : (agentStop call p.1 p.2 containers).2 = containers := by
  cases call with
  | unreachable | dockerFailed => rfl
  | lost | halted | served => cases remains

/-- How a call for one instance ends. -/
inductive Called (calls : InstanceId → StopCall) (row : ModelInstance) (s : State) :
    Except Raised Unit → State → Prop
  | skipped (nowhere : place s.db row = none) : Called calls row s (.ok ()) s
  | stopped {p : Place} (here : place s.db row = some p) (served : calls row.id = .served)
      (there : present p s.containers = true) {s' : State} (db : s'.db = s.db)
      (containers : s'.containers = removed p s.containers) : Called calls row s (.ok ()) s'
  | failed {p : Place} (here : place s.db row = some p) (unserved : calls row.id ≠ .served) {raised : Raised}
      {s' : State} (db : s'.db = s.db)
      (containers : s'.containers = (agentStop (calls row.id) p.1 p.2 s.containers).2) :
      Called calls row s (.error raised) s'
  | missing {p : Place} (here : place s.db row = some p) (absent : present p s.containers = false)
      (served : calls row.id = .served) {raised : Raised} {s' : State} (db : s'.db = s.db)
      (containers : s'.containers = s.containers) : Called calls row s (.error raised) s'

theorem callStop_spec (calls : InstanceId → StopCall) (row : ModelInstance) (s : State) :
    Called calls row s (callStop calls row s).1 (callStop calls row s).2 := by
  unfold callStop
  split
  · rename_i node id found named
    have here : place s.db row = some (node.ip, id) := by rw [place, found, named]
    cases call : calls row.id with
    | unreachable | lost | dockerFailed => exact .failed here (by simp [call]) rfl (by rw [call]; rfl)
    | halted answer => cases answer <;> exact .failed here (by simp [call]) rfl (by rw [call]; rfl)
    | served =>
        cases there : s.containers.any (isContainer node.ip id) with
        | true =>
            simp only [agentStop, there, if_true]
            exact .stopped here call there rfl rfl
        | false =>
            simp only [agentStop, there, Bool.false_eq_true, if_false]
            exact .missing here there call rfl rfl
  · rename_i nowhere
    refine .skipped ?_
    unfold place
    split
    · rename_i node id found named
      exact absurd named (nowhere node id found)
    · rfl

/-! ## One attempt -/

/-- The rows of all instances released. -/
def releaseAll (rows : List ModelInstance) (db : Database) : Database :=
  rows.foldl (fun db row => releaseInstance row.id db) db

theorem releaseInstance_frame (id : InstanceId) (db : Database) :
    (releaseInstance id db).nodes = db.nodes ∧ (releaseInstance id db).models = db.models := by
  unfold releaseInstance
  split <;> exact ⟨rfl, rfl⟩

theorem place_congr {db db' : Database} (nodes : db'.nodes = db.nodes) (row : ModelInstance) :
    place db' row = place db row := by
  rw [place, place, nodes]

/-- Every instance that is called has a container of its own. -/
def OwnContainers (db : Database) (rows : List ModelInstance) (containers : List Container) : Prop :=
  (rows.filterMap (place db)).Nodup ∧ ∀ p ∈ rows.filterMap (place db), present p containers = true

/-- The instances of the list for which a stop request is sent. -/
def called (db : Database) (rows : List ModelInstance) : List ModelInstance :=
  rows.filter fun row => (place db row).isSome

def AllServed (calls : InstanceId → StopCall) (rows : List ModelInstance) : Prop :=
  ∀ row ∈ rows, calls row.id = .served

/-- The first call fails, and its container is still there. -/
def FirstKept (calls : InstanceId → StopCall) (rows : List ModelInstance) : Prop :=
  ∃ row, rows.head? = some row ∧ keeps (calls row.id) = true

section

variable {db : Database} {row : ModelInstance} {rest : List ModelInstance}

theorem called_cons_none (nowhere : place db row = none) : called db (row :: rest) = called db rest := by
  simp [called, nowhere]

theorem called_cons_some {p : Place} (here : place db row = some p) :
    called db (row :: rest) = row :: called db rest := by
  simp [called, here]

theorem ownContainers_cons_none {containers : List Container} (nowhere : place db row = none) :
    OwnContainers db (row :: rest) containers ↔ OwnContainers db rest containers := by
  simp [OwnContainers, nowhere]

theorem ownContainers_cons_some {containers : List Container} {p : Place} (here : place db row = some p) :
    OwnContainers db (row :: rest) containers ↔
      present p containers = true ∧ OwnContainers db rest (removed p containers) := by
  simp only [OwnContainers, List.filterMap_cons, here, List.nodup_cons, List.mem_cons, present_removed_iff]
  constructor
  · rintro ⟨⟨other, distinct⟩, there⟩
    refine ⟨there p (.inl rfl), distinct, fun q inside => ⟨there q (.inr inside), ?_⟩⟩
    rintro rfl
    exact other inside
  · rintro ⟨there, distinct, others⟩
    refine ⟨⟨fun inside => (others p inside).2 rfl, distinct⟩, ?_⟩
    rintro q (rfl | inside)
    · exact there
    · exact (others q inside).1

end

/-- The loop over the instances ends, with all rows released, when every call is served
    and every instance that is called has its own container. -/
theorem stopInstances_ok_iff (calls : InstanceId → StopCall) (rows : List ModelInstance) (s : State) :
    (stopInstances calls rows s).1 = .ok () ↔
      AllServed calls (called s.db rows) ∧ OwnContainers s.db rows s.containers := by
  induction rows generalizing s with
  | nil => simp [stopInstances, AllServed, called, OwnContainers]
  | cons row rest ih =>
      rw [stopInstances]
      have spec := callStop_spec calls row s
      cases result : callStop calls row s with
      | mk answer s' =>
          rw [result] at spec
          have places : ∀ t : State, t.db = s.db → place (dropInstance row.id t).db = place s.db := by
            intro t same
            rw [dropInstance, same]
            exact funext fun row' => place_congr (releaseInstance_frame row.id s.db).1 row'
          cases spec with
          | skipped nowhere =>
              rw [called_cons_none nowhere, ownContainers_cons_none nowhere]
              refine (ih (dropInstance row.id s')).trans ?_
              simp only [called, OwnContainers, places s' rfl]
              rfl
          | stopped here served there db containers =>
              rw [called_cons_some here, ownContainers_cons_some here]
              refine (ih (dropInstance row.id s')).trans ?_
              have left : (dropInstance row.id s').containers = removed _ s.containers := containers
              simp only [called, OwnContainers, places s' db, left, AllServed, List.mem_cons, forall_eq_or_imp,
                served, there, true_and]
          | failed here unserved =>
              rw [called_cons_some here]
              simp [AllServed, unserved]
          | missing here absent =>
              rw [ownContainers_cons_some here]
              simp [absent]

theorem stopInstances_ok_db {calls : InstanceId → StopCall} {rows : List ModelInstance} {s : State}
    (succeeded : (stopInstances calls rows s).1 = .ok ()) :
    (stopInstances calls rows s).2.db = releaseAll rows s.db := by
  induction rows generalizing s with
  | nil => rfl
  | cons row rest ih =>
      rw [stopInstances] at succeeded ⊢
      have spec := callStop_spec calls row s
      cases result : callStop calls row s with
      | mk answer s' =>
          rw [result] at spec
          simp only [result] at succeeded
          cases spec with
          | skipped => exact ih succeeded
          | stopped here served there db containers =>
              refine (ih succeeded).trans ?_
              rw [dropInstance, db]
              rfl
          | failed | missing => cases succeeded

/-- Containers never come back. -/
theorem stopInstances_containers (calls : InstanceId → StopCall) (rows : List ModelInstance) (s : State) {p : Place}
    (absent : present p s.containers = false) : present p (stopInstances calls rows s).2.containers = false := by
  induction rows generalizing s with
  | nil => exact absent
  | cons row rest ih =>
      rw [stopInstances]
      have spec := callStop_spec calls row s
      have gone : ∀ q, present p (removed q s.containers) = false := by
        intro q
        rw [← Bool.not_eq_true, present_removed_iff, absent]
        simp
      cases result : callStop calls row s with
      | mk answer s' =>
          rw [result] at spec
          cases spec with
          | skipped => exact ih _ absent
          | stopped here served there db containers => exact ih _ (containers ▸ gone _)
          | failed here unserved db containers =>
              rw [containers, ← Bool.not_eq_true, present_agentStop unserved, absent]
              simp
          | missing here missing served db containers => exact containers ▸ absent

section

variable {calls : InstanceId → StopCall} {rows : List ModelInstance} {s : State} {row : ModelInstance} {p : Place}

/-- An attempt whose first call fails ends there. -/
theorem stopInstances_failed (first : (called s.db rows).head? = some row) (here : place s.db row = some p)
    (unserved : calls row.id ≠ .served) :
    (stopInstances calls rows s).2.containers = (agentStop (calls row.id) p.1 p.2 s.containers).2 := by
  induction rows generalizing s with
  | nil => cases first
  | cons head rest ih =>
      rw [stopInstances]
      have spec := callStop_spec calls head s
      cases result : callStop calls head s with
      | mk answer s' =>
          rw [result] at spec
          cases spec with
          | skipped nowhere =>
              rw [called_cons_none nowhere] at first
              have places : place (dropInstance head.id s').db = place s'.db :=
                funext fun row' => place_congr (releaseInstance_frame head.id s'.db).1 row'
              refine ih (s := dropInstance head.id s') ?_ ?_
              · simp only [called, places]
                exact first
              · rw [places]
                exact here
          | stopped here' served | missing here' _ served =>
              rw [called_cons_some here'] at first
              obtain rfl : head = row := Option.some.inj first
              exact absurd served unserved
          | failed here' unserved db containers =>
              rw [called_cons_some here'] at first
              obtain rfl : head = row := Option.some.inj first
              obtain rfl : _ = p := Option.some.inj (here'.symm.trans here)
              exact containers

/-- An attempt whose first call is served leaves the first container away. -/
theorem stopInstances_served (first : (called s.db rows).head? = some row) (here : place s.db row = some p)
    (served : calls row.id = .served) : present p (stopInstances calls rows s).2.containers = false := by
  induction rows generalizing s with
  | nil => cases first
  | cons head rest ih =>
      rw [stopInstances]
      have spec := callStop_spec calls head s
      cases result : callStop calls head s with
      | mk answer s' =>
          rw [result] at spec
          cases spec with
          | skipped nowhere =>
              rw [called_cons_none nowhere] at first
              have places : place (dropInstance head.id s').db = place s'.db :=
                funext fun row' => place_congr (releaseInstance_frame head.id s'.db).1 row'
              refine ih (s := dropInstance head.id s') ?_ ?_
              · simp only [called, places]
                exact first
              · rw [places]
                exact here
          | stopped here' _ there db containers =>
              rw [called_cons_some here'] at first
              obtain rfl : head = row := Option.some.inj first
              obtain rfl : _ = p := Option.some.inj (here'.symm.trans here)
              apply stopInstances_containers
              rw [dropInstance, containers, ← Bool.not_eq_true, present_removed_iff]
              simp
          | failed here' unserved =>
              rw [called_cons_some here'] at first
              obtain rfl : head = row := Option.some.inj first
              exact absurd served unserved
          | missing here' absent _ db containers =>
              rw [called_cons_some here'] at first
              obtain rfl : head = row := Option.some.inj first
              obtain rfl : _ = p := Option.some.inj (here'.symm.trans here)
              rw [containers]
              exact absent

end

/-! ## What an attempt that succeeds leaves -/

theorem mem_releaseInstance {id : InstanceId} {db : Database} {row : ModelInstance} :
    row ∈ (releaseInstance id db).modelInstances.rows ↔ row ∈ db.modelInstances.rows ∧ row.id ≠ id := by
  unfold releaseInstance
  split
  · rename_i missing
    exact (and_iff_left_of_imp (Table.get_eq_none.mp missing row)).symm
  · simp [Table.deleteWhere]

theorem mem_releaseAll {rows : List ModelInstance} {db : Database} {row : ModelInstance} :
    row ∈ (releaseAll rows db).modelInstances.rows ↔
      row ∈ db.modelInstances.rows ∧ ∀ gone ∈ rows, row.id ≠ gone.id := by
  induction rows generalizing db with
  | nil => simp [releaseAll]
  | cons head rest ih =>
      rw [releaseAll, List.foldl_cons]
      refine ih.trans ?_
      simp only [mem_releaseInstance, List.mem_cons, forall_eq_or_imp, and_assoc]

theorem releaseInstance_idle {id : InstanceId} {db : Database} {node : NodeId} {index : Int} {gpu : GpuDevice}
    (found : (releaseInstance id db).gpus.get (node, index) = some gpu) :
    ∃ old, db.gpus.get (node, index) = some old ∧ (old.status = .idle → gpu.status = .idle) ∧
      ∀ row, db.modelInstances.get id = some row → row.Lists node index → gpu.status = .idle := by
  unfold releaseInstance at found
  split at found
  · rename_i missing
    refine ⟨gpu, found, fun idle => idle, fun row here => ?_⟩
    rw [missing] at here
    cases here
  · rename_i row here
    have wrote := (setGpus_get .idle row.nodeId (row.assignedGpuIndices.getD []) db node index).symm.trans found
    obtain ⟨old, was, rfl⟩ := Option.map_eq_some_iff.mp wrote
    refine ⟨old, was, fun idle => ?_, fun row' here' listed => ?_⟩
    · split
      · rfl
      · exact idle
    · rw [here] at here'
      cases here'
      rw [if_pos ⟨listed.1.symm, listed.2⟩]
      rfl

/-- The GPUs of the instances are idle, and the models are as they were. -/
structure Released (rows : List ModelInstance) (db db' : Database) : Prop where
  models : db'.models = db.models
  idle : ∀ node index gpu, db'.gpus.get (node, index) = some gpu →
    ∃ old, db.gpus.get (node, index) = some old ∧ (old.status = .idle → gpu.status = .idle) ∧
      ((∃ row ∈ rows, row.Lists node index) → gpu.status = .idle)

theorem releaseAll_spec {rows : List ModelInstance} {db : Database}
    (stored : ∀ row ∈ rows, db.modelInstances.get row.id = some row) (distinct : (rows.map (·.id)).Nodup) :
    Released rows db (releaseAll rows db) := by
  induction rows generalizing db with
  | nil => exact ⟨rfl, fun node index gpu found => ⟨gpu, found, id, by simp⟩⟩
  | cons row rest ih =>
      rw [List.map_cons, List.nodup_cons] at distinct
      have others : ∀ other ∈ rest, (releaseInstance row.id db).modelInstances.get other.id = some other := by
        intro other inside
        have different : other.id ≠ row.id := fun same => distinct.1 (List.mem_map.mpr ⟨other, inside, same⟩)
        rw [releaseInstance, stored row List.mem_cons_self]
        refine (Table.get_deleteWhere db.modelInstances _ other.id).trans ?_
        rw [stored other (List.mem_cons_of_mem row inside)]
        simp [different]
      have next := ih others distinct.2
      constructor
      case models => exact next.models.trans (releaseInstance_frame row.id db).2
      case idle =>
        intro node index gpu found
        obtain ⟨middle, here, stays, listed⟩ := next.idle node index gpu found
        obtain ⟨old, was, stays', listed'⟩ := releaseInstance_idle here
        refine ⟨old, was, fun idle => stays (stays' idle), ?_⟩
        rintro ⟨lister, inside, lists⟩
        rcases List.mem_cons.mp inside with rfl | inside
        · exact stays (listed' lister (stored lister List.mem_cons_self) lists)
        · exact listed ⟨lister, inside, lists⟩

/-- Of all instances of a model only the others are left. -/
theorem mem_releaseAll_instancesOf {id : ModelId} {db : Database} {row : ModelInstance} :
    row ∈ (releaseAll (instancesOf id db) db).modelInstances.rows ↔
      row ∈ db.modelInstances.rows ∧ row.modelId ≠ id := by
  rw [mem_releaseAll]
  refine and_congr_right fun inside => ?_
  constructor
  · intro apart own
    exact apart row (by simp [instancesOf, inside, own]) rfl
  · intro other gone member same
    have stored : gone ∈ db.modelInstances.rows ∧ gone.modelId = id := by simpa [instancesOf] using member
    obtain rfl : row = gone := List.inj_on_of_nodup_map db.modelInstances.unique inside stored.1 same
    exact other stored.2

theorem releaseAll_instancesOf (id : ModelId) (db : Database) :
    Released (instancesOf id db) db (releaseAll (instancesOf id db) db) := by
  apply releaseAll_spec
  · exact fun row inside => Table.get_of_mem (List.mem_of_mem_filter inside)
  · exact db.modelInstances.unique.sublist (List.filter_sublist.map _)

/-! ## Attempts in a row -/

def attempt (id : ModelId) (calls : InstanceId → StopCall) (s : State) : State := (stopModel calls id s).2

/-- Every agent is reached, and Docker succeeds for containers that exist. -/
def served : InstanceId → StopCall := fun _ => .served

/-- The next `stop_model` succeeds and leaves none of the instances the model had at the
    start, their GPUs idle, and the model offline. -/
structure Completes (id : ModelId) (start s : State) : Prop where
  succeeds : (stopModel served id s).1 = .ok ()
  deleted : instancesOf id (attempt id served s).db = []
  idle : ∀ row ∈ instancesOf id start.db, ∀ node index gpu, row.Lists node index →
    (attempt id served s).db.gpus.get (node, index) = some gpu → gpu.status = .idle
  offline : ∃ model, (attempt id served s).db.models.get id = some model ∧ model.status = "offline"

/-- Before the first attempt whose calls are all served, every attempt fails at its first
    call, and the container stays. -/
def Retryable (rows : List ModelInstance) : List (InstanceId → StopCall) → Prop
  | [] => True
  | calls :: rest => AllServed calls rows ∨ FirstKept calls rows ∧ Retryable rows rest

theorem AllServed.not_firstKept {calls : InstanceId → StopCall} {rows : List ModelInstance}
    (all : AllServed calls rows) : ¬ FirstKept calls rows := by
  rintro ⟨row, first, kept⟩
  rw [all row (List.mem_of_head? first)] at kept
  cases kept

/-- The model has no instances any more. -/
structure Finished (id : ModelId) (start s : State) : Prop where
  stored : (s.db.models.get id).isSome = true
  none : instancesOf id s.db = []
  idle : ∀ row ∈ instancesOf id start.db, ∀ node index gpu, row.Lists node index →
    s.db.gpus.get (node, index) = some gpu → gpu.status = .idle

theorem markModel_status {id : ModelId} {db : Database} (stored : (db.models.get id).isSome = true)
    (status : String) : ∃ model, (markModel id status db).models.get id = some model ∧ model.status = status := by
  obtain ⟨model, found⟩ := Option.isSome_iff_exists.mp stored
  refine ⟨setModelStatus status model, ?_, rfl⟩
  rw [Deployment.markModel_get, if_pos rfl, found, Option.map_some]

theorem attempt_finished {id : ModelId} {start s : State} (h : Finished id start s)
    (calls : InstanceId → StopCall) :
    (stopModel calls id s).1 = .ok () ∧ Finished id start (attempt id calls s) ∧
      ∃ model, (attempt id calls s).db.models.get id = some model ∧ model.status = "offline" := by
  obtain ⟨model, found⟩ := Option.isSome_iff_exists.mp h.stored
  have result : stopModel calls id s = (.ok (), { s with db := markModel id "offline" s.db }) := by
    simp only [stopModel, found, h.none, stopInstances]
  obtain ⟨marked, here, offline⟩ := markModel_status h.stored "offline"
  rw [attempt, result]
  exact ⟨rfl, ⟨Option.isSome_of_eq_some here, h.none, h.idle⟩, marked, here, offline⟩

theorem Finished.completes {id : ModelId} {start s : State} (h : Finished id start s) : Completes id start s := by
  obtain ⟨succeeds, after, offline⟩ := attempt_finished h served
  exact ⟨succeeds, after.none, after.idle, offline⟩

theorem Finished.run {id : ModelId} {start s : State} (h : Finished id start s)
    (attempts : List (InstanceId → StopCall)) : Finished id start (Runs.run (attempt id) attempts s) :=
  Runs.run_invariant (I := Finished id start) (fun _ calls h => (attempt_finished h calls).2.1) attempts h

section

variable {id : ModelId} {calls : InstanceId → StopCall} {s : State}

/-- An attempt succeeds, and then the model is finished, exactly when all its calls are
    served and find their containers. -/
theorem stopModel_ok_iff (stored : (s.db.models.get id).isSome = true) :
    (stopModel calls id s).1 = .ok () ↔
      AllServed calls (called s.db (instancesOf id s.db)) ∧
        OwnContainers s.db (instancesOf id s.db) s.containers := by
  obtain ⟨model, found⟩ := Option.isSome_iff_exists.mp stored
  rw [← stopInstances_ok_iff]
  simp only [stopModel, found]
  cases stopInstances calls (instancesOf id s.db) s with
  | mk answer s' => cases answer <;> simp

/-- An attempt that succeeds releases all instances of the model and marks it. -/
theorem attempt_db (stored : (s.db.models.get id).isSome = true) (succeeded : (stopModel calls id s).1 = .ok ()) :
    (attempt id calls s).db = markModel id "offline" (releaseAll (instancesOf id s.db) s.db) := by
  obtain ⟨model, found⟩ := Option.isSome_iff_exists.mp stored
  have looped := (stopInstances_ok_iff calls _ s).mpr ((stopModel_ok_iff stored).mp succeeded)
  rw [← stopInstances_ok_db looped]
  simp only [attempt, stopModel, found]
  cases result : stopInstances calls (instancesOf id s.db) s with
  | mk answer s' =>
      rw [result] at looped
      cases looped
      rfl

theorem attempt_succeeded {start : State} (stored : (s.db.models.get id).isSome = true)
    (same : instancesOf id start.db = instancesOf id s.db) (succeeded : (stopModel calls id s).1 = .ok ()) :
    Finished id start (attempt id calls s) ∧
      ∃ model, (attempt id calls s).db.models.get id = some model ∧ model.status = "offline" := by
  have released := releaseAll_instancesOf id s.db
  have stored' : ((releaseAll (instancesOf id s.db) s.db).models.get id).isSome = true := by
    rw [released.models]
    exact stored
  obtain ⟨marked, here, offline⟩ := markModel_status stored' "offline"
  have wrote := attempt_db stored succeeded
  rw [← wrote] at here
  refine ⟨⟨Option.isSome_of_eq_some here, ?_, ?_⟩, marked, here, offline⟩
  · rw [wrote]
    apply List.filter_eq_nil_iff.mpr
    intro row inside own
    exact (mem_releaseAll_instancesOf.mp inside).2 (of_decide_eq_true own)
  · intro row inside node index gpu listed found
    rw [wrote] at found
    obtain ⟨_, _, _, idle⟩ := released.idle node index gpu found
    exact idle ⟨row, same ▸ inside, listed⟩

/-- An attempt that fails changes no row. -/
theorem attempt_failed (failed : (stopModel calls id s).1 ≠ .ok ()) : (attempt id calls s).db = s.db := by
  unfold attempt
  unfold stopModel at failed ⊢
  split
  · rfl
  · rename_i model found
    simp only [found] at failed
    cases result : stopInstances calls (instancesOf id s.db) s with
    | mk answer s' =>
        rw [result] at failed
        cases answer with
        | error raised => rfl
        | ok done => exact absurd rfl failed

theorem attempt_containers (stored : (s.db.models.get id).isSome = true) :
    (attempt id calls s).containers = (stopInstances calls (instancesOf id s.db) s).2.containers := by
  obtain ⟨model, found⟩ := Option.isSome_iff_exists.mp stored
  simp only [attempt, stopModel, found]
  cases stopInstances calls (instancesOf id s.db) s with
  | mk answer s' => cases answer <;> rfl

/-- How one attempt ends: with everything stopped, with all containers still there, or with one
    gone and its row still there. -/
inductive Attempted (id : ModelId) (calls : InstanceId → StopCall) (s : State) : Prop
  | completed (succeeded : (stopModel calls id s).1 = .ok ())
  | kept (failed : (stopModel calls id s).1 ≠ .ok ()) {row : ModelInstance} {p : Place}
      (first : (called s.db (instancesOf id s.db)).head? = some row) (here : place s.db row = some p)
      (remains : keeps (calls row.id) = true)
      (containers : (attempt id calls s).containers = (agentStop (calls row.id) p.1 p.2 s.containers).2)
  | broken (failed : (stopModel calls id s).1 ≠ .ok ()) (unkept : ¬ FirstKept calls (called s.db (instancesOf id s.db)))
      {p : Place} (asked : p ∈ (instancesOf id s.db).filterMap (place s.db))
      (absent : present p (attempt id calls s).containers = false)

theorem attempt_spec (stored : (s.db.models.get id).isSome = true) : Attempted id calls s := by
  by_cases succeeded : (stopModel calls id s).1 = .ok ()
  · exact .completed succeeded
  · cases first : (called s.db (instancesOf id s.db)).head? with
    | none =>
        have nobody := List.head?_eq_none_iff.mp first
        have nowhere : (instancesOf id s.db).filterMap (place s.db) = [] := by
          rw [List.filterMap_eq_nil_iff]
          intro row inside
          simpa using List.filter_eq_nil_iff.mp nobody row inside
        exact absurd ((stopModel_ok_iff stored).mpr (by simp [AllServed, OwnContainers, nobody, nowhere])) succeeded
    | some row =>
        obtain ⟨member, sent⟩ := List.mem_filter.mp (List.mem_of_head? first)
        obtain ⟨p, here⟩ := Option.isSome_iff_exists.mp sent
        have left := @attempt_containers id calls s stored
        cases remains : keeps (calls row.id) with
        | true =>
            have unserved : calls row.id ≠ .served := by
              intro served
              rw [served] at remains
              cases remains
            exact .kept succeeded first here remains (left.trans (stopInstances_failed first here unserved))
        | false =>
            refine .broken succeeded ?_ (List.mem_filterMap.mpr ⟨row, member, here⟩) ?_
            · rintro ⟨row', first', remains'⟩
              rw [first] at first'
              cases first'
              rw [remains] at remains'
              cases remains'
            · rw [left]
              by_cases served : calls row.id = .served
              · exact stopInstances_served first here served
              · rw [stopInstances_failed first here served, ← Bool.not_eq_true, present_agentStop served, remains]
                simp

end

/-- Once the container of an instance is gone, no attempt succeeds any more. -/
theorem never_completes {id : ModelId} {start s : State} (stored : (s.db.models.get id).isSome = true) {p : Place}
    (asked : p ∈ (instancesOf id s.db).filterMap (place s.db)) (absent : present p s.containers = false)
    (attempts : List (InstanceId → StopCall)) : ¬ Completes id start (Runs.run (attempt id) attempts s) := by
  have fails : ∀ calls, (stopModel calls id s).1 ≠ .ok () := by
    intro calls succeeded
    have there := ((stopModel_ok_iff stored).mp succeeded).2.2 p asked
    rw [absent] at there
    cases there
  induction attempts generalizing s with
  | nil => exact fun completes => fails served completes.succeeds
  | cons calls rest ih =>
      have same := attempt_failed (fails calls)
      rw [Runs.run_cons]
      have absent' : present p (attempt id calls s).containers = false := by
        rw [attempt_containers stored]
        exact stopInstances_containers calls _ s absent
      refine ih (by rw [same]; exact stored) (by rw [same]; exact asked) absent' fun calls' succeeded => ?_
      have there := ((stopModel_ok_iff (by rw [same]; exact stored)).mp succeeded).2.2 p (by rw [same]; exact asked)
      rw [absent'] at there
      cases there

/-- The attempts start from the rows of `start`, and from containers that earlier
    attempts have left. -/
theorem completes_run_iff {id : ModelId} {start : State} (stored : (start.db.models.get id).isSome = true)
    (attempts : List (InstanceId → StopCall)) {s : State} (same : s.db = start.db) :
    Completes id start (Runs.run (attempt id) attempts s) ↔
      OwnContainers start.db (instancesOf id start.db) s.containers ∧
        Retryable (called start.db (instancesOf id start.db)) attempts := by
  have rows : instancesOf id start.db = instancesOf id s.db := by rw [same]
  induction attempts generalizing s with
  | nil =>
      rw [← same] at stored ⊢
      constructor
      · exact fun completes => ⟨((stopModel_ok_iff stored).mp completes.succeeds).2, trivial⟩
      · rintro ⟨own, _⟩
        have succeeds : (stopModel served id s).1 = .ok () := (stopModel_ok_iff stored).mpr ⟨fun _ _ => rfl, own⟩
        obtain ⟨finished, offline⟩ := attempt_succeeded stored rows succeeds
        exact ⟨succeeds, finished.none, finished.idle, offline⟩
  | cons calls rest ih =>
      have stored' : (s.db.models.get id).isSome = true := by rw [same]; exact stored
      have succeeds_iff := @stopModel_ok_iff id calls s stored'
      rw [same] at succeeds_iff
      rw [Runs.run_cons]
      cases @attempt_spec id calls s stored' with
      | completed succeeded =>
          obtain ⟨all, own⟩ := succeeds_iff.mp succeeded
          have finished := (attempt_succeeded stored' rows succeeded).1.run rest
          exact iff_of_true finished.completes ⟨own, .inl all⟩
      | @kept failed row p first here remains containers =>
          have kept := (attempt_failed failed).trans same
          have first : FirstKept calls (called start.db (instancesOf id start.db)) :=
            ⟨row, by rw [← same]; exact first, remains⟩
          have unserved : calls row.id ≠ .served := by
            intro served
            rw [served] at remains
            cases remains
          have there : ∀ q, present q (attempt id calls s).containers = true ↔ present q s.containers = true := by
            intro q
            rw [containers, present_agentStop unserved, remains]
            simp
          have next := ih kept (by rw [kept])
          simp only [OwnContainers, there] at next ⊢
          refine next.trans (and_congr_right fun _ => ?_)
          constructor
          · exact fun retryable => .inr ⟨first, retryable⟩
          · rintro (all | ⟨_, retryable⟩)
            · exact absurd first all.not_firstKept
            · exact retryable
      | broken failed unkept asked absent =>
          have kept := attempt_failed failed
          rw [same] at unkept
          refine iff_of_false (never_completes (by rw [kept]; exact stored') (by rw [kept]; exact asked) absent rest) ?_
          rintro ⟨own, all | ⟨first, _⟩⟩
          · exact failed (succeeds_iff.mpr ⟨all, own⟩)
          · exact unkept first

/-- After any attempts, `stop_model` can be completed exactly when every instance it calls
    for had a container of its own, and no attempt has removed one and failed. -/
theorem stop_completes_iff (id : ModelId) (s : State) (stored : (s.db.models.get id).isSome = true)
    (attempts : List (InstanceId → StopCall)) :
    Completes id s (Runs.run (attempt id) attempts s) ↔
      OwnContainers s.db (instancesOf id s.db) s.containers ∧
        Retryable (called s.db (instancesOf id s.db)) attempts :=
  completes_run_iff stored attempts rfl

/-! ## A model with two replicas -/

/-- The two replicas of the model are running. -/
def running : State := (deployModel (Deployment.Sample.env 2) "m" Deployment.Sample.state).2

/-- The call for one of the instances does not reach the agent. -/
def unreachable (id : InstanceId) : InstanceId → StopCall := fun row =>
  if row = id then .unreachable "connection refused" else .served

/-- Where the first call of an attempt fails, the next attempt succeeds. -/
theorem first_call_fails : Completes "m" running (Runs.run (attempt "m") [unreachable "first"] running) := by
  apply (stop_completes_iff "m" running (by decide +kernel) _).mpr
  exact ⟨⟨by decide +kernel, by decide +kernel⟩, .inr ⟨⟨_, rfl, by decide +kernel⟩, trivial⟩⟩

/-- Where the second call fails, the first container is gone, and the next attempt raises. -/
theorem second_call_fails : ¬ ∀ (id : ModelId) (s : State), (s.db.models.get id).isSome = true →
    ∀ attempts, Completes id s (Runs.run (attempt id) attempts s) := by
  intro all
  have completes := all "m" running (by decide +kernel) [unreachable "second"]
  exact absurd completes.succeeds (by decide +kernel)

end SuitApi.StopRetry
