import Mathlib.Data.List.Perm.Subperm
import SuitApi.Deployment
import SuitApi.Library.Ledger
import SuitApi.Library.Runs

/-! # Model instances side by side

Instances come and go one by one, through deployments that succeed or fail at any
replica and through stops.  The GPU statuses and the instances' lists are two
records of one ledger, and every new port is one that no instance of the node has.
-/

namespace SuitApi.Instances

open ModelService

/-! ## Ports -/

/-- Where the search ends on a used port, it has found all the ports on its way used. -/
theorem used_of_nextPortFrom {used : List Int} {fuel : Nat} {port : Int}
    (taken : nextPortFrom used fuel port ∈ used) : ∀ k ≤ fuel, port + k ∈ used := by
  induction fuel generalizing port with
  | zero =>
      intro k last
      have zero : k = 0 := by omega
      simpa [zero, nextPortFrom] using taken
  | succ fuel ih =>
      rw [nextPortFrom] at taken
      split at taken
      · rename_i here
        intro k last
        cases k with
        | zero => simpa using here
        | succ k =>
            have next := ih taken k (by omega)
            have same : port + ((k + 1 : Nat) : Int) = port + 1 + (k : Int) := by omega
            rw [same]
            exact next
      · rename_i free
        exact absurd taken free

/-- The search tries more ports than there are used ones. -/
theorem nextPortFrom_unused (used : List Int) (port : Int) : nextPortFrom used used.length port ∉ used := by
  intro taken
  have all := used_of_nextPortFrom taken
  have distinct : ((List.range (used.length + 1)).map fun k : Nat => port + (k : Int)).Nodup := by
    refine List.nodup_range.map fun i j same => ?_
    simpa using same
  have inside : ((List.range (used.length + 1)).map fun k : Nat => port + (k : Int)) ⊆ used := by
    intro tried member
    obtain ⟨k, small, rfl⟩ := List.mem_map.mp member
    exact all k (by simpa [Nat.lt_succ_iff] using small)
  have fits := (distinct.subperm inside).length_le
  simp only [List.length_map, List.length_range] at fits
  omega

theorem le_nextPortFrom (used : List Int) (fuel : Nat) (port : Int) : port ≤ nextPortFrom used fuel port := by
  induction fuel generalizing port with
  | zero => exact le_refl port
  | succ fuel ih =>
      rw [nextPortFrom]
      split
      · have next := ih (port + 1)
        omega
      · exact le_refl port

theorem nextHostPort_unused {db : Database} {row : ModelInstance} (inside : row ∈ db.modelInstances.rows) :
    row.port ≠ some (nextHostPort db row.nodeId) := by
  intro same
  refine nextPortFrom_unused _ 8001 (List.mem_filterMap.mpr ⟨row, ?_, same⟩)
  simp [inside]

/-! ## The ledger of GPUs -/

abbrev Slot := NodeId × Int

def InUse (db : Database) (slot : Slot) : Prop :=
  ∃ gpu, db.gpus.get slot = some gpu ∧ gpu.status = .allocated

def Lists (db : Database) (id : InstanceId) (slot : Slot) : Prop :=
  ∃ row, db.modelInstances.get id = some row ∧ row.Lists slot.1 slot.2

/-- Every instance has a port of its own on its node, and the GPU statuses are the ledger
    of the instances' GPUs. -/
structure Consistent (db : Database) : Prop where
  ports : ∀ row ∈ db.modelInstances.rows, ∃ port, row.port = some port ∧ 8001 ≤ port
  apart : ∀ row ∈ db.modelInstances.rows, ∀ other ∈ db.modelInstances.rows, row.nodeId = other.nodeId →
    row.port = other.port → row.id = other.id
  ledger : ∃ owners, Ledger.Represents (InUse db) (Lists db) owners

/-- Only GPUs and instances matter, and of an instance neither its status nor its place. -/
theorem Consistent.congr {db db' : Database} (h : Consistent db) (gpus : db'.gpus = db.gpus)
    (rows : ∀ row ∈ db'.modelInstances.rows, ∃ old ∈ db.modelInstances.rows,
      old.id = row.id ∧ old.nodeId = row.nodeId ∧ old.port = row.port)
    (lists : ∀ id slot, Lists db' id slot ↔ Lists db id slot) : Consistent db' where
  ports row inside := by
    obtain ⟨old, member, _, _, port⟩ := rows row inside
    rw [← port]
    exact h.ports old member
  apart row inside other inside' node port := by
    obtain ⟨old, member, id, node', port'⟩ := rows row inside
    obtain ⟨old', member', id', node'', port''⟩ := rows other inside'
    rw [← id, ← id']
    refine h.apart old member old' member' ?_ ?_
    · rw [node', node'', node]
    · rw [port', port'', port]
  ledger := by
    obtain ⟨owners, ledger⟩ := h.ledger
    refine ⟨owners, ledger.congr (fun slot => ?_) lists⟩
    rw [InUse, InUse, gpus]

theorem Consistent.mark {db : Database} (h : Consistent db) (id : ModelId) (status : String) :
    Consistent (markModel id status db) :=
  h.congr rfl (fun row inside => ⟨row, inside, rfl, rfl, rfl⟩) fun _ _ => Iff.rfl

theorem Consistent.run {db : Database} (h : Consistent db) (id : InstanceId) (status : String) :
    Consistent (markInstance id status db) := by
  refine h.congr rfl ?_ ?_
  · intro row inside
    obtain ⟨old, member, rfl⟩ := List.mem_map.mp inside
    refine ⟨old, member, ?_⟩
    split <;> exact ⟨rfl, rfl, rfl⟩
  · intro other slot
    have found : (markInstance id status db).modelInstances.get other =
        if other = id then (db.modelInstances.get other).map (setInstanceStatus status)
        else db.modelInstances.get other := Table.get_update _ _ _ (setInstanceStatus_id status) other
    unfold Lists
    rw [found]
    split
    · simp only [Option.map_eq_some_iff, exists_exists_and_eq_and]
      exact Iff.rfl
    · rfl

section Store

variable {lower : String → String} {model : Model} {a : ModelService.Allocation} {id : InstanceId}
  {containerId : Option ContainerId} {db db' : Database}

theorem store_inUse_iff (granted : allocateForModel lower model db = .ok a)
    (stored : storeInstance (newInstance id model.id a containerId) a db = some db') (slot : Slot) :
    InUse db' slot ↔ (slot.1 = a.nodeId ∧ slot.2 ∈ a.gpuIndices) ∨ InUse db slot := by
  obtain ⟨node, index⟩ := slot
  simp only [InUse, Deployment.stored_gpus stored]
  constructor
  · rintro ⟨gpu, here, allocated⟩
    obtain ⟨old, before, rfl⟩ := Option.map_eq_some_iff.mp here
    by_cases taken : node = a.nodeId ∧ index ∈ a.gpuIndices
    · exact .inl taken
    · rw [if_neg taken] at allocated
      exact .inr ⟨old, before, allocated⟩
  · rintro (⟨rfl, granted'⟩ | ⟨gpu, here, allocated⟩)
    · obtain ⟨gpu, here, _⟩ := allocateForModel_idle granted granted'
      exact ⟨gpu.withStatus .allocated, by simp [here, granted'], rfl⟩
    · refine ⟨_, by rw [here, Option.map_some], ?_⟩
      split
      · rfl
      · exact allocated

/-- A GPU that is granted is idle. -/
theorem granted_free (granted : allocateForModel lower model db = .ok a) {slot : Slot}
    (inside : slot.1 = a.nodeId ∧ slot.2 ∈ a.gpuIndices) : ¬ InUse db slot := by
  obtain ⟨node, index⟩ := slot
  obtain ⟨rfl, member⟩ := inside
  rintro ⟨gpu, here, allocated⟩
  obtain ⟨gpu', here', idle⟩ := allocateForModel_idle granted member
  rw [here'] at here
  cases here
  rw [idle] at allocated
  cases allocated

theorem store_get (stored : storeInstance (newInstance id model.id a containerId) a db = some db')
    (other : InstanceId) : db'.modelInstances.get other =
      if other = id then some (newInstance id model.id a containerId) else db.modelInstances.get other := by
  obtain ⟨table, inserted, rfl⟩ := Option.map_eq_some_iff.mp stored
  exact Table.get_insert? inserted other

theorem store_fresh (stored : storeInstance (newInstance id model.id a containerId) a db = some db') :
    db.modelInstances.get id = none := by
  obtain ⟨table, inserted, _⟩ := Option.map_eq_some_iff.mp stored
  exact Table.insert?_fresh inserted

/-- No instance of the node has the port that is granted. -/
theorem granted_port (granted : allocateForModel lower model db = .ok a) {row : ModelInstance}
    (inside : row ∈ db.modelInstances.rows) (same : row.nodeId = a.nodeId) : row.port ≠ some a.port := by
  rw [(allocateForModel_node granted).2, ← same]
  exact nextHostPort_unused inside

/-- A new instance claims GPUs that nobody owns. -/
theorem Consistent.store (h : Consistent db) (granted : allocateForModel lower model db = .ok a)
    (stored : storeInstance (newInstance id model.id a containerId) a db = some db') : Consistent db' := by
  obtain ⟨_, _, rows⟩ := storeInstance_spec stored
  obtain ⟨_, port⟩ := allocateForModel_node granted
  constructor
  case ports =>
    intro row inside
    rw [rows, List.mem_append, List.mem_singleton] at inside
    rcases inside with old | rfl
    · exact h.ports row old
    · refine ⟨a.port, rfl, ?_⟩
      rw [port]
      exact le_nextPortFrom _ _ 8001
  case apart =>
    intro row inside other inside' node same
    rw [rows, List.mem_append, List.mem_singleton] at inside inside'
    rcases inside with old | rfl <;> rcases inside' with old' | rfl
    · exact h.apart row old other old' node same
    · exact absurd same (granted_port granted old node)
    · exact absurd same.symm (granted_port granted old' node.symm)
    · rfl
  case ledger =>
    obtain ⟨owners, ledger⟩ := h.ledger
    refine ⟨_, ledger.claim (c := id) (fun slot inside => granted_free granted inside) ?_
      (store_inUse_iff granted stored) ?_⟩
    · rintro slot ⟨row, here, _⟩
      rw [store_fresh stored] at here
      cases here
    · rintro other ⟨node, index⟩
      simp only [Lists, store_get stored]
      by_cases same : other = id
      · simp only [same, if_pos, Option.some.injEq, exists_eq_left', Deployment.newInstance_lists]
        simp
      · simp [same]

end Store

section Release

variable {db : Database} {row : ModelInstance}

theorem release_inUse_iff (found : db.modelInstances.get row.id = some row) (slot : Slot) :
    InUse (releaseInstance row.id db) slot ↔ InUse db slot ∧ ¬ Lists db row.id slot := by
  obtain ⟨node, index⟩ := slot
  obtain ⟨before, after, split⟩ := List.append_of_mem (Table.mem_of_get found)
  obtain ⟨_, _, _, gpus⟩ := releaseInstance_spec split
  have listed : Lists db row.id (node, index) ↔ row.Lists node index := by simp [Lists, found]
  simp only [InUse, gpus, listed]
  constructor
  · rintro ⟨gpu, here, allocated⟩
    obtain ⟨was, before', rfl⟩ := Option.map_eq_some_iff.mp here
    by_cases mine : row.Lists node index
    · rw [if_pos mine] at allocated
      cases allocated
    · rw [if_neg mine] at allocated
      exact ⟨⟨was, before', allocated⟩, mine⟩
  · rintro ⟨⟨gpu, here, allocated⟩, other⟩
    exact ⟨gpu, by simp [here, other], allocated⟩

theorem release_get (found : db.modelInstances.get row.id = some row) (other : InstanceId) :
    (releaseInstance row.id db).modelInstances.get other =
      if other = row.id then none else db.modelInstances.get other := by
  rw [releaseInstance, found]
  refine (Table.get_deleteWhere db.modelInstances _ other).trans ?_
  cases here : db.modelInstances.get other with
  | none => simp
  | some old =>
      have key : old.id = other := Table.key_of_get here
      by_cases same : other = row.id <;> simp [key, same]

end Release

/-- A released instance gives up all its GPUs. -/
theorem Consistent.release {db : Database} (h : Consistent db) (id : InstanceId) :
    Consistent (releaseInstance id db) := by
  cases found : db.modelInstances.get id with
  | none =>
      rw [releaseInstance, found]
      exact h
  | some row =>
      obtain rfl : row.id = id := Table.key_of_get found
      obtain ⟨before, after, split⟩ := List.append_of_mem (Table.mem_of_get found)
      have old : ∀ other ∈ (releaseInstance row.id db).modelInstances.rows, other ∈ db.modelInstances.rows := by
        intro other inside
        rw [(releaseInstance_spec split).1] at inside
        rw [split]
        simp only [List.mem_append, List.mem_cons] at inside ⊢
        tauto
      constructor
      case ports => exact fun other inside => h.ports other (old other inside)
      case apart => exact fun other inside other' inside' => h.apart other (old other inside) other' (old other' inside')
      case ledger =>
        obtain ⟨owners, ledger⟩ := h.ledger
        refine ⟨_, ledger.drop (c := row.id) (release_inUse_iff found) ?_⟩
        rintro other ⟨node, index⟩
        simp only [Lists, release_get found]
        by_cases same : other = row.id
        · simp [same]
        · simp [same]

theorem consistent_preserved : Preserved Consistent where
  mark id status _ h := h.mark id status
  store _ _ _ _ _ _ _ h granted stored := h.store granted stored
  run id status _ h := h.run id status
  release id _ h := h.release id

/-! ## Deployments and stops -/

inductive Op where
  | deploy (env : Env) (id : ModelId)
  | stop (calls : InstanceId → StopCall) (id : ModelId)
  /-- Nodes and models become what they may. -/
  | surroundings (nodes : Table Node.id) (models : Table Model.id)

def exec : Op → State → State
  | .deploy env id, s => (deployModel env id s).2
  | .stop calls id, s => (stopModel calls id s).2
  | .surroundings nodes models, s => { s with db := { s.db with nodes, models } }

/-- Two instances of a node share neither a port nor a GPU, and a GPU is allocated exactly
    when one instance lists it. -/
structure NoCollision (db : Database) : Prop where
  base : ∀ row ∈ db.modelInstances.rows, ∃ port, row.port = some port ∧ 8001 ≤ port
  ports : ∀ row ∈ db.modelInstances.rows, ∀ other ∈ db.modelInstances.rows, row ≠ other →
    row.nodeId = other.nodeId → row.port ≠ other.port
  gpus : ∀ row ∈ db.modelInstances.rows, ∀ other ∈ db.modelInstances.rows, row ≠ other →
    ∀ node index, row.Lists node index → ¬ other.Lists node index
  allocated : ∀ gpu ∈ db.gpus.rows, gpu.status = .allocated ↔
    ∃! row, row ∈ db.modelInstances.rows ∧ row.Lists gpu.nodeId gpu.gpuIndex

theorem Consistent.noCollision {db : Database} (h : Consistent db) : NoCollision db := by
  obtain ⟨owners, ledger⟩ := h.ledger
  have same_row : ∀ row ∈ db.modelInstances.rows, ∀ other ∈ db.modelInstances.rows, row.id = other.id →
      row = other := by
    intro row inside other inside' same
    exact List.inj_on_of_nodup_map db.modelInstances.unique inside inside' same
  have lists : ∀ row ∈ db.modelInstances.rows, ∀ node index, row.Lists node index →
      Lists db row.id (node, index) :=
    fun row inside node index listed => ⟨row, Table.get_of_mem inside, listed⟩
  refine ⟨h.ports, ?_, ?_, ?_⟩
  · intro row inside other inside' different node port
    exact different (same_row row inside other inside' (h.apart row inside other inside' node port))
  · intro row inside other inside' different node index listed listed'
    exact different (same_row row inside other inside' (ledger.unique (lists row inside node index listed)
      (lists other inside' node index listed')))
  · intro gpu inside
    have found : db.gpus.get (gpu.nodeId, gpu.gpuIndex) = some gpu := Table.get_of_mem inside
    have used : gpu.status = .allocated ↔ InUse db (gpu.nodeId, gpu.gpuIndex) := by simp [InUse, found]
    rw [used, ledger.used_iff_existsUnique]
    constructor
    · rintro ⟨id, ⟨row, here, listed⟩, only⟩
      refine ⟨row, ⟨Table.mem_of_get here, listed⟩, ?_⟩
      rintro other ⟨member, listed'⟩
      have same : other.id = id := only other.id (lists other member _ _ listed')
      exact same_row other member row (Table.mem_of_get here) (same.trans (Table.key_of_get here).symm)
    · rintro ⟨row, ⟨member, listed⟩, only⟩
      refine ⟨row.id, lists row member _ _ listed, ?_⟩
      rintro id ⟨other, here, listed'⟩
      rw [← only other ⟨Table.mem_of_get here, listed'⟩]
      exact (Table.key_of_get here).symm

theorem consistent_step (s : State) (op : Op) (h : Consistent s.db) : Consistent (exec op s).db := by
  cases op with
  | deploy env id => exact consistent_preserved.deploy env id h
  | stop calls id => exact consistent_preserved.stop calls id h
  | surroundings nodes models =>
      exact h.congr rfl (fun row inside => ⟨row, inside, rfl, rfl, rfl⟩) fun _ _ => Iff.rfl

/-- Whatever the agents do, instances never collide. -/
theorem instances_never_collide (s : State) (none : s.db.modelInstances.rows = [])
    (idle : ∀ gpu ∈ s.db.gpus.rows, gpu.status ≠ .allocated) (ops : List Op) :
    NoCollision (Runs.run exec ops s).db := by
  have start : Consistent s.db := by
    refine ⟨by simp [none], by simp [none], _, .empty ?_ ?_⟩
    · rintro slot ⟨gpu, found, allocated⟩
      exact idle gpu (Table.mem_of_get found) allocated
    · rintro id slot ⟨row, found, _⟩
      have inside := Table.mem_of_get found
      rw [none] at inside
      cases inside
  have reached : Consistent (Runs.run exec ops s).db :=
    Runs.run_invariant (I := fun s : State => Consistent s.db) consistent_step ops start
  exact reached.noCollision

/-- A deployment that fails at its second replica, and one that succeeds. -/
theorem two_deployments_apart :
    NoCollision (Runs.run exec [.deploy (Deployment.Sample.env 1) "m", .deploy (Deployment.Sample.env 2) "m"]
      Deployment.Sample.state).db :=
  instances_never_collide Deployment.Sample.state rfl (by decide) _

end SuitApi.Instances
