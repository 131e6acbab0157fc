import SuitApi.Instances

/-! # GPUs are borrowed

Deployments take idle GPUs and mark them, and clean-ups and stops mark them idle again.
What the agents answer in between decides how many are out, never what comes back.
-/

namespace SuitApi.Borrowing

open ModelService
open Instances (Slot Op exec)

/-- A GPU that no instance lists has its row from the start; one that is listed was idle
    then, is marked now, and is listed by one instance only. -/
structure Borrowed (start db : Database) : Prop where
  returned : ∀ slot, (∀ id, ¬ Instances.Lists db id slot) → db.gpus.get slot = start.gpus.get slot
  out : ∀ id slot, Instances.Lists db id slot → ∃ gpu, start.gpus.get slot = some gpu ∧ gpu.status = .idle ∧
    db.gpus.get slot = some (gpu.withStatus .allocated)
  once : ∀ id other slot, Instances.Lists db id slot → Instances.Lists db other slot → id = other

theorem Borrowed.congr {start db db' : Database} (h : Borrowed start db) (gpus : db'.gpus = db.gpus)
    (lists : ∀ id slot, Instances.Lists db' id slot ↔ Instances.Lists db id slot) : Borrowed start db' where
  returned slot unlisted := by
    rw [gpus]
    exact h.returned slot fun id listed => unlisted id ((lists id slot).mpr listed)
  out id slot listed := by
    rw [gpus]
    exact h.out id slot ((lists id slot).mp listed)
  once id other slot first second := h.once id other slot ((lists id slot).mp first) ((lists other slot).mp second)

/-- The status of an instance does not matter. -/
theorem lists_markInstance (id : InstanceId) (status : String) (db : Database) (other : InstanceId) (slot : Slot) :
    Instances.Lists (markInstance id status db) other slot ↔ Instances.Lists db other slot := by
  have found : (markInstance id status db).modelInstances.get other =
      if other = id then (db.modelInstances.get other).map (setInstanceStatus status)
      else db.modelInstances.get other := Table.get_update _ _ _ (setInstanceStatus_id status) other
  unfold Instances.Lists
  rw [found]
  split
  · simp only [Option.map_eq_some_iff, exists_exists_and_eq_and]
    exact Iff.rfl
  · rfl

section

variable {start db db' : Database} {lower : String → String} {model : Model} {a : ModelService.Allocation}
  {id : InstanceId} {containerId : Option ContainerId}

theorem lists_store (stored : storeInstance (newInstance id model.id a containerId) a db = some db')
    (other : InstanceId) (slot : Slot) :
    Instances.Lists db' other slot ↔
      (other = id ∧ slot.1 = a.nodeId ∧ slot.2 ∈ a.gpuIndices) ∨ Instances.Lists db other slot := by
  have fresh := Instances.store_fresh stored
  simp only [Instances.Lists, Instances.store_get stored]
  by_cases same : other = id
  · subst same
    simp only [if_pos, Option.some.injEq, exists_eq_left', Deployment.newInstance_lists, fresh, reduceCtorEq,
      false_and, exists_false, or_false, true_and]
  · simp only [same, if_false, false_and, false_or]

/-- A GPU that is granted is idle, so nobody has it. -/
theorem Borrowed.granted_unlisted (h : Borrowed start db) (granted : allocateForModel lower model db = .ok a)
    {slot : Slot} (inside : slot.1 = a.nodeId ∧ slot.2 ∈ a.gpuIndices) :
    ∀ other, ¬ Instances.Lists db other slot := by
  intro other listed
  obtain ⟨gpu, _, _, marked⟩ := h.out other slot listed
  exact Instances.granted_free granted inside ⟨_, marked, rfl⟩

theorem Borrowed.store (h : Borrowed start db) (granted : allocateForModel lower model db = .ok a)
    (stored : storeInstance (newInstance id model.id a containerId) a db = some db') : Borrowed start db' := by
  have wrote : ∀ slot : Slot, db'.gpus.get slot = (db.gpus.get slot).map fun gpu =>
      if slot.1 = a.nodeId ∧ slot.2 ∈ a.gpuIndices then gpu.withStatus .allocated else gpu :=
    fun slot => Deployment.stored_gpus stored slot.1 slot.2
  have kept : ∀ slot : Slot, ¬ (slot.1 = a.nodeId ∧ slot.2 ∈ a.gpuIndices) →
      db'.gpus.get slot = db.gpus.get slot := by
    intro slot outside
    rw [wrote]
    simp only [if_neg outside, Option.map_id']
  constructor
  case returned =>
    intro slot unlisted
    have outside : ¬ (slot.1 = a.nodeId ∧ slot.2 ∈ a.gpuIndices) := fun inside =>
      unlisted id ((lists_store stored id slot).mpr (.inl ⟨rfl, inside⟩))
    rw [kept slot outside]
    exact h.returned slot fun other listed => unlisted other ((lists_store stored other slot).mpr (.inr listed))
  case out =>
    intro other slot listed
    rcases (lists_store stored other slot).mp listed with ⟨_, inside⟩ | before
    · have free := h.granted_unlisted granted inside
      obtain ⟨node, index⟩ := slot
      obtain ⟨rfl, member⟩ := inside
      obtain ⟨gpu, found, idle⟩ := allocateForModel_idle granted member
      refine ⟨gpu, ?_, idle, ?_⟩
      · rw [← h.returned _ free]
        exact found
      · rw [wrote, found, Option.map_some, if_pos ⟨rfl, member⟩]
    · have outside : ¬ (slot.1 = a.nodeId ∧ slot.2 ∈ a.gpuIndices) := fun inside =>
        h.granted_unlisted granted inside other before
      rw [kept slot outside]
      exact h.out other slot before
  case once =>
    intro first second slot listed listed'
    rcases (lists_store stored first slot).mp listed with ⟨rfl, inside⟩ | before
    · rcases (lists_store stored second slot).mp listed' with ⟨rfl, _⟩ | before'
      · rfl
      · exact absurd before' (h.granted_unlisted granted inside second)
    · rcases (lists_store stored second slot).mp listed' with ⟨rfl, inside⟩ | before'
      · exact absurd before (h.granted_unlisted granted inside first)
      · exact h.once first second slot before before'

end

theorem Borrowed.release {start db : Database} (h : Borrowed start db) (id : InstanceId) :
    Borrowed start (releaseInstance id db) := by
  cases found : db.modelInstances.get id with
  | none =>
      rw [releaseInstance, found]
      exact h
  | some row =>
      obtain rfl : row.id = id := Table.key_of_get found
      obtain ⟨before, after, split⟩ := List.append_of_mem (Table.mem_of_get found)
      have gpus : ∀ slot : Slot, (releaseInstance row.id db).gpus.get slot = (db.gpus.get slot).map fun gpu =>
          if row.Lists slot.1 slot.2 then gpu.withStatus .idle else gpu :=
        fun slot => (releaseInstance_spec split).2.2.2 slot.1 slot.2
      have mine : ∀ slot : Slot, Instances.Lists db row.id slot ↔ row.Lists slot.1 slot.2 := by
        intro slot
        simp [Instances.Lists, found]
      have others : ∀ other slot, Instances.Lists (releaseInstance row.id db) other slot ↔
          other ≠ row.id ∧ Instances.Lists db other slot := by
        intro other slot
        simp only [Instances.Lists, Instances.release_get found]
        by_cases same : other = row.id
        · simp [same]
        · simp [same]
      have kept : ∀ slot : Slot, ¬ row.Lists slot.1 slot.2 →
          (releaseInstance row.id db).gpus.get slot = db.gpus.get slot := by
        intro slot unlisted
        rw [gpus]
        simp only [if_neg unlisted, Option.map_id']
      constructor
      case returned =>
        intro slot unlisted
        by_cases here : row.Lists slot.1 slot.2
        · -- the mark is taken back, and an idle row is its row from the start
          obtain ⟨gpu, was, idle, marked⟩ := h.out row.id slot ((mine slot).mpr here)
          rw [gpus, marked, Option.map_some, if_pos here, was, GpuDevice.withStatus_withStatus, ← idle,
            GpuDevice.withStatus_same]
        · rw [kept slot here]
          apply h.returned
          intro other listed
          by_cases same : other = row.id
          · exact here ((mine slot).mp (same ▸ listed))
          · exact unlisted other ((others other slot).mpr ⟨same, listed⟩)
      case out =>
        intro other slot listed
        obtain ⟨different, before⟩ := (others other slot).mp listed
        have unlisted : ¬ row.Lists slot.1 slot.2 := fun here =>
          different (h.once other row.id slot before ((mine slot).mpr here))
        rw [kept slot unlisted]
        exact h.out other slot before
      case once =>
        intro first second slot listed listed'
        exact h.once first second slot ((others first slot).mp listed).2 ((others second slot).mp listed').2

theorem borrowed_preserved (start : Database) : Preserved (Borrowed start) where
  mark _ _ _ h := h.congr rfl fun _ _ => Iff.rfl
  store _ _ _ _ _ _ _ h granted stored := h.store granted stored
  run id status db h := h.congr rfl (lists_markInstance id status db)
  release id _ h := h.release id

theorem borrowed_step (start : Database) (s : State) (op : Op) (h : Borrowed start s.db) :
    Borrowed start (exec op s).db := by
  cases op with
  | deploy env id => exact (borrowed_preserved start).deploy env id h
  | stop calls id => exact (borrowed_preserved start).stop calls id h
  | surroundings nodes models => exact h.congr rfl fun _ _ => Iff.rfl

/-- Whatever deployments and stops fail in a run: the GPUs that are out were idle, each of
    them is out to one instance, and every other row, of a busy GPU or a task's, is the row
    from the start. -/
theorem gpus_borrowed (s : State) (none : s.db.modelInstances.rows = []) (ops : List Op) :
    Borrowed s.db (Runs.run exec ops s).db := by
  have unlisted : ∀ id slot, ¬ Instances.Lists s.db id slot := by
    rintro id slot ⟨row, found, _⟩
    have inside := Table.mem_of_get found
    rw [none] at inside
    cases inside
  apply Runs.run_invariant (I := fun s' : State => Borrowed s.db s'.db) (borrowed_step s.db) ops
  exact ⟨fun _ _ => rfl, fun id slot listed => absurd listed (unlisted id slot),
    fun id _ slot listed => absurd listed (unlisted id slot)⟩

/-- A deployment that fails at its second replica, one that succeeds, and its stop. -/
theorem deployed_and_returned :
    Borrowed Deployment.Sample.state.db
      (Runs.run exec [.deploy (Deployment.Sample.env 1) "m", .deploy (Deployment.Sample.env 2) "m",
        .stop (fun _ => .served) "m"] Deployment.Sample.state).db :=
  gpus_borrowed Deployment.Sample.state rfl _

end SuitApi.Borrowing
