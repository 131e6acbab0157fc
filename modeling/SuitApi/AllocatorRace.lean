import SuitApi.ModelService
import SuitApi.Platform

/-! # Two allocators, one table

The scheduler reads idle GPU rows with `FOR UPDATE` and keeps them locked until
its transaction ends.  The backend reads them without a lock, some of them from
objects that its session loaded for an earlier replica, and locks the chosen rows
only when its `UPDATE` reaches them.  The steps below are the statements and
commits of the two, in any order the row locks allow.
-/

namespace SuitApi.AllocatorRace

abbrev Slot := NodeId × Int

/-- The transaction of `_schedule_one`, from its reading of a queued task. -/
structure Tx where
  task : Task
  /-- The nodes whose idle GPUs it has yet to read. -/
  toLock : List NodeId
  locked : List Slot := []
  allocation : Option Allocation := none

/-- The allocation of a replica and the rows its `UPDATE` has yet to reach. -/
structure Grant where
  allocation : ModelService.Allocation
  todo : List Slot

/-- The session of `deploy_model`; the deploy lock admits one at a time. -/
structure Session where
  model : Model
  /-- The GPU objects of the nodes that are still loaded. -/
  cache : NodeId → Option (List GpuDevice) := fun _ => none
  pending : Option Grant := none
  /-- The rows its transaction has updated, and so locked. -/
  written : List Slot := []
  created : List InstanceId := []
  failing : Bool := false

/-- The committed rows and the two open transactions. -/
structure State where
  db : Database
  tx : Option Tx := none
  session : Option Session := none

inductive Op where
  /-- `_schedule_one` reads its task. -/
  | begin (t : TaskId)
  /-- The next `SELECT ... FOR UPDATE`; a row that became idle while the statement
      waited is missed. -/
  | lock (missed : Slot → Bool)
  /-- The choice and the flush of `allocate`. -/
  | choose
  /-- The launch and the commit. -/
  | launch (env : Scheduler.Env)
  /-- An exception ends the scheduler's transaction. -/
  | abort
  | deploy (id : ModelId)
  /-- The queries and the choice of `_allocate_for_model`; `kept` tells which loaded
      nodes have not been collected since the last time. -/
  | read (lower : String → String) (kept : NodeId → Bool)
  /-- The `UPDATE` of the flush reaches a row. -/
  | flush (slot : Slot)
  /-- The agent has accepted; the instance and its GPUs are committed. -/
  | commit (id : InstanceId) (containerId : Option ContainerId)
  /-- An exception in the replica loop: rollback. -/
  | fail
  /-- The clean-up takes an instance back. -/
  | drop (id : InstanceId)
  | close

def idleSlots (db : Database) (node : NodeId) : List Slot :=
  (db.gpus.rows.filter fun gpu => gpu.nodeId = node && gpu.status = .idle).map (·.slot)

def Session.locks (session : Option Session) (slot : Slot) : Bool :=
  session.any fun session => session.written.contains slot

def Tx.locks (tx : Option Tx) (slot : Slot) : Bool := tx.any fun tx => tx.locked.contains slot

/-- The rows `allocate` has read: for a task without GPUs all of them, else those
    it has locked. -/
def Tx.rows (tx : Tx) (db : Database) : Database :=
  if GpuAllocator.requiredGpuCount tx.task ≤ 0 then db
  else { db with gpus := db.gpus.deleteWhere fun gpu => !tx.locked.contains gpu.slot }

/-- The GPUs of a node as the session shows them. -/
def Session.view (session : Session) (kept : NodeId → Bool) (db : Database) (node : NodeId) :
    List GpuDevice :=
  ((session.cache node).filter fun _ => kept node).getD (ModelService.gpusOf db node)

def markAllocated (a : ModelService.Allocation) (gpu : GpuDevice) : GpuDevice :=
  if gpu.nodeId = a.nodeId ∧ gpu.gpuIndex ∈ a.gpuIndices then gpu.withStatus .allocated else gpu

/-- The loaded objects after the queries and the choice. -/
def Session.loaded (session : Session) (kept : NodeId → Bool) (db : Database)
    (a : ModelService.Allocation) (node : NodeId) : Option (List GpuDevice) :=
  (if (ModelService.deploymentNodes db).any fun row => row.id = node then
      some (session.view kept db node)
    else (session.cache node).filter fun _ => kept node).map fun gpus => gpus.map (markAllocated a)

/-- The rollback expires every loaded object. -/
def Session.rolledBack (session : Session) : Session :=
  { model := session.model, created := session.created, failing := true }

def replicas (model : Model) : Nat := (max model.replicas 1).toNat

def exec : Op → State → State
  | .begin t, s =>
      match s.tx, s.db.tasks.get t with
      | none, some task =>
          if task.status = .queued then
            let toLock := if GpuAllocator.requiredGpuCount task ≤ 0 then []
              else (Scheduler.getOnlineNodes s.db).map (·.id)
            { s with tx := some { task, toLock } }
          else s
      | _, _ => s
  | .lock missed, s =>
      match s.tx with
      | some tx =>
          match tx.toLock with
          | node :: rest =>
              let idle := idleSlots s.db node
              if idle.any (Session.locks s.session) then s
              else
                { s with
                  tx := some { tx with toLock := rest, locked := tx.locked ++ idle.filter (!missed ·) } }
          | [] => s
      | none => s
  | .choose, s =>
      match s.tx with
      | some tx =>
          if tx.toLock = [] ∧ tx.allocation = none then
            { s with
              tx := (GpuAllocator.select (tx.rows s.db) tx.task (Scheduler.getOnlineNodes s.db)).map fun a =>
                { tx with allocation := some a } }
          else s
      | none => s
  | .launch env, s =>
      match s.tx with
      | some tx =>
          match tx.allocation with
          | some a =>
              { s with
                db := Scheduler.settle env s.db tx.task a
                  (ContainerManager.launch env.settings env.agent tx.task a)
                tx := none }
          | none => s
      | none => s
  | .abort, s => { s with tx := none }
  | .deploy id, s =>
      match s.session, ModelService.deployGuard id s.db with
      | none, .ok model =>
          { s with db := ModelService.markModel id "deploying" s.db, session := some { model } }
      | _, _ => s
  | .read lower kept, s =>
      match s.session with
      | some session =>
          if session.failing = false ∧ session.pending.isNone ∧
              session.created.length < replicas session.model then
            match ModelService.allocateFrom lower session.model s.db (session.view kept s.db) with
            | .ok a =>
                { s with
                  session := some { session with
                    cache := session.loaded kept s.db a
                    pending := some ⟨a, a.gpuIndices.map fun index => (a.nodeId, index)⟩ } }
            | .error _ => { s with session := some session.rolledBack }
          else s
      | none => s
  | .flush slot, s =>
      match s.session with
      | some session =>
          match session.pending with
          | some grant =>
              if slot ∈ grant.todo ∧ Tx.locks s.tx slot = false then
                { s with
                  session := some { session with
                    pending := some { grant with todo := grant.todo.erase slot }
                    written := session.written ++ [slot] } }
              else s
          | none => s
      | none => s
  | .commit id containerId, s =>
      match s.session with
      | some session =>
          match session.pending with
          | some grant =>
              if grant.todo = [] then
                match ModelService.storeInstance
                    (ModelService.newInstance id session.model.id grant.allocation containerId)
                    grant.allocation s.db with
                | some db =>
                    { s with
                      db
                      session := some { session with
                        pending := none
                        written := []
                        created := session.created ++ [id] } }
                | none => s
              else s
          | none => s
      | none => s
  | .fail, s => { s with session := s.session.map Session.rolledBack }
  | .drop id, s =>
      match s.session with
      | some session =>
          if session.failing = true ∧ id ∈ session.created then
            { s with
              db := ModelService.releaseInstance id s.db
              session := some { session with created := session.created.erase id } }
          else s
      | none => s
  | .close, s =>
      match s.session with
      | some session =>
          if session.failing = true ∧ session.created = [] then
            { s with db := ModelService.markModel session.model.id "error" s.db, session := none }
          else if session.failing = false ∧ session.pending.isNone ∧
              session.created.length = replicas session.model then
            { s with db := ModelService.markModel session.model.id "online" s.db, session := none }
          else s
      | none => s

/-! ## The property and its condition -/

def HeldByTask (db : Database) (slot : Slot) : Prop :=
  ∃ t task, db.tasks.get t = some task ∧ task.status = .running ∧ task.Lists slot.1 slot.2

def HeldByInstance (db : Database) (slot : Slot) : Prop :=
  ∃ row ∈ db.modelInstances.rows, row.Lists slot.1 slot.2

/-- No GPU is assigned to a running task and to a model instance. -/
def Apart (db : Database) : Prop := ∀ slot, HeldByTask db slot → ¬ HeldByInstance db slot

def Idle (db : Database) (slot : Slot) : Prop := ∃ gpu, db.gpus.get slot = some gpu ∧ gpu.status = .idle

/-- When an instance is committed, the GPUs chosen for it are still committed as
    idle. -/
def StillIdle (s : State) : Op → Prop
  | .commit id _ => ∀ session grant, s.session = some session → session.pending = some grant →
      grant.todo = [] → s.db.modelInstances.get id = none →
        ∀ index ∈ grant.allocation.gpuIndices, Idle s.db (grant.allocation.nodeId, index)
  | _ => True

/-! ## What the interleavings keep -/

/-- Nothing that is assigned is idle. -/
structure Consistent (db : Database) : Prop where
  apart : Apart db
  tasks : ∀ slot, HeldByTask db slot → ¬ Idle db slot
  instances : ∀ slot, HeldByInstance db slot → ¬ Idle db slot
  single : ∀ slot : Slot, ∀ row ∈ db.modelInstances.rows, ∀ other ∈ db.modelInstances.rows,
    row.Lists slot.1 slot.2 → other.Lists slot.1 slot.2 → row.id = other.id

/-- The open transaction of the scheduler: its task is still queued, and its locks
    keep the rows as it read them. -/
structure TxInv (s : State) (tx : Tx) : Prop where
  queued : s.db.tasks.get tx.task.id = some tx.task ∧ tx.task.status = .queued
  locked : ∀ slot ∈ tx.locked, Idle s.db slot ∧ Session.locks s.session slot = false
  granted : ∀ a, tx.allocation = some a →
    (∃ db nodes, GpuAllocator.Selected db nodes a) ∧ ∀ index ∈ a.gpuIndices, (a.nodeId, index) ∈ tx.locked

/-- The open session of the backend: what it takes for idle was idle when it was
    read, and only a launch has changed that. -/
structure SessionInv (s : State) (session : Session) : Prop where
  cached : ∀ node gpus gpu, session.cache node = some gpus → gpu ∈ gpus → gpu.nodeId = node ∧
    (gpu.status = .idle → Idle s.db gpu.slot ∨ HeldByTask s.db gpu.slot)
  pending : ∀ grant, session.pending = some grant → ∀ index ∈ grant.allocation.gpuIndices,
    (Idle s.db (grant.allocation.nodeId, index) ∨ HeldByTask s.db (grant.allocation.nodeId, index)) ∧
      ((grant.allocation.nodeId, index) ∈ grant.todo ∨
        (grant.allocation.nodeId, index) ∈ session.written)
  marked : ∀ grant, session.pending = some grant → ∀ node gpus gpu, session.cache node = some gpus →
    gpu ∈ gpus → gpu.status = .idle →
      ¬ (gpu.nodeId = grant.allocation.nodeId ∧ gpu.gpuIndex ∈ grant.allocation.gpuIndices)

structure Inv (s : State) : Prop where
  consistent : Consistent s.db
  tx : ∀ tx, s.tx = some tx → TxInv s tx
  session : ∀ session, s.session = some session → SessionInv s session

theorem mem_idleSlots {db : Database} {node : NodeId} {slot : Slot} :
    slot ∈ idleSlots db node → Idle db slot := by
  intro inside
  obtain ⟨gpu, member, rfl⟩ := List.mem_map.mp inside
  obtain ⟨row, idle⟩ := List.mem_filter.mp member
  rw [Bool.and_eq_true] at idle
  exact ⟨gpu, Table.get_of_mem row, of_decide_eq_true idle.2⟩

/-- The rows a transaction has read are rows of the database. -/
theorem Tx.rows_get {tx : Tx} {db : Database} {slot : Slot} {gpu : GpuDevice}
    (found : (tx.rows db).gpus.get slot = some gpu) : db.gpus.get slot = some gpu := by
  unfold Tx.rows at found
  split at found
  · exact found
  · rw [Table.get_deleteWhere, Option.filter_eq_some_iff] at found
    exact found.1

theorem select_locked {tx : Tx} {db : Database} {nodes : List Node} {a : Allocation}
    (chosen : GpuAllocator.select (tx.rows db) tx.task nodes = some a) :
    GpuAllocator.Selected db nodes a ∧ ∀ index ∈ a.gpuIndices, (a.nodeId, index) ∈ tx.locked := by
  have selected := GpuAllocator.select_spec chosen
  constructor
  · refine ⟨selected.node, selected.nodup, ?_⟩
    intro index inside
    obtain ⟨gpu, found, idle⟩ := selected.idle index inside
    exact ⟨gpu, Tx.rows_get found, idle⟩
  · intro index inside
    obtain ⟨gpu, found, _⟩ := selected.idle index inside
    unfold Tx.rows at found
    split at found
    · rename_i none
      -- A task without GPUs is given none.
      simp only [GpuAllocator.select, if_pos none] at chosen
      obtain ⟨node, _, rfl⟩ := Option.map_eq_some_iff.mp chosen
      cases inside
    · rw [Table.get_deleteWhere, Option.filter_eq_some_iff] at found
      have here := Table.key_of_get found.1
      simpa [here] using found.2

/-- The slots of an allocation. -/
def Covers (node : NodeId) (indices : List Int) (slot : Slot) : Prop := slot.1 = node ∧ slot.2 ∈ indices

theorem idle_allocated (db : Database) (node : NodeId) (indices : List Int) (slot : Slot) :
    Idle (ModelService.setGpus .allocated node indices db) slot ↔
      Idle db slot ∧ ¬ Covers node indices slot := by
  unfold Idle Covers
  rw [show slot = (slot.1, slot.2) from rfl, ModelService.setGpus_get]
  cases db.gpus.get (slot.1, slot.2) with
  | none => simp
  | some gpu =>
      by_cases inside : slot.1 = node ∧ slot.2 ∈ indices
      · simp [inside]
      · simp [inside]

/-- Releasing makes idle what it covers and leaves the rest. -/
theorem idle_released (db : Database) (node : NodeId) (indices : List Int) (slot : Slot) :
    (Idle (ModelService.setGpus .idle node indices db) slot → Idle db slot ∨ Covers node indices slot) ∧
      (Idle db slot → Idle (ModelService.setGpus .idle node indices db) slot) := by
  unfold Idle Covers
  rw [show slot = (slot.1, slot.2) from rfl, ModelService.setGpus_get]
  cases db.gpus.get (slot.1, slot.2) with
  | none => simp
  | some gpu =>
      by_cases inside : slot.1 = node ∧ slot.2 ∈ indices
      · simp [inside]
      · simp [inside]

/-! ## The scheduler's steps -/

theorem inv_begin {s : State} (t : TaskId) (inv : Inv s) : Inv (exec (.begin t) s) := by
  simp only [exec]
  split
  · rename_i task closed found
    split
    · rename_i queued
      refine ⟨inv.consistent, ?_, fun session here => ?_⟩
      · intro tx here
        cases here
        refine ⟨⟨?_, queued⟩, ?_, ?_⟩
        · rw [Table.key_of_get found]
          exact found
        · intro slot inside
          cases inside
        · intro a none
          cases none
      · obtain ⟨cached, pending, marked⟩ := inv.session session here
        exact ⟨cached, pending, marked⟩
    · exact inv
  · exact inv

theorem inv_lock {s : State} (missed : Slot → Bool) (inv : Inv s) : Inv (exec (.lock missed) s) := by
  simp only [exec]
  split
  · rename_i tx opened
    split
    · rename_i node rest _
      split
      · exact inv
      · rename_i free
        obtain ⟨queued, locked, granted⟩ := inv.tx tx opened
        refine ⟨inv.consistent, ?_, fun session here => ?_⟩
        · intro tx' here
          cases here
          refine ⟨queued, ?_, ?_⟩
          · intro slot inside
            rcases List.mem_append.mp inside with old | new
            · exact locked slot old
            · have idle := List.mem_of_mem_filter new
              refine ⟨mem_idleSlots idle, ?_⟩
              simp only [List.any_eq_true, not_exists, not_and, Bool.not_eq_true] at free
              exact free slot idle
          · intro a chosen
            obtain ⟨selected, inside⟩ := granted a chosen
            exact ⟨selected, fun index member => List.mem_append_left _ (inside index member)⟩
        · obtain ⟨cached, pending, marked⟩ := inv.session session here
          exact ⟨cached, pending, marked⟩
    · exact inv
  · exact inv

theorem inv_choose {s : State} (inv : Inv s) : Inv (exec .choose s) := by
  simp only [exec]
  split
  · rename_i tx opened
    split
    · obtain ⟨queued, locked, granted⟩ := inv.tx tx opened
      refine ⟨inv.consistent, ?_, fun session here => ?_⟩
      · intro tx' here
        obtain ⟨a, chosen, rfl⟩ := Option.map_eq_some_iff.mp here
        refine ⟨queued, locked, ?_⟩
        intro a' same
        cases same
        obtain ⟨selected, inside⟩ := select_locked chosen
        exact ⟨⟨_, _, selected⟩, inside⟩
      · obtain ⟨cached, pending, marked⟩ := inv.session session here
        exact ⟨cached, pending, marked⟩
    · exact inv
  · exact inv

/-- A failed launch leaves the assignments and the idle GPUs as they were; a
    successful one moves the allocation from these to those. -/
theorem settle_cases (env : Scheduler.Env) {db : Database} {nodes : List Node} {task : Task}
    {a : Allocation} (run : AgentRun) (found : db.tasks.get task.id = some task)
    (queued : task.status = .queued) (selected : GpuAllocator.Selected db nodes a) :
    (∀ slot, (HeldByTask (Scheduler.settle env db task a run) slot ↔ HeldByTask db slot) ∧
      (Idle (Scheduler.settle env db task a run) slot ↔ Idle db slot)) ∨
    ∀ slot, (HeldByTask (Scheduler.settle env db task a run) slot ↔
        HeldByTask db slot ∨ Covers a.nodeId a.gpuIndices slot) ∧
      (Idle (Scheduler.settle env db task a run) slot ↔
        Idle db slot ∧ ¬ Covers a.nodeId a.gpuIndices slot) := by
  have tasks := Scheduler.settle_tasks env db task a run
  have gpus := Scheduler.settle_gpus env task run selected
  -- The launched task held nothing before.
  have others : ∀ t row, db.tasks.get t = some row → row.status = .running → t ≠ task.id := by
    intro t row here running same
    rw [same, found] at here
    cases here
    rw [queued] at running
    cases running
  cases reply : Scheduler.accepted run with
  | error exc =>
      left
      intro slot
      simp only [reply] at tasks gpus
      refine ⟨⟨?_, ?_⟩, by simp only [Idle, gpus]⟩
      · rintro ⟨t, row, here, running, listed⟩
        rw [tasks] at here
        split at here
        · obtain ⟨old, _, rfl⟩ := Option.map_eq_some_iff.mp here
          cases running
        · exact ⟨t, row, here, running, listed⟩
      · rintro ⟨t, row, here, running, listed⟩
        refine ⟨t, row, ?_, running, listed⟩
        rw [tasks, if_neg (others t row here running)]
        exact here
  | ok result =>
      right
      intro slot
      simp only [reply] at tasks gpus
      refine ⟨⟨?_, ?_⟩, ?_⟩
      · rintro ⟨t, row, here, running, listed⟩
        rw [tasks] at here
        split at here
        · obtain ⟨old, _, rfl⟩ := Option.map_eq_some_iff.mp here
          exact .inr ⟨(Option.some.inj listed.1).symm, listed.2⟩
        · exact .inl ⟨t, row, here, running, listed⟩
      · rintro (⟨t, row, here, running, listed⟩ | ⟨node, inside⟩)
        · refine ⟨t, row, ?_, running, listed⟩
          rw [tasks, if_neg (others t row here running)]
          exact here
        · refine ⟨task.id, _, by rw [tasks, if_pos rfl, found, Option.map_some], rfl, ?_⟩
          exact ⟨by rw [node]; rfl, inside⟩
      · rw [← idle_allocated]
        simp only [Idle, gpus]
        exact Iff.rfl

/-- A launch on idle GPUs keeps the rows consistent. -/
theorem Consistent.launch {db db' : Database} {a : Allocation} (h : Consistent db)
    (instances : db'.modelInstances = db.modelInstances)
    (idle : ∀ slot, Covers a.nodeId a.gpuIndices slot → Idle db slot)
    (cases : (∀ slot, (HeldByTask db' slot ↔ HeldByTask db slot) ∧ (Idle db' slot ↔ Idle db slot)) ∨
      ∀ slot, (HeldByTask db' slot ↔ HeldByTask db slot ∨ Covers a.nodeId a.gpuIndices slot) ∧
        (Idle db' slot ↔ Idle db slot ∧ ¬ Covers a.nodeId a.gpuIndices slot)) : Consistent db' := by
  have served : ∀ slot, HeldByInstance db' slot ↔ HeldByInstance db slot := by
    intro slot
    simp only [HeldByInstance, instances]
  have single := h.single
  rw [← instances] at single
  rcases cases with same | moved
  · refine ⟨?_, ?_, ?_, single⟩
    · intro slot held
      rw [served]
      exact h.apart slot ((same slot).1.mp held)
    · intro slot held
      rw [(same slot).2]
      exact h.tasks slot ((same slot).1.mp held)
    · intro slot held
      rw [(same slot).2]
      exact h.instances slot ((served slot).mp held)
  · refine ⟨?_, ?_, ?_, single⟩
    · intro slot held serving
      rw [served] at serving
      rcases (moved slot).1.mp held with before | now
      · exact h.apart slot before serving
      · exact h.instances slot serving (idle slot now)
    · intro slot held
      rw [(moved slot).2]
      rintro ⟨free, outside⟩
      rcases (moved slot).1.mp held with before | now
      · exact h.tasks slot before free
      · exact outside now
    · intro slot serving
      rw [(moved slot).2]
      rintro ⟨free, _⟩
      exact h.instances slot ((served slot).mp serving) free

theorem inv_launch {s : State} (env : Scheduler.Env) (inv : Inv s) : Inv (exec (.launch env) s) := by
  simp only [exec]
  split
  · rename_i tx opened
    split
    · rename_i a chosen
      obtain ⟨⟨found, queued⟩, locked, granted⟩ := inv.tx tx opened
      obtain ⟨⟨_, nodes, old⟩, inside⟩ := granted a chosen
      have idle : ∀ slot, Covers a.nodeId a.gpuIndices slot → Idle s.db slot := by
        rintro ⟨node, index⟩ ⟨rfl, member⟩
        exact (locked _ (inside index member)).1
      have selected : GpuAllocator.Selected s.db nodes a :=
        ⟨old.node, old.nodup, fun index member => idle (a.nodeId, index) ⟨rfl, member⟩⟩
      have instances := (Scheduler.settle_frame env s.db tx.task a
        (ContainerManager.launch env.settings env.agent tx.task a)).2.2
      have cases := settle_cases env (ContainerManager.launch env.settings env.agent tx.task a) found queued
        selected
      generalize Scheduler.settle env s.db tx.task a
        (ContainerManager.launch env.settings env.agent tx.task a) = db' at instances cases
      refine ⟨inv.consistent.launch instances idle cases, ?_, fun session here => ?_⟩
      · intro tx none
        cases none
      · -- What the session takes for idle is idle or has just been launched on.
        have kept : ∀ slot, Idle s.db slot ∨ HeldByTask s.db slot → Idle db' slot ∨ HeldByTask db' slot := by
          intro slot before
          rcases cases with same | moved
          · rw [(same slot).1, (same slot).2]
            exact before
          · rw [(moved slot).1, (moved slot).2]
            rcases before with free | held
            · by_cases covered : Covers a.nodeId a.gpuIndices slot
              · exact .inr (.inr covered)
              · exact .inl ⟨free, covered⟩
            · exact .inr (.inl held)
        obtain ⟨cached, pending, marked⟩ := inv.session session here
        refine ⟨?_, ?_, marked⟩
        · intro node gpus gpu loaded member
          obtain ⟨own, shown⟩ := cached node gpus gpu loaded member
          exact ⟨own, fun free => kept _ (shown free)⟩
        · intro grant waiting index member
          obtain ⟨shown, reached⟩ := pending grant waiting index member
          exact ⟨kept _ shown, reached⟩
    · exact inv
  · exact inv

/-! ## The backend's steps -/

/-- A step of the backend that adds no lock keeps the scheduler's side. -/
theorem TxInv.unlock {s s' : State} {tx : Tx} (inv : TxInv s tx) (tasks : s'.db.tasks = s.db.tasks)
    (idle : ∀ slot ∈ tx.locked, Idle s.db slot → Idle s'.db slot)
    (locks : ∀ slot, Session.locks s.session slot = false → Session.locks s'.session slot = false) :
    TxInv s' tx := by
  refine ⟨?_, ?_, inv.granted⟩
  · rw [tasks]
    exact inv.queued
  · intro slot inside
    obtain ⟨free, unlocked⟩ := inv.locked slot inside
    exact ⟨idle slot inside free, locks slot unlocked⟩

theorem inv_deploy {s : State} (id : ModelId) (inv : Inv s) : Inv (exec (.deploy id) s) := by
  simp only [exec]
  split
  · rename_i model closed _
    refine ⟨⟨inv.consistent.apart, inv.consistent.tasks, inv.consistent.instances, inv.consistent.single⟩,
      ?_, ?_⟩
    · intro tx opened
      exact (inv.tx tx opened).unlock rfl (fun _ _ free => free) fun _ _ => rfl
    · intro session here
      cases here
      refine ⟨?_, ?_, ?_⟩
      · intro node gpus gpu none
        cases none
      · intro grant none
        cases none
      · intro grant none
        cases none
  · exact inv

/-- What a session shows as idle was idle when it was read. -/
theorem view_idle {s : State} {session : Session} (inv : SessionInv s session) (kept : NodeId → Bool)
    {node : NodeId} {gpu : GpuDevice} (shown : gpu ∈ session.view kept s.db node) :
    gpu.nodeId = node ∧ (gpu.status = .idle → Idle s.db gpu.slot ∨ HeldByTask s.db gpu.slot) := by
  unfold Session.view at shown
  cases loaded : (session.cache node).filter fun _ => kept node with
  | some gpus =>
      rw [loaded, Option.getD_some] at shown
      exact inv.cached node gpus gpu (Option.filter_eq_some_iff.mp loaded).1 shown
  | none =>
      rw [loaded, Option.getD_none, ModelService.mem_gpusOf] at shown
      exact ⟨shown.2, fun free => .inl ⟨gpu, Table.get_of_mem shown.1, free⟩⟩

/-- A loaded GPU that is still shown as idle was shown so before and is not chosen. -/
theorem loaded_idle {s : State} {session : Session} (inv : SessionInv s session) {kept : NodeId → Bool}
    {a : ModelService.Allocation} {node : NodeId} {gpus : List GpuDevice} {gpu : GpuDevice}
    (loaded : session.loaded kept s.db a node = some gpus) (member : gpu ∈ gpus) :
    gpu.nodeId = node ∧ (gpu.status = .idle → (Idle s.db gpu.slot ∨ HeldByTask s.db gpu.slot) ∧
      ¬ (gpu.nodeId = a.nodeId ∧ gpu.gpuIndex ∈ a.gpuIndices)) := by
  obtain ⟨before, source, rfl⟩ := Option.map_eq_some_iff.mp loaded
  obtain ⟨old, inside, rfl⟩ := List.mem_map.mp member
  have known : old.nodeId = node ∧
      (old.status = .idle → Idle s.db old.slot ∨ HeldByTask s.db old.slot) := by
    split at source
    · cases source
      exact view_idle inv kept inside
    · exact inv.cached node before old (Option.filter_eq_some_iff.mp source).1 inside
  unfold markAllocated
  split
  · refine ⟨known.1, ?_⟩
    rintro ⟨⟩
  · rename_i outside
    exact ⟨known.1, fun free => ⟨known.2 free, outside⟩⟩

theorem rolledBack_inv (s : State) (session : Session) :
    SessionInv s session.rolledBack := by
  refine ⟨?_, ?_, ?_⟩
  · intro node gpus gpu none
    cases none
  · intro grant none
    cases none
  · intro grant none
    cases none

theorem inv_fail {s : State} (inv : Inv s) : Inv (exec .fail s) := by
  refine ⟨inv.consistent, ?_, ?_⟩
  · intro tx opened
    refine (inv.tx tx opened).unlock rfl (fun _ _ free => free) ?_
    intro slot _
    simp only [exec]
    cases s.session <;> rfl
  · intro session here
    obtain ⟨old, _, rfl⟩ := Option.map_eq_some_iff.mp here
    exact rolledBack_inv _ old

theorem inv_read {s : State} (lower : String → String) (kept : NodeId → Bool) (inv : Inv s) :
    Inv (exec (.read lower kept) s) := by
  simp only [exec]
  split
  · rename_i session opened
    have mine := inv.session session opened
    split
    · split
      · rename_i a granted
        refine ⟨inv.consistent, ?_, ?_⟩
        · intro tx opened'
          refine (inv.tx tx opened').unlock rfl (fun _ _ free => free) ?_
          intro slot unlocked
          rw [opened] at unlocked
          exact unlocked
        · intro session' here
          cases here
          refine ⟨?_, ?_, ?_⟩
          · intro node gpus gpu loaded member
            obtain ⟨own, shown⟩ := loaded_idle mine loaded member
            exact ⟨own, fun free => (shown free).1⟩
          · intro grant waiting index inside
            cases waiting
            obtain ⟨gpu, shown, rfl, free⟩ := ModelService.allocateFrom_spec granted index inside
            obtain ⟨own, before⟩ := view_idle mine kept shown
            refine ⟨?_, .inl (List.mem_map.mpr ⟨gpu.gpuIndex, inside, rfl⟩)⟩
            rw [← own]
            exact before free
          · intro grant waiting node gpus gpu loaded member free
            cases waiting
            exact ((loaded_idle mine loaded member).2 free).2
      · refine ⟨inv.consistent, ?_, ?_⟩
        · intro tx opened'
          exact (inv.tx tx opened').unlock rfl (fun _ _ free => free) fun _ _ => rfl
        · intro session' here
          cases here
          exact rolledBack_inv _ session
    · exact inv
  · exact inv

theorem inv_flush {s : State} (slot : Slot) (inv : Inv s) : Inv (exec (.flush slot) s) := by
  simp only [exec]
  split
  · rename_i session opened
    split
    · rename_i grant waiting
      split
      · rename_i reached
        obtain ⟨cached, pending, marked⟩ := inv.session session opened
        refine ⟨inv.consistent, ?_, ?_⟩
        · intro tx opened'
          refine ⟨(inv.tx tx opened').queued, ?_, (inv.tx tx opened').granted⟩
          intro other inside
          obtain ⟨free, unlocked⟩ := (inv.tx tx opened').locked other inside
          refine ⟨free, ?_⟩
          -- The row that was reached was not locked by the scheduler.
          have apart : other ≠ slot := by
            rintro rfl
            have taken := reached.2
            rw [opened', Tx.locks, Option.any_some, List.contains_eq_mem, decide_eq_false_iff_not] at taken
            exact taken inside
          rw [opened] at unlocked
          simpa [Session.locks, apart] using unlocked
        · intro session' here
          cases here
          refine ⟨cached, ?_, ?_⟩
          · intro grant' same index inside
            cases same
            obtain ⟨shown, place⟩ := pending grant waiting index inside
            refine ⟨shown, ?_⟩
            by_cases mine : (grant.allocation.nodeId, index) = slot
            · right
              rw [mine]
              exact List.mem_append_right _ (List.mem_singleton_self _)
            · rcases place with todo | written
              · exact .inl ((List.mem_erase_of_ne mine).mpr todo)
              · exact .inr (List.mem_append_left _ written)
          · intro grant' same
            cases same
            exact marked grant waiting
      · exact inv
    · exact inv
  · exact inv

/-- A stored instance takes its GPUs out of the idle ones and nothing from a task. -/
theorem stored_rows {row : ModelInstance} {a : ModelService.Allocation} {db db' : Database}
    (stored : ModelService.storeInstance row a db = some db') (slot : Slot) :
    (Idle db' slot ↔ Idle db slot ∧ ¬ Covers a.nodeId a.gpuIndices slot) ∧
      (HeldByTask db' slot ↔ HeldByTask db slot) := by
  obtain ⟨gpus, tasks, _⟩ := ModelService.storeInstance_spec stored
  constructor
  · rw [← idle_allocated, Idle, gpus]
    exact Iff.rfl
  · simp only [HeldByTask, tasks]

/-- An instance on idle GPUs keeps the rows consistent. -/
theorem Consistent.store {db db' : Database} (h : Consistent db) {id : InstanceId} {model : ModelId}
    {a : ModelService.Allocation} {containerId : Option ContainerId}
    (stored : ModelService.storeInstance (ModelService.newInstance id model a containerId) a db = some db')
    (idle : ∀ slot, Covers a.nodeId a.gpuIndices slot → Idle db slot) : Consistent db' := by
  obtain ⟨_, _, rows⟩ := ModelService.storeInstance_spec stored
  have moved := stored_rows stored
  have served : ∀ slot, HeldByInstance db' slot → HeldByInstance db slot ∨
      Covers a.nodeId a.gpuIndices slot := by
    rintro slot ⟨row, inside, listed⟩
    rw [rows] at inside
    rcases List.mem_append.mp inside with old | new
    · exact .inl ⟨row, old, listed⟩
    · rw [List.mem_singleton] at new
      subst new
      exact .inr ⟨listed.1.symm, listed.2⟩
  refine ⟨?_, ?_, ?_, ?_⟩
  · intro slot taken serving
    rw [(moved slot).2] at taken
    rcases served slot serving with old | new
    · exact h.apart slot taken old
    · exact h.tasks slot taken (idle slot new)
  · intro slot taken
    rw [(moved slot).1]
    rintro ⟨before, _⟩
    exact h.tasks slot ((moved slot).2.mp taken) before
  · intro slot serving
    rw [(moved slot).1]
    rintro ⟨before, outside⟩
    rcases served slot serving with old | new
    · exact h.instances slot old before
    · exact outside new
  · intro slot row inside other inside' listed listed'
    rw [rows] at inside inside'
    have separate : ∀ old ∈ db.modelInstances.rows, old.Lists slot.1 slot.2 →
        ¬ Covers a.nodeId a.gpuIndices slot :=
      fun old present lists now => h.instances slot ⟨old, present, lists⟩ (idle slot now)
    rcases List.mem_append.mp inside with old | new <;> rcases List.mem_append.mp inside' with old' | new'
    · exact h.single slot row old other old' listed listed'
    · rw [List.mem_singleton] at new'
      subst new'
      exact absurd ⟨listed'.1.symm, listed'.2⟩ (separate row old listed)
    · rw [List.mem_singleton] at new
      subst new
      exact absurd ⟨listed.1.symm, listed.2⟩ (separate other old' listed')
    · rw [List.mem_singleton] at new new'
      rw [new, new']

theorem inv_commit {s : State} (id : InstanceId) (containerId : Option ContainerId) (inv : Inv s)
    (still : StillIdle s (.commit id containerId)) : Inv (exec (.commit id containerId) s) := by
  simp only [exec]
  split
  · rename_i session opened
    split
    · rename_i grant waiting
      split
      · rename_i all
        split
        · rename_i db stored
          have fresh : s.db.modelInstances.get id = none := by
            obtain ⟨_, inserted, _⟩ := Option.map_eq_some_iff.mp stored
            exact Table.insert?_fresh inserted
          have free := still session grant opened waiting all fresh
          have moved := stored_rows stored
          obtain ⟨cached, pending, marked⟩ := inv.session session opened
          refine ⟨?_, ?_, ?_⟩
          · apply inv.consistent.store stored
            rintro ⟨node, index⟩ ⟨rfl, inside⟩
            exact free index inside
          · intro tx opened'
            refine (inv.tx tx opened').unlock (ModelService.storeInstance_spec stored).2.1 ?_ fun _ _ => rfl
            intro slot inside before
            rw [(moved slot).1]
            refine ⟨before, ?_⟩
            -- All rows of the grant have been updated, so none of them is locked.
            intro now
            obtain ⟨_, place⟩ := pending grant waiting slot.2 now.2
            rw [← now.1, all] at place
            have unlocked := ((inv.tx tx opened').locked slot inside).2
            rw [opened, Session.locks, Option.any_some, List.contains_eq_mem, decide_eq_false_iff_not]
              at unlocked
            rcases place with none | written
            · cases none
            · exact unlocked written
          · intro session' here
            cases here
            refine ⟨?_, ?_, ?_⟩
            · intro node gpus gpu loaded member
              obtain ⟨own, shown⟩ := cached node gpus gpu loaded member
              refine ⟨own, ?_⟩
              intro unchanged
              rw [(moved gpu.slot).1, (moved gpu.slot).2]
              rcases shown unchanged with before | taken
              · exact .inl ⟨before, marked grant waiting node gpus gpu loaded member unchanged⟩
              · exact .inr taken
            · intro grant' none
              cases none
            · intro grant' none
              cases none
        · exact inv
      · exact inv
    · exact inv
  · exact inv

/-- Releasing an instance makes idle what it listed, and nothing that is listed by
    another or by a task. -/
theorem released_rows (id : InstanceId) (db : Database) (slot : Slot) :
    (Idle db slot → Idle (ModelService.releaseInstance id db) slot) ∧
      (Idle (ModelService.releaseInstance id db) slot → Idle db slot ∨
        ∃ row, db.modelInstances.get id = some row ∧ row.Lists slot.1 slot.2) ∧
      (HeldByTask (ModelService.releaseInstance id db) slot ↔ HeldByTask db slot) := by
  unfold ModelService.releaseInstance
  split
  · exact ⟨fun free => free, .inl, Iff.rfl⟩
  · rename_i row found
    obtain ⟨freed, kept⟩ := idle_released db row.nodeId (row.assignedGpuIndices.getD []) slot
    refine ⟨kept, ?_, Iff.rfl⟩
    intro idle
    exact (freed idle).imp_right fun covered => ⟨row, found, covered.1.symm, covered.2⟩

theorem released_instances (id : InstanceId) (db : Database) :
    ∀ row ∈ (ModelService.releaseInstance id db).modelInstances.rows,
      row ∈ db.modelInstances.rows ∧ row.id ≠ id := by
  intro row inside
  unfold ModelService.releaseInstance at inside
  split at inside
  · rename_i none
    exact ⟨inside, Table.get_eq_none.mp none row inside⟩
  · obtain ⟨old, other⟩ := List.mem_filter.mp inside
    exact ⟨old, by simpa using other⟩

theorem Consistent.release {db : Database} (h : Consistent db) (id : InstanceId) :
    Consistent (ModelService.releaseInstance id db) := by
  have rows := released_rows id db
  have instances := released_instances id db
  refine ⟨?_, ?_, ?_, ?_⟩
  · rintro slot held ⟨row, inside, listed⟩
    exact h.apart slot ((rows slot).2.2.mp held) ⟨row, (instances row inside).1, listed⟩
  · intro slot held idle
    rw [(rows slot).2.2] at held
    rcases (rows slot).2.1 idle with before | ⟨row, found, listed⟩
    · exact h.tasks slot held before
    · exact h.apart slot held ⟨row, Table.mem_of_get found, listed⟩
  · rintro slot ⟨row, inside, listed⟩ idle
    obtain ⟨old, other⟩ := instances row inside
    rcases (rows slot).2.1 idle with before | ⟨gone, found, listed'⟩
    · exact h.instances slot ⟨row, old, listed⟩ before
    · have same := h.single slot gone (Table.mem_of_get found) row old listed' listed
      exact other (same.symm.trans (Table.key_of_get found))
  · intro slot first inside second inside' listed listed'
    exact h.single slot first (instances first inside).1 second (instances second inside').1 listed listed'

theorem inv_drop {s : State} (id : InstanceId) (inv : Inv s) : Inv (exec (.drop id) s) := by
  simp only [exec]
  split
  · rename_i session opened
    split
    · have rows := released_rows id s.db
      have tasks : (ModelService.releaseInstance id s.db).tasks = s.db.tasks := by
        unfold ModelService.releaseInstance
        split <;> rfl
      have shown_kept : ∀ slot, Idle s.db slot ∨ HeldByTask s.db slot →
          Idle (ModelService.releaseInstance id s.db) slot ∨
            HeldByTask (ModelService.releaseInstance id s.db) slot :=
        fun slot shown => shown.imp (rows slot).1 (rows slot).2.2.mpr
      refine ⟨inv.consistent.release id, ?_, ?_⟩
      · intro tx opened'
        refine (inv.tx tx opened').unlock tasks (fun slot _ => (rows slot).1) ?_
        intro slot unlocked
        rw [opened] at unlocked
        exact unlocked
      · intro session' here
        cases here
        obtain ⟨cached, pending, marked⟩ := inv.session session opened
        refine ⟨?_, ?_, marked⟩
        · intro node gpus gpu loaded member
          obtain ⟨own, shown⟩ := cached node gpus gpu loaded member
          exact ⟨own, fun unchanged => shown_kept _ (shown unchanged)⟩
        · intro grant waiting index inside
          obtain ⟨shown, place⟩ := pending grant waiting index inside
          exact ⟨shown_kept _ shown, place⟩
    · exact inv
  · exact inv

theorem inv_close {s : State} (inv : Inv s) : Inv (exec .close s) := by
  simp only [exec]
  have closed : ∀ (id : ModelId) (status : String),
      Inv { s with db := ModelService.markModel id status s.db, session := none } := by
    intro id status
    refine ⟨⟨inv.consistent.apart, inv.consistent.tasks, inv.consistent.instances, inv.consistent.single⟩,
      ?_, ?_⟩
    · intro tx opened
      exact (inv.tx tx opened).unlock rfl (fun _ _ free => free) fun _ _ => rfl
    · intro session none
      cases none
  split
  · split
    · exact closed _ _
    · split
      · exact closed _ _
      · exact inv
  · exact inv

/-! ## Runs -/

theorem inv_step {s : State} (op : Op) (inv : Inv s) (still : StillIdle s op) : Inv (exec op s) := by
  cases op with
  | begin t => exact inv_begin t inv
  | lock missed => exact inv_lock missed inv
  | choose => exact inv_choose inv
  | launch env => exact inv_launch env inv
  | abort =>
      refine ⟨inv.consistent, ?_, fun session here => ?_⟩
      · intro tx none
        cases none
      · obtain ⟨cached, pending, marked⟩ := inv.session session here
        exact ⟨cached, pending, marked⟩
  | deploy id => exact inv_deploy id inv
  | read lower kept => exact inv_read lower kept inv
  | flush slot => exact inv_flush slot inv
  | commit id containerId => exact inv_commit id containerId inv still
  | fail => exact inv_fail inv
  | drop id => exact inv_drop id inv
  | close => exact inv_close inv

/-- A GPU that has ceased to be idle since it was read has been launched on, so
    committing it is a double assignment. -/
theorem apart_iff {s : State} (op : Op) (inv : Inv s) : Apart (exec op s).db ↔ StillIdle s op := by
  constructor
  · intro apart
    cases op with
    | commit id containerId =>
        intro session grant opened waiting all fresh index inside
        obtain ⟨shown, _⟩ := (inv.session session opened).pending grant waiting index inside
        rcases shown with free | held
        · exact free
        · obtain ⟨db, stored⟩ := ModelService.storeInstance_isSome
            (ModelService.newInstance id session.model.id grant.allocation containerId) grant.allocation fresh
          obtain ⟨_, tasks, rows⟩ := ModelService.storeInstance_spec stored
          simp only [exec, opened, waiting, all, if_true, stored] at apart
          have still : HeldByTask db (grant.allocation.nodeId, index) := by
            simp only [HeldByTask, tasks]
            exact held
          have serving : HeldByInstance db (grant.allocation.nodeId, index) := by
            refine ⟨ModelService.newInstance id session.model.id grant.allocation containerId, ?_, rfl, inside⟩
            rw [rows]
            exact List.mem_append_right _ (List.mem_singleton_self _)
          exact absurd serving (apart _ still)
    | _ => trivial
  · intro still
    exact (inv_step op inv still).consistent.apart

/-- In a run that starts with consistent rows and no open transaction no GPU is ever
    assigned to a running task and to a model instance, if and only if every instance
    that is committed gets GPUs that are still idle. -/
theorem no_double_grant_iff (db : Database) (start : Consistent db) (ops : List Op) :
    Runs.Along exec (fun s op => Apart (exec op s).db) ops { db } ↔
      Runs.Along exec StillIdle ops { db } := by
  apply Runs.along_congr (I := Inv)
  · intro s op inv apart
    exact inv_step op inv ((apart_iff op inv).mp apart)
  · intro s op inv
    exact apart_iff op inv
  · refine ⟨start, ?_, ?_⟩
    · intro tx none
      cases none
    · intro session none
      cases none

/-! ## One GPU, one task and one model -/

/-- One online node with one idle GPU, a queued task and a model. -/
def sample : Database where
  nodes := .singleton { id := "n1", ip := "10.0.0.1", status := .online }
  gpus := .singleton { id := "g0", nodeId := "n1", gpuIndex := 0 }
  tasks := .singleton { id := "t", userId := "u", status := .queued, containerImage := some "image" }
  models := .singleton
    { id := "m", name := "llm", containerImage := some "image", launchCommand := some "serve" }

theorem sample_consistent : Consistent sample := by
  have unheld : ∀ slot, ¬ HeldByTask sample slot := by
    rintro slot ⟨t, task, found, running, _⟩
    have inside := List.mem_singleton.mp (Table.mem_of_get found)
    subst inside
    cases running
  refine ⟨fun slot held => absurd held (unheld slot), fun slot held => absurd held (unheld slot), ?_, ?_⟩
  · rintro slot ⟨row, inside, _⟩
    cases inside
  · rintro slot row inside
    cases inside

def deploy : List Op := [.deploy "m", .read id fun _ => true]

def launch : List Op :=
  [.begin "t", .lock fun _ => false, .choose, .launch (Platform.Sample.env "c" 1)]

def finish : List Op := [.flush ("n1", 0), .commit "i" (some "d")]

/-- The task finds the GPU of the model allocated. -/
theorem launch_after_deploy :
    Runs.Along exec (fun s op => Apart (exec op s).db) (deploy ++ finish ++ launch) { db := sample } := by
  apply (no_double_grant_iff sample sample_consistent _).mpr
  refine ⟨trivial, trivial, trivial, ?_, trivial, trivial, trivial, trivial, trivial⟩
  intro session grant opened waiting _ _ index inside
  cases opened
  cases waiting
  rw [List.mem_singleton.mp inside]
  exact ⟨_, rfl, rfl⟩

/-- The launch commits between the plain `SELECT` and the `UPDATE`. -/
theorem launch_inside_deploy : ¬ ∀ (db : Database), Consistent db → ∀ ops : List Op,
    Runs.Along exec (fun s op => Apart (exec op s).db) ops { db } := by
  intro all
  have apart := (all sample sample_consistent
    (deploy ++ launch ++ [.flush ("n1", 0)] ++ .commit "i" (some "d") :: [])).here ("n1", 0)
  refine apart ⟨"t", _, rfl, rfl, rfl, ?_⟩ ⟨_, List.mem_singleton_self _, rfl, ?_⟩
  · exact List.mem_singleton_self _
  · exact List.mem_singleton_self _

/-- Two replicas on a node with two GPUs: the second is chosen from the objects that
    were loaded for the first. -/
example : ¬ Apart (Runs.run exec
    (deploy ++ finish ++ launch ++ [.read id fun _ => true, .flush ("n1", 1), .commit "j" (some "e")])
    { db := { sample with
      gpus := ⟨[{ id := "g0", nodeId := "n1", gpuIndex := 0 }, { id := "g1", nodeId := "n1", gpuIndex := 1 }],
        by decide⟩
      models := .singleton { id := "m", name := "llm", containerImage := some "image"
                             launchCommand := some "serve", replicas := 2 } } }).db := by
  intro apart
  refine apart ("n1", 1) ⟨"t", _, rfl, rfl, rfl, ?_⟩
    ⟨_, List.mem_cons_of_mem _ (List.mem_singleton_self _), rfl, ?_⟩
  · exact List.mem_singleton_self _
  · exact List.mem_singleton_self _

end SuitApi.AllocatorRace
