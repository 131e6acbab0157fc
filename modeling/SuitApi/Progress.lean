import SuitApi.Bookkeeping
import SuitApi.Quiescence

/-! # Every task gets its turn

A task that no node has room for blocks the line behind it, but not for ever: while the
running tasks come to an end and their notifications are handled, the first in line gets
the whole cluster, and whatever fits on that at all is launched.
-/

namespace SuitApi.Progress

open Bookkeeping (Booked Allocated)
open Quiescence (turn weight Submitted)

/-! ## The cluster without its tasks -/

def restedGpu (gpu : GpuDevice) : GpuDevice :=
  if gpu.status = .allocated then gpu.withStatus .idle else gpu

/-- The database with all allocated GPUs given back. -/
def rested (db : Database) : Database :=
  { db with
    gpus := db.gpus.updateWhere (fun gpu => gpu.status = .allocated) (GpuDevice.withStatus .idle)
      (GpuDevice.withStatus_slot .idle) }

/-- The task fits on the cluster when nothing else runs there. -/
def Fits (db : Database) (task : Task) : Prop :=
  (GpuAllocator.select (rested db) task (Scheduler.getOnlineNodes db)).isSome = true

/-- The same nodes and GPUs, whoever has the GPUs now. -/
structure SameCluster (db db' : Database) : Prop where
  nodes : db'.nodes = db.nodes
  slots : db'.gpus.rows.map GpuDevice.slot = db.gpus.rows.map GpuDevice.slot
  gpus : ∀ slot, (db'.gpus.get slot).map restedGpu = (db.gpus.get slot).map restedGpu

theorem rested_get (db : Database) (slot : NodeId × Int) :
    (rested db).gpus.get slot = (db.gpus.get slot).map restedGpu := by
  refine (Table.get_updateWhere _ _ _ (GpuDevice.withStatus_slot .idle) slot).trans ?_
  simp only [decide_eq_true_eq]
  rfl

theorem rested_slots (db : Database) : (rested db).gpus.rows.map GpuDevice.slot = db.gpus.rows.map GpuDevice.slot :=
  Table.map_updateWhere _ _ _ (GpuDevice.withStatus_slot .idle) _ fun gpu _ _ => GpuDevice.withStatus_slot .idle gpu

theorem SameCluster.refl (db : Database) : SameCluster db db := ⟨rfl, rfl, fun _ => rfl⟩

theorem SameCluster.trans {first second third : Database} (h : SameCluster first second)
    (h' : SameCluster second third) : SameCluster first third :=
  ⟨h'.nodes.trans h.nodes, h'.slots.trans h.slots, fun slot => (h'.gpus slot).trans (h.gpus slot)⟩

theorem SameCluster.of_eq {db db' : Database} (nodes : db'.nodes = db.nodes) (gpus : db'.gpus = db.gpus) :
    SameCluster db db' := ⟨nodes, by rw [gpus], fun _ => by rw [gpus]⟩

theorem SameCluster.rested {db db' : Database} (h : SameCluster db db') : (rested db').gpus = (rested db).gpus := by
  apply Table.ext_get
  · rw [rested_slots, rested_slots, h.slots]
  · intro slot
    rw [rested_get, rested_get, h.gpus]

/-- The decision reads the GPU rows only. -/
theorem select_congr {db db' : Database} (gpus : db'.gpus = db.gpus) (task : Task) (nodes : List Node) :
    GpuAllocator.select db' task nodes = GpuAllocator.select db task nodes := by
  simp only [GpuAllocator.select, GpuAllocator.selectNodeForCpuTask, GpuAllocator.candidates,
    GpuAllocator.filteredGpus, GpuAllocator.availableGpus, gpus]

theorem SameCluster.fits {db db' : Database} (h : SameCluster db db') {task : Task} (fits : Fits db task) :
    Fits db' task := by
  unfold Fits Scheduler.getOnlineNodes
  rw [select_congr h.rested, h.nodes]
  exact fits

/-- Where no GPU is allocated, a task that fits finds its room. -/
theorem Fits.room {db : Database} {task : Task} (fits : Fits db task) (idle : ∀ slot, ¬ Allocated db slot) :
    GpuAllocator.select db task (Scheduler.getOnlineNodes db) ≠ none := by
  have same : (rested db).gpus = db.gpus := by
    apply Table.updateWhere_same (GpuDevice.withStatus_slot .idle)
    intro gpu inside allocated
    exact absurd ⟨gpu, Table.get_of_mem inside, of_decide_eq_true allocated⟩ (idle gpu.slot)
  rw [Fits, select_congr same] at fits
  exact Option.isSome_iff_ne_none.mp fits

/-! ## What the scheduler does to the cluster -/

theorem mark_slots (db : Database) (a : Allocation) (status : GpuStatus) :
    (GpuAllocator.mark db a status).gpus.rows.map GpuDevice.slot = db.gpus.rows.map GpuDevice.slot :=
  Table.map_updateWhere _ _ _ (GpuDevice.withStatus_slot status) _ fun gpu _ _ => GpuDevice.withStatus_slot status gpu

theorem release_slots (db : Database) (a : Allocation) :
    (GpuAllocator.release db a).gpus.rows.map GpuDevice.slot = db.gpus.rows.map GpuDevice.slot := by
  unfold GpuAllocator.release
  split
  · rfl
  · exact mark_slots db a .idle

theorem releaseByTask_slots (db : Database) (t : TaskId) :
    (GpuAllocator.releaseByTask db t).gpus.rows.map GpuDevice.slot = db.gpus.rows.map GpuDevice.slot := by
  unfold GpuAllocator.releaseByTask
  split
  · rfl
  · split
    · rfl
    · split
      · rfl
      · exact release_slots db _

theorem settle_slots (env : Scheduler.Env) (db : Database) (task : Task) (a : Allocation) (run : AgentRun) :
    (Scheduler.settle env db task a run).gpus.rows.map GpuDevice.slot = db.gpus.rows.map GpuDevice.slot := by
  unfold Scheduler.settle
  cases Scheduler.accepted run with
  | ok reply => exact mark_slots db a .allocated
  | error exc => exact (release_slots _ a).trans (mark_slots db a .allocated)

/-- A launch takes idle GPUs. -/
theorem schedule_cluster (env : Scheduler.Env) (w : World) : SameCluster w.db (Platform.schedule env w).db := by
  obtain ⟨nodes, _⟩ := Platform.schedule_frame env w
  cases Scheduler.scheduleOne_effect env w.toStore with
  | quiet taskLogs launched wrote =>
      apply SameCluster.of_eq nodes
      rw [Platform.schedule, wrote]
  | launch task a found queued selected launched wrote =>
      refine ⟨nodes, ?_, ?_⟩
      · rw [Platform.schedule, wrote]
        exact settle_slots env w.db task a _
      · rintro ⟨node, index⟩
        rw [Platform.schedule, wrote, Scheduler.settle_gpus env task _ selected]
        split
        · rw [GpuAllocator.mark_get, Option.map_map]
          cases here : w.db.gpus.get (node, index) with
          | none => rfl
          | some gpu =>
              rw [Option.map_some, Option.map_some, Function.comp_apply]
              split
              · rename_i covered
                obtain ⟨rfl, inside⟩ := covered
                obtain ⟨gpu', here', idle⟩ := selected.idle index inside
                rw [here] at here'
                cases here'
                have same : gpu.withStatus .idle = gpu := by rw [← idle, GpuDevice.withStatus_same]
                simp [restedGpu, idle, same]
              · rfl
        · rfl

/-- A finish notification gives back what the task had allocated. -/
theorem finishTask_cluster {db : Database} (booked : Booked db) (t : TaskId) :
    SameCluster db (Scheduler.finishTask db t) := by
  obtain ⟨nodes, _⟩ := Scheduler.finishTask_frame db t
  refine ⟨nodes, ?_, ?_⟩
  · rw [Scheduler.finishTask_gpus]
    exact releaseByTask_slots db t
  · rintro ⟨node, index⟩
    rw [Scheduler.finishTask_gpus]
    cases found : db.tasks.get t with
    | none => rw [GpuAllocator.releaseByTask_unknown found]
    | some task =>
        rw [GpuAllocator.releaseByTask_get found, Option.map_map]
        cases here : db.gpus.get (node, index) with
        | none => rfl
        | some gpu =>
            rw [Option.map_some, Option.map_some, Function.comp_apply]
            split
            · rename_i listed
              obtain ⟨owners, records⟩ := booked.ledger
              have used : Allocated db (node, index) :=
                (records.used_iff _).mpr ⟨t, (records.lists_iff t _).mp ⟨task, found, listed⟩⟩
              obtain ⟨gpu', here', allocated⟩ := used
              rw [here] at here'
              cases here'
              simp [restedGpu, allocated]
            · rfl

/-! ## Tasks and their GPUs -/

/-- The GPU bookkeeping is in order, and a task that has not started holds nothing. -/
structure Orderly (db : Database) : Prop where
  booked : Booked db
  early : ∀ t task, db.tasks.get t = some task → task.status = .pending ∨ task.status = .queued →
    task.gpuIndices = []
  named : ∀ t task, db.tasks.get t = some task → t ≠ ""

/-- Neither the monitor nor a heartbeat nor a stranger steps in. -/
def Calm : Platform.Op → Prop
  | .markOffline _ | .heartbeat _ _ | .queues _ => False
  | _ => True

/-- The columns of a row that say which GPUs it holds. -/
def assignment (task : Task) : Option NodeId × List Int := (task.assignedNodeId, task.gpuIndices)

theorem holds_iff {db : Database} {t : TaskId} {node : NodeId} {index : Int} :
    db.Holds t node index ↔
      ∃ held, (db.tasks.get t).map assignment = some held ∧ held.1 = some node ∧ index ∈ held.2 := by
  constructor
  · rintro ⟨task, found, here, inside⟩
    exact ⟨assignment task, by rw [found, Option.map_some], here, inside⟩
  · rintro ⟨held, same, here, inside⟩
    obtain ⟨task, found, rfl⟩ := Option.map_eq_some_iff.mp same
    exact ⟨task, found, here, inside⟩

theorem calledBack_assignment (now : Time) (payload : TaskCallbackRequest) (task : Task) :
    assignment (TaskService.calledBack now payload task) = assignment task := by
  unfold TaskService.calledBack
  cases payload.status <;> rfl

theorem calledBack_started (now : Time) (payload : TaskCallbackRequest) (task : Task) :
    (TaskService.calledBack now payload task).status ≠ .pending ∧
      (TaskService.calledBack now payload task).status ≠ .queued := by
  unfold TaskService.calledBack
  cases payload.status <;> simp

section

variable {t : TaskId} {op : Platform.Op} {old new : Option Task} {launched : Nat}

/-- Only the scheduler and the finish notifications change what a row holds. -/
theorem rowStep_assignment (step : Platform.RowStep t op old new launched) (quiet : op.writesGpus = false) :
    new.map assignment = old.map assignment ∨ old = none ∧ ∃ task, new = some task ∧ task.gpuIndices = [] := by
  cases step with
  | kept | submitted | cancelled | billed => exact .inl rfl
  | created => exact .inr ⟨rfl, _, rfl, rfl⟩
  | calledBack now payload task =>
      rw [Option.map_some, Option.map_some, calledBack_assignment]
      exact .inl rfl
  | started | failed | cleared | lost => cases quiet

theorem rowStep_early (step : Platform.RowStep t op old new launched)
    (before : ∀ task, old = some task → task.status = .pending ∨ task.status = .queued → task.gpuIndices = []) :
    ∀ task, new = some task → task.status = .pending ∨ task.status = .queued → task.gpuIndices = [] := by
  intro row here waits
  cases step with
  | kept => exact before row here waits
  | created =>
      cases here
      rfl
  | @submitted _ _ _ task pending =>
      cases here
      exact before task rfl (.inl pending)
  | calledBack now payload task =>
      cases here
      obtain ⟨first, second⟩ := calledBack_started now payload task
      exact (waits.elim first second).elim
  | billed rate success =>
      cases here
      rw [show (BillingService.markBilled _).status = TaskStatus.success from success] at waits
      simp at waits
  | cleared task =>
      cases here
      rfl
  | cancelled | started | failed | lost =>
      cases here
      simp [TaskService.cancelled, Scheduler.markRunning, Scheduler.markFailed, MonitorService.failLost] at waits

theorem rowStep_named (step : Platform.RowStep t op old new launched)
    (before : ∀ task, old = some task → t ≠ "") : ∀ task, new = some task → t ≠ "" := by
  intro row here
  cases step with
  | kept => exact before row here
  | created now user payload named => exact named
  | submitted | cancelled | calledBack | started | failed | cleared | lost | billed => exact before _ rfl

/-- In a step that starts nothing, a queued task was queued before. -/
theorem rowStep_queued (step : Platform.RowStep t op old new launched)
    (quiet : ∀ fault enqueuedAt user, op ≠ .submit fault enqueuedAt user t) (apart : op ≠ .finished t) :
    ∀ task, new = some task → task.status = .queued → old = some task := by
  intro row here queued
  cases step with
  | kept => exact here
  | created =>
      cases here
      cases queued
  | submitted fault enqueuedAt user => exact absurd rfl (quiet fault enqueuedAt user)
  | calledBack now payload task =>
      cases here
      exact absurd queued (calledBack_started now payload task).2
  | billed rate success =>
      cases here
      rw [show (BillingService.markBilled _).status = TaskStatus.success from success] at queued
      cases queued
  | cleared => exact absurd rfl apart
  | cancelled | started | failed | lost =>
      cases here
      cases queued

end

/-- What leaves the GPUs and what the rows hold alone leaves the ledger alone. -/
theorem booked_congr {db db' : Database} (h : Booked db) (gpus : db'.gpus = db.gpus)
    (rows : ∀ t, (db'.tasks.get t).map assignment = (db.tasks.get t).map assignment ∨
      db.tasks.get t = none ∧ ∃ task, db'.tasks.get t = some task ∧ task.gpuIndices = [])
    (free : ∀ t task, db'.tasks.get t = some task → task.status = .queued → task.gpuIndices = []) :
    Booked db' := by
  obtain ⟨owners, records⟩ := h.ledger
  refine ⟨⟨owners, records.congr (fun slot => by rw [Allocated, Allocated, gpus]) ?_⟩, ?_, free⟩
  · rintro t ⟨node, index⟩
    rw [holds_iff, holds_iff]
    rcases rows t with same | ⟨missing, task, found, empty⟩
    · rw [same]
    · rw [missing, found]
      simp [assignment, empty]
  · intro t task found
    rcases rows t with same | ⟨missing, other, found', empty⟩
    · rw [found, Option.map_some] at same
      obtain ⟨before, here, equal⟩ := Option.map_eq_some_iff.mp same.symm
      have indices : before.gpuIndices = task.gpuIndices := congrArg Prod.snd equal
      rw [← indices]
      exact h.nodup t before here
    · rw [found] at found'
      cases found'
      rw [empty]
      exact List.nodup_nil

theorem orderly_step (op : Platform.Op) (calm : Calm op) {w : World} (h : Orderly w.db) :
    Orderly (Platform.exec op w).db := by
  have early : ∀ t task, (Platform.exec op w).db.tasks.get t = some task →
      task.status = .pending ∨ task.status = .queued → task.gpuIndices = [] := by
    intro t
    obtain ⟨_, step, _⟩ := Platform.exec_row op w t
    exact rowStep_early step (h.early t)
  have named : ∀ t task, (Platform.exec op w).db.tasks.get t = some task → t ≠ "" := by
    intro t
    obtain ⟨_, step, _⟩ := Platform.exec_row op w t
    exact rowStep_named step (h.named t)
  refine ⟨?_, early, named⟩
  by_cases quiet : op.writesGpus = false
  · apply booked_congr h.booked (Platform.exec_gpus op w quiet)
    · intro t
      obtain ⟨_, step, _⟩ := Platform.exec_row op w t
      exact rowStep_assignment step quiet
    · exact fun t task found queued => early t task found (.inr queued)
  · cases op with
    | schedule env => exact Booked.schedule (s := w.toStore) h.booked env
    | finished t =>
        simp only [Platform.exec]
        split
        · exact h.booked
        · exact h.booked.finish t
    | markOffline | heartbeat => exact calm.elim
    | _ => exact absurd rfl quiet

/-! ## A task comes to its end -/

/-- One round: each task that holds GPUs ends, with any callback, and the notification of its
    end is handled, with the turn that this makes; then the main loop turns at least once. -/
structure Round where
  now : Time
  outcome : TaskId → TaskCallbackRequest
  next : TaskId → Scheduler.Env
  first : Scheduler.Env
  more : List Scheduler.Env

/-- The callback, and the first half of `handle_task_finished`. -/
def giveBack (r : Round) (t : TaskId) (w : World) : World :=
  Platform.exec (.finished t) (Platform.exec (.callback r.now (r.outcome t) t) w)

def endTask (r : Round) (t : TaskId) (w : World) : World := turn (r.next t) (giveBack r t w)

def holders (db : Database) : List TaskId := (db.tasks.rows.filter fun task => task.gpuIndices ≠ []).map (·.id)

def windUp (r : Round) (w : World) : World := Runs.run (endTask r) (holders w.db) w

def play (r : Round) (w : World) : World := Runs.run turn (r.first :: r.more) (windUp r w)

/-- Every queued task fits on the cluster. -/
def AllFit (db : Database) : Prop := ∀ t task, db.tasks.get t = some task → task.status = .queued → Fits db task

theorem callback_orderly {w : World} (h : Orderly w.db) (now : Time) (payload : TaskCallbackRequest) (t : TaskId) :
    Orderly (Platform.exec (.callback now payload t) w).db := orderly_step (.callback now payload t) trivial h

theorem exec_finished (t : TaskId) (w : World) :
    Platform.exec (.finished t) w = if t = "" then w else { w with db := Scheduler.finishTask w.db t } := rfl

theorem giveBack_orderly (r : Round) (t : TaskId) {w : World} (h : Orderly w.db) : Orderly (giveBack r t w).db :=
  orderly_step (.finished t) trivial (callback_orderly h r.now (r.outcome t) t)

theorem giveBack_cluster (r : Round) (t : TaskId) {w : World} (h : Orderly w.db) :
    SameCluster w.db (giveBack r t w).db := by
  have called : SameCluster w.db (Platform.exec (.callback r.now (r.outcome t) t) w).db := by
    apply SameCluster.of_eq
    · simp only [Platform.exec, TaskService.handleCallback]
      cases w.db.tasks.get t <;> rfl
    · exact Platform.exec_gpus _ w rfl
  apply called.trans
  rw [giveBack, exec_finished]
  split
  · exact SameCluster.refl _
  · exact finishTask_cluster (callback_orderly h r.now (r.outcome t) t).booked t

/-- Only the row of the task is written; it is queued no more and holds nothing. -/
theorem giveBack_row (r : Round) (t : TaskId) {w : World} (h : Orderly w.db) (u : TaskId) :
    (giveBack r t w).row u =
      if u = t then (w.row u).map fun task =>
        Scheduler.clearGpuIndices (TaskService.calledBack r.now (r.outcome t) task)
      else w.row u := by
  have called : (Platform.exec (.callback r.now (r.outcome t) t) w).row u =
      if u = t then (w.row u).map (TaskService.calledBack r.now (r.outcome t)) else w.row u := by
    simp only [World.row, Platform.exec, TaskService.handleCallback_tasks]
  by_cases nameless : t = ""
  · have absent : ∀ task, w.row t ≠ some task := fun task found => h.named t task found nameless
    have missing : w.row t = none := Option.eq_none_iff_forall_ne_some.mpr absent
    rw [giveBack, exec_finished, if_pos nameless, called]
    split
    · rename_i same
      rw [same, missing]
      rfl
    · rfl
  · rw [giveBack, exec_finished, if_neg nameless]
    simp only [World.row] at called ⊢
    rw [Scheduler.finishTask_tasks]
    split
    · rename_i same
      subst same
      rw [called, if_pos rfl, Option.map_map]
      rfl
    · rename_i other
      rw [called, if_neg other]

theorem giveBack_frame (r : Round) (t : TaskId) (w : World) :
    (giveBack r t w).queues = w.queues ∧ (giveBack r t w).launches = w.launches := by
  simp only [giveBack, Platform.exec]
  split <;> exact ⟨rfl, rfl⟩

/-- What the end of a task keeps. -/
structure Kept (w w' : World) : Prop where
  orderly : Orderly w'.db
  cluster : SameCluster w.db w'.db
  queues : w'.queues = w.queues
  launches : w'.launches = w.launches
  /-- No task is queued anew, and what holds nothing goes on holding nothing. -/
  queued : ∀ t task, w'.row t = some task → task.status = .queued → w.row t = some task
  empty : ∀ t, (∀ task, w.row t = some task → task.gpuIndices = []) → ∀ task, w'.row t = some task →
    task.gpuIndices = []

theorem Kept.refl {w : World} (h : Orderly w.db) : Kept w w :=
  ⟨h, SameCluster.refl _, rfl, rfl, fun _ _ found _ => found, fun _ before => before⟩

theorem Kept.trans {first second third : World} (h : Kept first second) (h' : Kept second third) :
    Kept first third where
  orderly := h'.orderly
  cluster := h.cluster.trans h'.cluster
  queues := h'.queues.trans h.queues
  launches := h'.launches.trans h.launches
  queued t task found queued := h.queued t task (h'.queued t task found queued) queued
  empty t before := h'.empty t (h.empty t before)

theorem giveBack_kept (r : Round) (t : TaskId) {w : World} (h : Orderly w.db) : Kept w (giveBack r t w) where
  orderly := giveBack_orderly r t h
  cluster := giveBack_cluster r t h
  queues := (giveBack_frame r t w).1
  launches := (giveBack_frame r t w).2
  queued u task found queued := by
    rw [giveBack_row r t h] at found
    split at found
    · obtain ⟨old, _, rfl⟩ := Option.map_eq_some_iff.mp found
      exact absurd queued (calledBack_started r.now (r.outcome t) old).2
    · exact found
  empty u before task found := by
    rw [giveBack_row r t h] at found
    split at found
    · obtain ⟨old, _, rfl⟩ := Option.map_eq_some_iff.mp found
      rfl
    · exact before task found

theorem giveBack_holds_nothing (r : Round) (t : TaskId) {w : World} (h : Orderly w.db) :
    ∀ task, (giveBack r t w).row t = some task → task.gpuIndices = [] := by
  intro task found
  rw [giveBack_row r t h, if_pos rfl] at found
  obtain ⟨old, _, rfl⟩ := Option.map_eq_some_iff.mp found
  rfl

theorem Kept.allFit {w w' : World} (kept : Kept w w') (fit : AllFit w.db) : AllFit w'.db := by
  intro t task found queued
  exact kept.cluster.fits (fit t task (kept.queued t task found queued) queued)

/-! ## The turns of the scheduler -/

theorem turn_orderly (env : Scheduler.Env) {w : World} (h : Orderly w.db) : Orderly (turn env w).db :=
  orderly_step (.schedule (QueueOrder.undisturbed env)) trivial h

theorem turn_allFit (env : Scheduler.Env) {w : World} (fit : AllFit w.db) : AllFit (turn env w).db := by
  intro t task found queued
  obtain ⟨_, step, _⟩ := Platform.schedule_row (QueueOrder.undisturbed env) w t
  have before := rowStep_queued step (by simp) (by simp) task found queued
  exact (schedule_cluster _ w).fits (fit t task before queued)

theorem turn_weight (env : Scheduler.Env) {w : World} (h : Submitted w.queues) :
    weight (turn env w).queues ≤ weight w.queues := by
  rcases Quiescence.turn_works env h with quiet | ⟨_, less⟩
  · obtain ⟨taskLogs, same⟩ := Quiescence.turn_quiet env quiet
    rw [same]
  · exact less.le

/-- Everything that is queued is on its way: it is launched, or still queued with its payload
    in the lists. -/
def Owed (before : Nat) (t : TaskId) (w : World) : Prop :=
  before < w.launches.count t ∨ (∃ task, w.row t = some task ∧ task.status = .queued) ∧ 0 < w.queues.waiting t

/-- A turn that does not launch a queued task leaves it in line. -/
theorem turn_waiting (env : Scheduler.Env) {w : World} (submitted : Submitted w.queues) {t : TaskId} {task : Task}
    (named : t ≠ "") (found : w.row t = some task) (queued : task.status = .queued)
    (inLine : 0 < w.queues.waiting t) (same : (turn env w).launches.count t = w.launches.count t) :
    0 < (turn env w).queues.waiting t := by
  have total := QueueManager.waiting_dequeueFrom t none [.high, .normal, .low] w.queues
  have wrote := Quiescence.turn_queues env w
  rcases Quiescence.dequeue_submitted submitted with ⟨none, _⟩ | ⟨level, u, enqueuedAt, rest, _, _, popped⟩
  · obtain ⟨level, raw, inside, _⟩ := Queues.exists_of_waiting inLine
    rw [none level] at inside
    cases inside
  · rw [QueueManager.dequeue] at popped
    rw [popped] at total
    rw [QueueManager.dequeue, popped, Quiescence.plan_fields] at wrote
    have requeued : ∀ priority fields, (w.queues.put level rest).waiting t ≤
        (QueueManager.requeue false fields priority (w.queues.put level rest)).waiting t := by
      intro priority fields
      rw [QueueManager.requeue, if_neg (by decide), Queues.waiting_rpush]
      exact Nat.le_add_right _ _
    have here : w.db.tasks.get t = some task := found
    by_cases mine : u = t
    · subst mine
      have room : GpuAllocator.select w.db task (Scheduler.getOnlineNodes w.db) = none := by
        cases chosen : GpuAllocator.select w.db task (Scheduler.getOnlineNodes w.db) with
        | none => rfl
        | some a =>
            have planned : Scheduler.plan (QueueOrder.undisturbed env) w.db
                (QueueManager.dequeue (QueueOrder.undisturbed env).popFault w.queues).1 = .launch task a := by
              rw [show (QueueOrder.undisturbed env).popFault = none from rfl, QueueManager.dequeue, popped,
                Quiescence.plan_fields, if_neg named]
              simp only [Scheduler.planTask, here, queued, if_true, chosen]
            have launched := Scheduler.launched_eq_some.mpr ⟨planned, rfl⟩
            have id : task.id = u := Table.key_of_get here
            have more : (turn env w).launches = w.launches ++ [u] := by
              simp only [turn, Platform.schedule, launched, Option.map_some, Option.toList_some, id]
            rw [more, List.count_append, List.count_singleton_self] at same
            omega
      have priority : QueueManager.requeuePriority (Quiescence.fields u enqueuedAt) = some 0 := rfl
      have planned : Scheduler.planTask w.db (Quiescence.fields u enqueuedAt) u =
          .requeue task (Quiescence.fields u enqueuedAt) 0 := by
        simp only [Scheduler.planTask, here, queued, if_true, room, priority]
      rw [if_neg named, planned] at wrote
      simp only at wrote
      rw [wrote, QueueManager.requeue, if_neg (by decide), Queues.waiting_rpush]
      have carried : (RawPayload.json (.object (Quiescence.fields u enqueuedAt))).carries u = true :=
        QueueOrder.carries_payload.mpr rfl
      rw [carried]
      exact Nat.succ_pos _
    · have other : (QueueManager.Popped.payload (.object (Quiescence.fields u enqueuedAt))).carries t = false := by
        rw [Bool.eq_false_iff]
        intro carried
        exact mine (QueueOrder.carries_payload.mp carried).symm
      rw [other, Bool.toNat_false, Nat.add_zero] at total
      rw [total] at inLine
      rw [wrote]
      split
      · exact lt_of_lt_of_le inLine (requeued _ _)
      · exact inLine

/-- A turn writes the row of a task that it launches, and no other. -/
theorem rowStep_kept {t : TaskId} {env : Scheduler.Env} {old new : Option Task}
    (step : Platform.RowStep t (.schedule env) old new 0) : new = old := by
  cases step with
  | kept => rfl

theorem turn_owed (env : Scheduler.Env) {w : World} (submitted : Submitted w.queues) (orderly : Orderly w.db)
    {before : Nat} {t : TaskId} (owed : Owed before t w) (least : before ≤ w.launches.count t) :
    Owed before t (turn env w) ∧ before ≤ (turn env w).launches.count t := by
  obtain ⟨launched, step, count⟩ := Platform.schedule_row (QueueOrder.undisturbed env) w t
  have total : (turn env w).launches.count t = w.launches.count t + launched := count
  refine ⟨?_, by omega⟩
  rcases owed with done | ⟨⟨task, found, queued⟩, inLine⟩
  · left
    omega
  · by_cases none : launched = 0
    · right
      subst none
      have row : (turn env w).row t = some task := by
        exact (rowStep_kept step).trans found
      exact ⟨⟨task, row, queued⟩,
        turn_waiting env submitted (orderly.named t task found) found queued inLine total⟩
    · left
      omega

theorem turn_launches (env : Scheduler.Env) (w : World) (t : TaskId) :
    w.launches.count t ≤ (turn env w).launches.count t := by
  obtain ⟨launched, _, count⟩ := Platform.schedule_row (QueueOrder.undisturbed env) w t
  have total : (turn env w).launches.count t = w.launches.count t + launched := count
  omega

structure Sound (w : World) : Prop where
  orderly : Orderly w.db
  submitted : Submitted w.queues
  fit : AllFit w.db

theorem sound_turns (envs : List Scheduler.Env) {w : World} (h : Sound w) : Sound (Runs.run turn envs w) := by
  apply Runs.run_invariant _ envs h
  intro w env h
  exact ⟨turn_orderly env h.orderly, Quiescence.submitted_turn env h.submitted, turn_allFit env h.fit⟩

theorem turns_weight (envs : List Scheduler.Env) {w : World} (h : Submitted w.queues) :
    weight (Runs.run turn envs w).queues ≤ weight w.queues := by
  induction envs generalizing w with
  | nil => exact Nat.le_refl _
  | cons env rest ih =>
      exact (ih (Quiescence.submitted_turn env h)).trans (turn_weight env h)

/-! ## All running tasks come to their end -/

theorem sound_giveBack (r : Round) (t : TaskId) {w : World} (h : Sound w) : Sound (giveBack r t w) := by
  have kept := giveBack_kept r t h.orderly
  refine ⟨kept.orderly, ?_, kept.allFit h.fit⟩
  rw [kept.queues]
  exact h.submitted

theorem sound_endTask (r : Round) (t : TaskId) {w : World} (h : Sound w) : Sound (endTask r t w) :=
  sound_turns [r.next t] (sound_giveBack r t h)

theorem sound_ends (r : Round) (ids : List TaskId) {w : World} (h : Sound w) : Sound (Runs.run (endTask r) ids w) :=
  Runs.run_invariant (fun _ t h => sound_endTask r t h) ids h

/-- A turn that finds nothing to do writes a log line at most. -/
theorem kept_of_quiet (env : Scheduler.Env) {w : World} (h : Orderly w.db) (quiet : Quiescence.Quiet w) :
    Kept w (turn env w) := by
  have orderly := turn_orderly env h
  obtain ⟨taskLogs, same⟩ := Quiescence.turn_quiet env quiet
  rw [same] at orderly ⊢
  exact ⟨orderly, SameCluster.of_eq rfl rfl, rfl, rfl, fun _ _ found _ => found, fun _ before => before⟩

/-- The turn after the end of a task works on the lists, or all that happens is that the task
    gives its GPUs back. -/
theorem endTask_works (r : Round) (t : TaskId) {w : World} (h : Sound w) :
    weight (endTask r t w).queues < weight w.queues ∨
      Kept w (endTask r t w) ∧ ∀ task, (endTask r t w).row t = some task → task.gpuIndices = [] := by
  have kept := giveBack_kept r t h.orderly
  have sound := sound_giveBack r t h
  rcases Quiescence.turn_works (r.next t) sound.submitted with quiet | ⟨_, less⟩
  · right
    have still := kept_of_quiet (r.next t) sound.orderly quiet
    exact ⟨kept.trans still, still.empty t (giveBack_holds_nothing r t h.orderly)⟩
  · left
    rwa [kept.queues] at less

theorem endTask_weight (r : Round) (t : TaskId) {w : World} (h : Sound w) :
    weight (endTask r t w).queues ≤ weight w.queues := by
  have lighter := turn_weight (r.next t) (sound_giveBack r t h).submitted
  rwa [(giveBack_kept r t h.orderly).queues] at lighter

theorem ends_weight (r : Round) (ids : List TaskId) {w : World} (h : Sound w) :
    weight (Runs.run (endTask r) ids w).queues ≤ weight w.queues := by
  induction ids generalizing w with
  | nil => exact Nat.le_refl _
  | cons t rest ih => exact (ih (sound_endTask r t h)).trans (endTask_weight r t h)

theorem ends_works (r : Round) (ids : List TaskId) {w : World} (h : Sound w) :
    weight (Runs.run (endTask r) ids w).queues < weight w.queues ∨
      Kept w (Runs.run (endTask r) ids w) ∧
        ∀ t ∈ ids, ∀ task, (Runs.run (endTask r) ids w).row t = some task → task.gpuIndices = [] := by
  induction ids generalizing w with
  | nil => exact .inr ⟨Kept.refl h.orderly, by simp⟩
  | cons t rest ih =>
      have sound := sound_endTask r t h
      rcases endTask_works r t h with less | ⟨kept, nothing⟩
      · exact .inl (lt_of_le_of_lt (ends_weight r rest sound) less)
      · rcases ih sound with less | ⟨later, done⟩
        · left
          rwa [kept.queues] at less
        · right
          refine ⟨kept.trans later, ?_⟩
          intro u inside
          rcases List.mem_cons.mp inside with same | inside
          · rw [same]
            exact later.empty t nothing
          · exact done u inside

/-- If no turn worked on the lists, no task holds a GPU in the end, and so none is allocated. -/
theorem windUp_works (r : Round) {w : World} (h : Sound w) :
    weight (windUp r w).queues < weight w.queues ∨
      (windUp r w).queues = w.queues ∧ ∀ slot, ¬ Allocated (windUp r w).db slot := by
  rcases ends_works r (holders w.db) h with less | ⟨kept, done⟩
  · exact .inl less
  · right
    refine ⟨kept.queues, ?_⟩
    intro slot used
    obtain ⟨owners, records⟩ := kept.orderly.booked.ledger
    obtain ⟨t, owned⟩ := (records.used_iff slot).mp used
    obtain ⟨task, found, listed⟩ := (records.lists_iff t slot).mpr owned
    have nothing : ∀ task, (windUp r w).row t = some task → task.gpuIndices = [] := by
      by_cases holds : t ∈ holders w.db
      · exact done t holds
      · apply kept.empty t
        intro old here
        by_contra held
        apply holds
        have member := Table.mem_of_get here
        exact List.mem_map.mpr ⟨old, List.mem_filter.mpr ⟨member, decide_eq_true held⟩, Table.key_of_get here⟩
    have inside := listed.2
    rw [nothing task found] at inside
    cases inside

theorem ends_empty (r : Round) (ids : List TaskId) {w : World} (none : ∀ level, w.queues.list level = []) :
    ∀ level, (Runs.run (endTask r) ids w).queues.list level = [] := by
  apply Runs.run_invariant (I := fun w : World => ∀ level, w.queues.list level = []) _ ids none
  intro w t none
  have empty : ∀ level, (giveBack r t w).queues.list level = [] := by rwa [(giveBack_frame r t w).1]
  obtain ⟨taskLogs, same⟩ := Quiescence.turn_quiet (r.next t) (.empty empty)
  rw [endTask, same]
  exact empty

/-- The ends of other tasks leave a task in line, or launch it. -/
theorem endTask_owed (r : Round) (u : TaskId) {w : World} (h : Sound w) {before : Nat} {t : TaskId}
    (owed : Owed before t w) (least : before ≤ w.launches.count t)
    (apart : u = t → before < w.launches.count t) :
    Owed before t (endTask r u w) ∧ w.launches.count t ≤ (endTask r u w).launches.count t := by
  have kept := giveBack_kept r u h.orderly
  have sound := sound_giveBack r u h
  have owed' : Owed before t (giveBack r u w) := by
    by_cases same : u = t
    · left
      rw [kept.launches]
      exact apart same
    · rw [Owed, kept.launches, kept.queues, giveBack_row r u h.orderly, if_neg (Ne.symm same)]
      exact owed
  have least' : before ≤ (giveBack r u w).launches.count t := by rwa [kept.launches]
  refine ⟨(turn_owed (r.next u) sound.submitted sound.orderly owed' least').1, ?_⟩
  rw [← kept.launches]
  exact turn_launches (r.next u) (giveBack r u w) t

theorem ends_owed (r : Round) (ids : List TaskId) {w : World} (h : Sound w) {before : Nat} {t : TaskId}
    (owed : Owed before t w) (least : before ≤ w.launches.count t)
    (apart : t ∈ ids → before < w.launches.count t) :
    Owed before t (Runs.run (endTask r) ids w) ∧ before ≤ (Runs.run (endTask r) ids w).launches.count t := by
  induction ids generalizing w with
  | nil => exact ⟨owed, least⟩
  | cons u rest ih =>
      obtain ⟨owed', more⟩ := endTask_owed r u h owed least fun same => apart (same ▸ List.mem_cons_self)
      apply ih (sound_endTask r u h) owed' (least.trans more)
      exact fun inside => lt_of_lt_of_le (apart (List.mem_cons_of_mem _ inside)) more

theorem windUp_owed (r : Round) {w : World} (h : Sound w) {before : Nat} {t : TaskId} (owed : Owed before t w)
    (least : before ≤ w.launches.count t) :
    Owed before t (windUp r w) ∧ before ≤ (windUp r w).launches.count t := by
  apply ends_owed r (holders w.db) h owed least
  intro inside
  rcases owed with launched | ⟨⟨task, found, queued⟩, _⟩
  · exact launched
  · -- a queued task holds nothing
    obtain ⟨other, member, same⟩ := List.mem_map.mp inside
    obtain ⟨stored, holds⟩ := List.mem_filter.mp member
    have here := Table.get_of_mem stored
    rw [same] at here
    cases here.symm.trans found
    exact absurd (h.orderly.early t _ found (.inr queued)) (of_decide_eq_true holds)

/-! ## Rounds -/

theorem play_works (r : Round) {w : World} (h : Sound w) :
    (∀ level, w.queues.list level = []) ∨ weight (play r w).queues < weight w.queues := by
  have sound : Sound (windUp r w) := sound_ends r _ h
  have turned := turns_weight (r.first :: r.more) sound.submitted
  rcases windUp_works r h with less | ⟨same, idle⟩
  · exact .inr (lt_of_le_of_lt turned less)
  · rcases Quiescence.turn_works r.first sound.submitted with quiet | ⟨submitted, less⟩
    · cases quiet with
      | empty none =>
          left
          rwa [← same]
      | blocked t task here =>
          -- with all GPUs given back nobody blocks the line
          have fits := sound.fit t task here.waits.found here.waits.queued
          exact absurd here.waits.noRoom (fits.room idle)
    · right
      rw [← same]
      exact lt_of_le_of_lt (turns_weight r.more submitted) less

theorem play_empty (r : Round) {w : World} (none : ∀ level, w.queues.list level = []) :
    ∀ level, (play r w).queues.list level = [] := by
  have empty := ends_empty r (holders w.db) none
  obtain ⟨taskLogs, rest⟩ := Quiescence.quiet_run (r.first :: r.more) (w := windUp r w) (.empty empty)
  rw [play, rest]
  exact empty

theorem play_owed (r : Round) {w : World} (h : Sound w) {before : Nat} {t : TaskId} (owed : Owed before t w)
    (least : before ≤ w.launches.count t) :
    Owed before t (play r w) ∧ before ≤ (play r w).launches.count t := by
  obtain ⟨owed', least'⟩ := windUp_owed r h owed least
  have step : ∀ w env, Sound w ∧ Owed before t w ∧ before ≤ w.launches.count t →
      Sound (turn env w) ∧ Owed before t (turn env w) ∧ before ≤ (turn env w).launches.count t := by
    intro w env ⟨sound, owed, least⟩
    exact ⟨sound_turns [env] sound, turn_owed env sound.submitted sound.orderly owed least⟩
  exact (Runs.run_invariant (I := fun w => Sound w ∧ Owed before t w ∧ before ≤ w.launches.count t) step
    (r.first :: r.more) ⟨sound_ends r _ h, owed', least'⟩).2

theorem play_sound (r : Round) {w : World} (h : Sound w) : Sound (play r w) := sound_turns _ (sound_ends r _ h)

theorem rounds_owed (rounds : List Round) {w : World} (h : Sound w) {before : Nat} {t : TaskId}
    (owed : Owed before t w) (least : before ≤ w.launches.count t) : Owed before t (Runs.run play rounds w) := by
  have step : ∀ w r, Sound w ∧ Owed before t w ∧ before ≤ w.launches.count t →
      Sound (play r w) ∧ Owed before t (play r w) ∧ before ≤ (play r w).launches.count t := by
    intro w r ⟨sound, owed, least⟩
    exact ⟨play_sound r sound, play_owed r sound owed least⟩
  exact (Runs.run_invariant (I := fun w => Sound w ∧ Owed before t w ∧ before ≤ w.launches.count t) step
    rounds ⟨h, owed, least⟩).2.1

theorem rounds_empty (rounds : List Round) {w : World} (h : Sound w) (long : weight w.queues ≤ rounds.length) :
    ∀ level, (Runs.run play rounds w).queues.list level = [] := by
  apply @Runs.run_settles _ _ play Sound (fun w => ∀ level, w.queues.list level = [])
    (fun w => weight w.queues) (fun _ r h => play_sound r h) _ (fun _ r h => play_works r h)
    (fun _ r _ none => play_empty r none) rounds w h long
  intro w _ light level
  simp only [weight] at light
  apply List.eq_nil_of_length_eq_zero
  cases level <;> simp only [Queues.list] <;> omega

/-! ## From the start -/

/-- The nodes are registered, nobody has asked for anything yet. -/
structure Fresh (db : Database) : Prop where
  tasks : db.tasks = .empty
  idle : ∀ slot, ¬ Allocated db slot

theorem fresh_orderly {db : Database} (h : Fresh db) : Orderly db := by
  have none : ∀ t task, db.tasks.get t ≠ some task := by
    intro t task found
    rw [h.tasks] at found
    cases found
  exact ⟨Bookkeeping.booked_start h.idle fun t task found => absurd found (none t task),
    fun t task found => absurd found (none t task), fun t task found => absurd found (none t task)⟩

theorem calm_run {ops : List Platform.Op} (calm : ∀ op ∈ ops, Calm op) {w : World} (h : Orderly w.db) :
    Orderly (Runs.run Platform.exec ops w).db := by
  induction ops generalizing w with
  | nil => exact h
  | cons op rest ih =>
      exact ih (fun other inside => calm other (List.mem_cons_of_mem _ inside))
        (orderly_step op (calm op List.mem_cons_self) h)

/-- Whatever was created, submitted, cancelled, launched, called back and finished before: if
    every queued task fits on the cluster as a whole, then after as many rounds as the lists
    weigh they are empty, and every task that stood in line has been launched. -/
theorem every_task_gets_its_turn {db : Database} (fresh : Fresh db) (ops : List Platform.Op)
    (calm : ∀ op ∈ ops, Calm op) (fit : AllFit (Runs.run Platform.exec ops { db }).db) (rounds : List Round)
    (long : weight (Runs.run Platform.exec ops { db }).queues ≤ rounds.length) :
    (∀ level, (Runs.run play rounds (Runs.run Platform.exec ops { db })).queues.list level = []) ∧
      ∀ t task, (Runs.run Platform.exec ops { db }).row t = some task → task.status = .queued →
        0 < (Runs.run Platform.exec ops { db }).queues.waiting t →
          (Runs.run Platform.exec ops { db }).launches.count t <
            (Runs.run play rounds (Runs.run Platform.exec ops { db })).launches.count t := by
  have start : Submitted ({ db } : World).queues := by
    intro level raw inside
    cases level <;> cases inside
  have own : ∀ op ∈ ops, ∀ queues, op ≠ .queues queues := by
    intro op inside queues same
    have calm := calm op inside
    rw [same] at calm
    exact calm
  have sound : Sound (Runs.run Platform.exec ops { db }) :=
    ⟨calm_run calm (fresh_orderly fresh), Quiescence.submitted_run ops own start, fit⟩
  have empty := rounds_empty rounds sound long
  refine ⟨empty, ?_⟩
  intro t task found queued inLine
  rcases rounds_owed rounds sound (.inr ⟨⟨task, found, queued⟩, inLine⟩) (Nat.le_refl _) with launched | ⟨_, left⟩
  · exact launched
  · obtain ⟨level, raw, inside, _⟩ := Queues.exists_of_waiting left
    rw [empty level] at inside
    cases inside

/-! ## Two tasks and one GPU -/

def sampleDb : Database where
  nodes := .singleton { id := "n1", ip := "10.0.0.1", status := .online }
  gpus := .singleton { id := "g", nodeId := "n1", gpuIndex := 0 }

theorem sample_fresh : Fresh sampleDb := by
  refine ⟨rfl, ?_⟩
  rintro slot ⟨gpu, found, allocated⟩
  cases List.mem_singleton.mp (Table.mem_of_get found)
  cases allocated

def sampleOps : List Platform.Op :=
  [.create "a" 0 Platform.Sample.user Platform.Sample.payload, .submit .none "" Platform.Sample.user "a",
    .create "b" 0 Platform.Sample.user Platform.Sample.payload, .submit .none "" Platform.Sample.user "b",
    .schedule (Platform.Sample.env "c" 1)]

def sampleRound : Round where
  now := 2
  outcome := fun _ => { status := .success }
  next := fun _ => Platform.Sample.env "d" 3
  first := Platform.Sample.env "e" 4
  more := []

theorem sample_fit : AllFit (Runs.run Platform.exec sampleOps { db := sampleDb }).db := by
  intro t task found
  have each : ∀ task ∈ (Runs.run Platform.exec sampleOps { db := sampleDb }).db.tasks.rows, task.status = .queued →
      (GpuAllocator.select (rested (Runs.run Platform.exec sampleOps { db := sampleDb }).db) task
        (Scheduler.getOnlineNodes (Runs.run Platform.exec sampleOps { db := sampleDb }).db)).isSome = true := by
    decide
  exact each task (Table.mem_of_get found)

/-- Task `b` waits behind `a`, which has the GPU; after one round it has been launched. -/
theorem sample_turn : (Runs.run Platform.exec sampleOps { db := sampleDb }).launches.count "b" <
    (Runs.run play [sampleRound] (Runs.run Platform.exec sampleOps { db := sampleDb })).launches.count "b" :=
  (every_task_gets_its_turn sample_fresh sampleOps (by simp [sampleOps, Calm]) sample_fit [sampleRound]
    (by decide)).2 "b" _ rfl rfl (by decide)

end SuitApi.Progress
