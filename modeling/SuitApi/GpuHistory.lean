import Mathlib.Data.Prod.Lex
import SuitApi.Library.Pages
import SuitApi.Library.Retention
import SuitApi.SharedCluster

/-! # The history of the GPU metrics

`collect_gpu_metrics` copies what the rows of the online nodes' GPUs say and drops what is
older than the retention; `get_gpu_history` reads a window of the copies.  Whatever else
goes on, a copy says what the node's last heartbeat said, and a window that the retention
covers misses none.
-/

namespace SuitApi.GpuHistory

open NodeService

/-! ## The table -/

structure GpuMetric where
  nodeId : NodeId
  gpuIndex : Int
  utilization : Int
  memoryUsed : Int
  memoryTotal : Int
  temperature : Int
  powerUsage : Int
  timestamp : Time
  deriving Repr, DecidableEq

def metricOf (now : Time) (node : Node) (gpu : GpuDevice) : GpuMetric where
  nodeId := node.id
  gpuIndex := gpu.gpuIndex
  utilization := gpu.utilization
  memoryUsed := gpu.memoryUsedMb
  memoryTotal := gpu.memoryTotalMb.getD 0
  temperature := gpu.temperature
  powerUsage := gpu.powerUsage
  timestamp := now

/-- The rows that one collection adds. -/
def samples (now : Time) (db : Database) : List GpuMetric :=
  (db.nodes.rows.filter fun node => node.status = .online).flatMap fun node =>
    (db.gpus.rows.filter fun gpu => gpu.nodeId = node.id).map (metricOf now node)

def hour : Time := 3600 * 1000000

def cutoff (retentionDays : Int) (now : Time) : Time := now - retentionDays * 24 * hour

/-- `collect_gpu_metrics`: the table and the number it returns. -/
def collectGpuMetrics (retentionDays : Int) (now : Time) (db : Database) (metrics : List GpuMetric) :
    List GpuMetric × Nat :=
  let collected := samples now db
  -- the session does not flush before a query, so the deletion meets the old rows only
  (metrics.filter (fun metric => !(metric.timestamp < cutoff retentionDays now)) ++ collected, collected.length)

/-- What `get_gpu_history` asks for. -/
structure Query where
  nodeId : NodeId
  gpuIndex : Option Int := none
  hours : Int := 24
  now : Time
  deriving Repr, DecidableEq

def Query.selects (query : Query) (metric : GpuMetric) : Bool :=
  metric.nodeId = query.nodeId && query.now - max query.hours 1 * hour ≤ metric.timestamp &&
    query.gpuIndex.all fun index => metric.gpuIndex = index

/-- `ORDER BY timestamp, gpu_index`. -/
def inTime (metric : GpuMetric) : Int ×ₗ Int := toLex (metric.timestamp, metric.gpuIndex)

/-- The list is an answer of `get_gpu_history`. -/
def History (query : Query) (metrics : List GpuMetric) (answer : List GpuMetric) : Prop :=
  Pages.Answer inTime (metrics.filter query.selects) answer

/-! ## The whole system -/

structure State extends World where
  metrics : List GpuMetric := []
  /-- Every row that was ever added to the metrics. -/
  record : List GpuMetric := []
  /-- The heartbeats that were accepted, with their nodes, the last one first. -/
  beats : List (NodeId × HeartbeatPayload) := []

inductive Op where
  | cluster (op : SharedCluster.Op)
  | collect (now : Time)

/-- The node whose heartbeat the step accepts. -/
def accepted : SharedCluster.Op → Database → List (NodeId × HeartbeatPayload)
  | .platform (.heartbeat env payload), db =>
      if (handleHeartbeat env payload db).isSome then
        ((findNode env payload.ip db).map fun found => (found.1.id, payload)).toList
      else []
  | _, _ => []

def exec (retentionDays : Int) : Op → State → State
  | .cluster op, s =>
      { s with toWorld := SharedCluster.exec op s.toWorld, beats := accepted op s.db ++ s.beats }
  | .collect now, s =>
      { s with
        metrics := (collectGpuMetrics retentionDays now s.db s.metrics).1
        record := s.record ++ samples now s.db }

/-! ## What the rows say -/

/-- The columns of a GPU row that go into the metrics. -/
structure Reading where
  utilization : Int
  memoryUsed : Int
  memoryTotal : Int
  temperature : Int
  powerUsage : Int

def reading (gpu : GpuDevice) : Reading :=
  ⟨gpu.utilization, gpu.memoryUsedMb, gpu.memoryTotalMb.getD 0, gpu.temperature, gpu.powerUsage⟩

/-- What a heartbeat reports of one GPU. -/
def reported (info : GpuInfo) : Reading :=
  ⟨info.utilizationGpu, info.memoryUsed, info.memoryTotal, info.temperature, info.powerUsage⟩

/-- The metric that repeats a reading. -/
def Reading.metric (r : Reading) (now : Time) (node : NodeId) (index : Int) : GpuMetric :=
  ⟨node, index, r.utilization, r.memoryUsed, r.memoryTotal, r.temperature, r.powerUsage, now⟩

/-- The GPU rows of every online node say what its last heartbeat said, and there is one for
    each GPU that it reported. -/
def Current (beats : List (NodeId × HeartbeatPayload)) (db : Database) : Prop :=
  ∀ node, db.nodes.get node.id = some node → node.status = .online → ∃ payload,
    beats.lookup node.id = some payload ∧
      ∀ index, (db.gpus.get (node.id, index)).map reading = (lastReport index payload.gpus).map reported

/-- The step writes no node and no reading. -/
structure Unmeasured (db db' : Database) : Prop where
  nodes : db'.nodes = db.nodes
  gpus : ∀ node index, (db'.gpus.get (node, index)).map reading = (db.gpus.get (node, index)).map reading

theorem Unmeasured.current {beats : List (NodeId × HeartbeatPayload)} {db db' : Database}
    (h : Unmeasured db db') (before : Current beats db) : Current beats db' := by
  intro node found online
  rw [h.nodes] at found
  obtain ⟨payload, last, rows⟩ := before node found online
  refine ⟨payload, last, ?_⟩
  intro index
  rw [h.gpus, rows]

theorem Unmeasured.trans {first second third : Database} (h : Unmeasured first second)
    (h' : Unmeasured second third) : Unmeasured first third :=
  ⟨h'.nodes.trans h.nodes, fun node index => (h'.gpus node index).trans (h.gpus node index)⟩

theorem Unmeasured.of_eq {db db' : Database} (nodes : db'.nodes = db.nodes) (gpus : db'.gpus = db.gpus) :
    Unmeasured db db' := ⟨nodes, fun _ _ => by rw [gpus]⟩

/-- A status is no reading. -/
theorem Unmeasured.of_status {db db' : Database} {status : GpuStatus} (S : NodeId → Int → Prop)
    [∀ node index, Decidable (S node index)] (nodes : db'.nodes = db.nodes)
    (gpus : ∀ node index, db'.gpus.get (node, index) =
      (db.gpus.get (node, index)).map fun gpu => if S node index then gpu.withStatus status else gpu) :
    Unmeasured db db' := by
  refine ⟨nodes, ?_⟩
  intro node index
  rw [gpus, Option.map_map]
  congr 1
  funext gpu
  rw [Function.comp_apply]
  split <;> rfl

/-! ## The steps that measure nothing -/

theorem schedule_unmeasured (env : Scheduler.Env) (w : World) :
    Unmeasured w.db (Platform.schedule env w).db := by
  obtain ⟨nodes, _⟩ := Platform.schedule_frame env w
  cases Scheduler.scheduleOne_effect env w.toStore with
  | quiet taskLogs launched wrote =>
      apply Unmeasured.of_eq nodes
      rw [Platform.schedule, wrote]
  | launch task a found queued selected launched wrote =>
      have marked : Unmeasured w.db (GpuAllocator.mark w.db a .allocated) :=
        .of_status (fun n i => n = a.nodeId ∧ i ∈ a.gpuIndices) rfl (GpuAllocator.mark_get w.db a .allocated)
      refine ⟨nodes, ?_⟩
      intro node index
      rw [Platform.schedule, wrote, Scheduler.settle_gpus env task _ selected]
      split
      · exact marked.gpus node index
      · rfl

theorem finishTask_unmeasured (db : Database) (t : TaskId) : Unmeasured db (Scheduler.finishTask db t) := by
  obtain ⟨nodes, _⟩ := Scheduler.finishTask_frame db t
  have gpus := Scheduler.finishTask_gpus db t
  cases found : db.tasks.get t with
  | none =>
      apply Unmeasured.of_eq nodes
      rw [gpus, GpuAllocator.releaseByTask_unknown found]
  | some task =>
      apply Unmeasured.of_status task.Lists nodes
      intro node index
      rw [gpus]
      exact GpuAllocator.releaseByTask_get found node index

/-- Only heartbeats and the sweep write readings. -/
theorem exec_unmeasured (op : Platform.Op) (w : World) (beat : ∀ env payload, op ≠ .heartbeat env payload)
    (sweep : ∀ sweep, op ≠ .markOffline sweep) : Unmeasured w.db (Platform.exec op w).db := by
  have same : op.writesGpus = false → (Platform.exec op w).db.nodes = w.db.nodes →
      Unmeasured w.db (Platform.exec op w).db :=
    fun quiet nodes => .of_eq nodes (Platform.exec_gpus op w quiet)
  cases op with
  | heartbeat env payload => exact absurd rfl (beat env payload)
  | markOffline s => exact absurd rfl (sweep s)
  | schedule env => exact schedule_unmeasured env w
  | queues | container | remove => exact same rfl rfl
  | finished t =>
      simp only [Platform.exec]
      split
      · exact .of_eq rfl rfl
      · exact finishTask_unmeasured w.db t
  | create t now user payload =>
      apply same rfl
      simp only [Platform.exec]
      split
      · rename_i created
        obtain ⟨_, tasks, inserted, rfl⟩ := TaskService.createTask_spec created
        rfl
      · rfl
  | submit fault enqueuedAt user t =>
      apply same rfl
      simp only [Platform.exec]
      rcases TaskService.submitTask_cases fault enqueuedAt user t w.toStore with kept | ⟨_, _, _, wrote⟩
      · rw [kept]
      · rw [wrote]
        rfl
  | cancel now user t =>
      apply same rfl
      simp only [Platform.exec]
      rcases TaskService.cancelTask_cases now user t w.db with kept | ⟨_, _, _, wrote⟩
      · rw [kept]
      · rw [wrote]
        rfl
  | callback now payload t =>
      apply same rfl
      simp only [Platform.exec, TaskService.handleCallback]
      cases w.db.tasks.get t <;> rfl
  | billing rate =>
      apply same rfl
      simp only [Platform.exec]
      split
      · rename_i done
        obtain ⟨_, _, _, nodes, _⟩ := BillingService.calculateTaskBilling_spec done
        exact nodes
      · rfl

theorem delete_unmeasured (user : User) (t : TaskId) (w : World) :
    Unmeasured w.db (SharedCluster.exec (.delete user t) w).db := by
  simp only [SharedCluster.exec]
  split
  · rename_i deleted
    obtain ⟨_, _, nodes, _⟩ := TaskService.deleteTask_spec deleted
    exact .of_eq nodes (TaskService.deleteTask_frame deleted).1
  · exact .of_eq rfl rfl

theorem setGpus_unmeasured (status : GpuStatus) (node : NodeId) (indices : List Int) (db : Database) :
    Unmeasured db (ModelService.setGpus status node indices db) :=
  .of_status (fun n i => n = node ∧ i ∈ indices) rfl (ModelService.setGpus_get status node indices db)

/-- The collection records each GPU of the online nodes once, as the node's last heartbeat
    reported it. -/
structure Faithful (s : State) (now : Time) : Prop where
  once : ((samples now s.db).map fun metric => (metric.nodeId, metric.gpuIndex)).Nodup
  reports : ∀ metric, metric ∈ samples now s.db ↔ ∃ node ∈ s.db.nodes.rows, node.status = .online ∧
    ∃ payload info, s.beats.lookup node.id = some payload ∧ lastReport info.index payload.gpus = some info ∧
      metric = (reported info).metric now node.id info.index

/-- The query is answered in full: the table has the answers that everything ever recorded
    would have. -/
def Full (query : Query) (s : State) : Prop :=
  ∀ answer, History query s.metrics answer ↔ History query s.record answer

def log (s : State) : Retention.Log GpuMetric := ⟨s.metrics, s.record⟩

/-- What a step adds to the metrics, and what it keeps of them. -/
def batch (retentionDays : Int) : Op → State → Retention.Batch GpuMetric
  | .collect now, s => ⟨samples now s.db, fun metric => !(metric.timestamp < cutoff retentionDays now)⟩
  | _, _ => ⟨[], fun _ => true⟩

theorem log_exec (retentionDays : Int) (op : Op) (s : State) :
    log (exec retentionDays op s) = Retention.step (batch retentionDays op s) (log s) := by
  have idle : log s = Retention.step ⟨[], fun _ => true⟩ (log s) := by simp [Retention.step]
  cases op with
  | collect now => rfl
  | cluster => exact idle

theorem full_iff {query : Query} {s : State} (sub : s.metrics.Sublist s.record) :
    Full query s ↔ Retention.Complete query.selects (log s) := by
  constructor
  · intro full
    obtain ⟨answer, sorted⟩ := Pages.exists_answer inTime (s.record.filter query.selects)
    have perm := ((full answer).mpr sorted).perm.symm.trans sorted.perm
    exact (sub.filter query.selects).eq_of_length perm.length_eq
  · intro complete answer
    have same : s.metrics.filter query.selects = s.record.filter query.selects := complete
    rw [History, same]
    exact Iff.rfl

/-- The collection keeps what the query selects. -/
def Keeps (retentionDays : Int) (query : Query) (s : State) (op : Op) : Prop :=
  ∀ now, op = .collect now → ∀ metric ∈ s.metrics, query.selects metric = true →
    cutoff retentionDays now ≤ metric.timestamp

theorem spares_iff (retentionDays : Int) (query : Query) (s : State) (op : Op) :
    Retention.Spares query.selects (log s) (batch retentionDays op s) ↔ Keeps retentionDays query s op := by
  cases op with
  | collect now => simp [Retention.Spares, Keeps, batch, log]
  | cluster => simp [Retention.Spares, Keeps, batch]

theorem full_run_iff (retentionDays : Int) (query : Query) (ops : List Op) :
    Full query (Runs.run (exec retentionDays) ops {}) ↔
      Runs.Along (exec retentionDays) (Keeps retentionDays query) ops {} := by
  have sub : (Runs.run (exec retentionDays) ops {}).metrics.Sublist
      (Runs.run (exec retentionDays) ops {}).record := by
    apply Runs.run_invariant (I := fun s : State => s.metrics.Sublist s.record) _ ops (List.Sublist.refl _)
    intro s op before
    have after : (log (exec retentionDays op s)).rows.Sublist (log (exec retentionDays op s)).record := by
      rw [log_exec]
      exact Retention.step_sublist _ before
    exact after
  rw [full_iff sub, Retention.complete_run (log_exec retentionDays) ops (s := {}) (List.Sublist.refl _)]
  simp only [spares_iff]
  exact and_iff_right rfl

/-- A collection whose clock is not ahead of the query keeps a window within the retention. -/
theorem keeps_of_covered {retentionDays : Int} {query : Query} (covered : max query.hours 1 ≤ retentionDays * 24)
    {s : State} {op : Op} (timely : ∀ now, op = .collect now → now ≤ query.now) :
    Keeps retentionDays query s op := by
  intro now here metric _ selected
  have before := timely now here
  have inside : query.now - max query.hours 1 * hour ≤ metric.timestamp := by
    simp only [Query.selects, Bool.and_eq_true, decide_eq_true_eq] at selected
    exact selected.1.2
  have reach : max query.hours 1 * hour ≤ retentionDays * 24 * hour :=
    Int.mul_le_mul_of_nonneg_right covered (by decide)
  exact (Int.sub_le_sub before reach).trans inside

/-- After any run, a window of the history shows all that was ever recorded of it exactly when
    no collection of the run dropped a part of it; a window that is no longer than the
    retention is safe from every collection whose clock the query has reached. -/
theorem history_full (retentionDays : Int) (query : Query) (ops : List Op) :
    (Full query (Runs.run (exec retentionDays) ops {}) ↔
      Runs.Along (exec retentionDays) (Keeps retentionDays query) ops {}) ∧
    (max query.hours 1 ≤ retentionDays * 24 →
      Runs.Along (exec retentionDays) (fun _ op => ∀ now, op = .collect now → now ≤ query.now) ops {} →
        Full query (Runs.run (exec retentionDays) ops {})) := by
  have exactly := full_run_iff retentionDays query ops
  refine ⟨exactly, ?_⟩
  intro covered timely
  apply exactly.mpr
  apply timely.strengthen (I := fun _ => True)
  · exact fun _ _ _ _ => trivial
  · exact fun s op _ here => keeps_of_covered covered here
  · trivial

/-! ## Two days of one GPU -/

def sampleBeat (now : Time) (utilizationGpu : Int) : Op :=
  .cluster (.platform (.heartbeat { nodeId := "n1", now } {
    hostname := "n1"
    ip := "10.0.0.1"
    gpus := [{ index := 0, model := "A100", utilizationGpu }] }))

def sampleRun : List Op :=
  [sampleBeat 0 10, .collect 1, sampleBeat hour 20, .collect (hour + 1), .collect (24 * hour + 1)]

theorem sample_full : Full { nodeId := "n1", hours := 24, now := 24 * hour + 1 }
    (Runs.run (exec 1) sampleRun {}) :=
  (history_full 1 _ sampleRun).2 (by decide) (by
    simp only [sampleRun, sampleBeat, Runs.Along, reduceCtorEq, IsEmpty.forall_iff, implies_true, true_and,
      Op.collect.injEq, forall_eq', and_true]
    decide)

end SuitApi.GpuHistory
