import SuitApi.HeartbeatRace
import SuitApi.LaunchFailure
import SuitApi.Mirror

/-! # One live container a GPU

What the rows promise is one thing, which containers run on a GPU another: the agents start
whatever they are asked to start, some of it after the client has given up.  Two live
containers never share a GPU as long as no GPU is taken for idle while a container on it has
not stopped.
-/

namespace SuitApi.Exclusive

open Platform NodeService
open LaunchFailure (Channel)

/-! ## The property and its condition -/

/-- A live container on the host has this GPU. -/
def Carries (w : World) (ip : String) (index : Int) : Prop :=
  ∃ c ∈ w.containers, c.alive = true ∧ c.nodeIp = ip ∧ index ∈ c.gpuIndices

def Apart (c d : Container) : Prop :=
  c.alive = true → d.alive = true → c.nodeIp = d.nodeIp → ∀ index ∈ c.gpuIndices, index ∉ d.gpuIndices

/-- No GPU of the host is idle under a live container. -/
def Guarded (w : World) (ip : String) : Prop :=
  ∀ node, (node, ip) ∈ addresses w.db → ∀ index gpu, Carries w ip index →
    w.db.gpus.get (node, index) = some gpu → gpu.status ≠ .idle

/-- No two live containers have a GPU in common, and no GPU under a live container is idle. -/
structure Safe (w : World) : Prop where
  exclusive : w.containers.Pairwise Apart
  guarded : ∀ ip, Guarded w ip

/-- No row of this GPU is idle. -/
def Taken (db : Database) (ip : String) (index : Int) : Prop :=
  ∀ node gpu, (node, ip) ∈ addresses db → db.gpus.get (node, index) = some gpu → gpu.status ≠ .idle

/-- The operation gives no GPU of a live container on this host back: a failed launch has
    started no container with GPUs, a finished task's containers have stopped, a node that goes
    out of service runs none, and a heartbeat reports the GPUs of live containers as used. -/
def Spares (ip : String) (w : World) : Op → Prop
  | .schedule env => ∀ task a run, (Scheduler.scheduleOne env w.toStore).launched = some (task, a, run) →
      a.nodeIp = ip → (Scheduler.accepted run).isOk = false → run.started.isSome = true → a.gpuIndices = []
  | .finished t => t ≠ "" → ∀ task node index, w.row t = some task → (node, ip) ∈ addresses w.db →
      task.Lists node index → Carries w ip index → w.db.gpus.get (node, index) = none
  | .markOffline sweep => ∀ node index, node ∈ MonitorService.lostNodes sweep w.db →
      (node, ip) ∈ addresses w.db → Carries w ip index → w.db.gpus.get (node, index) = none
  | .heartbeat env payload => payload.ip = ip → (handleHeartbeat env payload w.db).isSome = true →
      ∀ index info, Carries w ip index → lastReport index payload.gpus = some info →
        HeartbeatRace.reportedUsed payload info
  | _ => True

/-- The step leaves no GPU of a live container on this host idle: an operation gives none back,
    and a container that is started late gets none that is idle. -/
def Careful (ip : String) (s : Channel) : LaunchFailure.Op → Prop
  | .platform op => Spares ip s.toWorld op
  | .execute i _ => ∀ pending, s.inFlight[i]? = some pending → pending.nodeIp = ip →
      ∀ index ∈ pending.request.gpus, Taken s.db ip index
  | .lose _ => True

/-- A container that is started late gets no GPU of a live one. -/
def Vacant (s : Channel) : LaunchFailure.Op → Prop
  | .execute i _ => ∀ pending, s.inFlight[i]? = some pending →
      ∀ index ∈ pending.request.gpus, ¬ Carries s.toWorld pending.nodeIp index
  | _ => True

/-- Every address is that of one node. -/
def OneAddress (db : Database) : Prop := (db.nodes.rows.map (·.ip)).Nodup

theorem OneAddress.same {db : Database} (h : OneAddress db) {node node' : NodeId} {ip : String}
    (first : (node, ip) ∈ addresses db) (second : (node', ip) ∈ addresses db) : node = node' := by
  obtain ⟨row, inside, pair⟩ := List.mem_map.mp first
  obtain ⟨row', inside', pair'⟩ := List.mem_map.mp second
  obtain ⟨rfl, rfl⟩ := Prod.mk.inj pair
  obtain ⟨rfl, same⟩ := Prod.mk.inj pair'
  rw [List.inj_on_of_nodup_map h inside' inside same]

theorem mem_addresses {db : Database} {id : NodeId} {ip : String} :
    (id, ip) ∈ addresses db ↔ ∃ node, db.nodes.get id = some node ∧ node.ip = ip := by
  constructor
  · intro inside
    obtain ⟨node, member, pair⟩ := List.mem_map.mp inside
    obtain ⟨rfl, rfl⟩ := Prod.mk.inj pair
    exact ⟨node, Table.get_of_mem member, rfl⟩
  · intro ⟨node, found, here⟩
    exact List.mem_map.mpr ⟨node, Table.mem_of_get found, by rw [Table.key_of_get found, here]⟩

theorem oneAddress_of_addresses {db db' : Database} (h : OneAddress db) (same : addresses db' = addresses db) :
    OneAddress db' := by
  have ips := congrArg (List.map Prod.snd) same
  simp only [addresses, List.map_map, Function.comp_def] at ips
  rw [OneAddress, ips]
  exact h

/-! ## Heartbeats -/

section

variable {env : Env} {payload : HeartbeatPayload} {db db' : Database} {node : Node} {nodes : Table Node.id}

theorem heartbeat_oneAddress (h : OneAddress db) (handled : handleHeartbeat env payload db = some db') :
    OneAddress db' := by
  obtain ⟨node, nodes, spec⟩ := handleHeartbeat_spec handled
  rw [OneAddress, spec.nodes]
  exact Mirror.refreshed_ips h spec.located

/-- A heartbeat adds at most its own address. -/
theorem heartbeat_addresses (spec : Handled env payload db db' node nodes) {id : NodeId} {ip : String} :
    (id, ip) ∈ addresses db' ↔ if id = node.id then ip = payload.ip else (id, ip) ∈ addresses db := by
  rw [mem_addresses, mem_addresses, spec.nodes, Mirror.refreshed_get spec.located]
  split
  · simp [refreshed, eq_comm]
  · rfl

/-- The node that a heartbeat is for has its address, if it has one already. -/
theorem located_address (located : findNode env payload.ip db = some (node, nodes)) {ip : String}
    (known : (node.id, ip) ∈ addresses db) : ip = payload.ip := by
  obtain ⟨row, found, rfl⟩ := mem_addresses.mp known
  obtain ⟨address, old | new⟩ := findNode_spec located
  · rw [Table.get_of_mem old.1] at found
    cases found
    exact address
  · have member := Table.mem_of_get found
    have split : nodes.rows = db.nodes.rows ++ node :: [] := new.2
    have apart := Table.key_ne_of_split split (List.mem_append_left [] member)
    exact absurd (Table.key_of_get found) apart

end

/-- A node keeps its address: a heartbeat is that of the node with its address. -/
theorem exec_addresses (op : Op) (w : World) {id : NodeId} {ip : String} (known : (id, ip) ∈ addresses w.db) :
    (id, ip) ∈ addresses (exec op w).db := by
  by_cases quiet : ∀ env payload, op ≠ .heartbeat env payload
  · rw [(exec_frame op w quiet).1]
    exact known
  · push Not at quiet
    obtain ⟨env, payload, rfl⟩ := quiet
    simp only [exec]
    split
    · rename_i db handled
      obtain ⟨node, nodes, spec⟩ := handleHeartbeat_spec handled
      rw [heartbeat_addresses spec]
      split
      · rename_i same
        exact located_address spec.located (same ▸ known)
      · exact known
    · exact known

/-- A heartbeat guards its host, whatever was there before, if it reports what is used. -/
theorem heartbeat_guarded_iff {w : World} (one : OneAddress w.db) {env : Env} {payload : HeartbeatPayload}
    {db : Database} (handled : handleHeartbeat env payload w.db = some db) :
    Guarded { w with db } payload.ip ↔ ∀ index info, Carries w payload.ip index →
      lastReport index payload.gpus = some info → HeartbeatRace.reportedUsed payload info := by
  obtain ⟨node, nodes, spec⟩ := handleHeartbeat_spec handled
  have own : (node.id, payload.ip) ∈ addresses db := (heartbeat_addresses spec).mpr (by rw [if_pos rfl])
  constructor
  · intro after index info carried reported
    have status := spec.status index
    rw [reported, Option.map_some] at status
    obtain ⟨gpu, found, same⟩ := Option.map_eq_some_iff.mp status
    rw [← HeartbeatRace.gpuStatus_ne_idle_iff, ← same]
    exact after node.id own index gpu carried found
  · intro used id address index gpu carried found
    obtain rfl := (heartbeat_oneAddress one handled).same address own
    have status := spec.status index
    rw [found, Option.map_some, eq_comm, Option.map_eq_some_iff] at status
    obtain ⟨info, reported, same⟩ := status
    rw [← same, HeartbeatRace.gpuStatus_ne_idle_iff]
    exact used index info carried reported

theorem heartbeat_other {w : World} {ip : String} (h : Guarded w ip) {env : Env} {payload : HeartbeatPayload}
    {db : Database} (handled : handleHeartbeat env payload w.db = some db) (other : payload.ip ≠ ip) :
    Guarded { w with db } ip := by
  obtain ⟨node, nodes, spec⟩ := handleHeartbeat_spec handled
  intro id address index gpu carried found
  rw [heartbeat_addresses spec] at address
  split at address
  · exact absurd address.symm other
  · rename_i apart
    apply h id address index gpu carried
    rw [← spec.others id index apart]
    exact found

/-- The payload has the GPUs of every live container on its host. -/
theorem mem_active_buildPayload {reading : HeartbeatPayload} {w : World} {c : Container} (inside : c ∈ w.containers)
    (alive : c.alive = true) (own : c.nodeIp = reading.ip) {index : Int} (has : index ∈ c.gpuIndices) :
    index ∈ activeGpuIndices (buildPayload reading w) := by
  apply List.mem_flatMap.mpr
  refine ⟨_, List.mem_filter.mpr ⟨List.mem_map_of_mem (List.mem_filter.mpr ⟨inside, decide_eq_true own⟩), ?_⟩, has⟩
  simpa [RunningContainerInfo.active, Container.alive, or_assoc] using alive

/-- A heartbeat that arrives as soon as it is built reports all live containers. -/
theorem fresh_spares (ip : String) (w : World) (env : Env) (reading : HeartbeatPayload) :
    Spares ip w (.heartbeat env (buildPayload reading w)) := by
  intro address _ index info carried reported
  obtain ⟨c, inside, alive, here, has⟩ := carried
  left
  rw [lastReport_index reported]
  exact mem_active_buildPayload inside alive (here.trans address.symm) has

/-! ## Steps that start no container -/

/-- A step that leaves the GPU rows and the addresses alone, and revives no container. -/
theorem Guarded.calm {w w' : World} {ip : String} (h : Guarded w ip) (sameAddresses : addresses w'.db = addresses w.db)
    (gpus : w'.db.gpus = w.db.gpus) (carries : ∀ index, Carries w' ip index → Carries w ip index) :
    Guarded w' ip := by
  intro node address index gpu carried found
  rw [sameAddresses] at address
  rw [gpus] at found
  exact h node address index gpu (carries index carried) found

theorem setStatus_spec {id : ContainerId} {status : ContainerStatus} {c : Container}
    (alive : (setStatus id status c).alive = true) :
    c.alive = true ∧ (setStatus id status c).nodeIp = c.nodeIp ∧
      (setStatus id status c).gpuIndices = c.gpuIndices := by
  refine ⟨(HeartbeatRace.setStatus_alive alive).1, ?_, ?_⟩ <;> unfold setStatus <;> split <;> rfl

theorem container_guarded {w : World} {ip : String} (h : Guarded w ip) (id : ContainerId) (status : ContainerStatus) :
    Guarded (exec (.container id status) w) ip := by
  refine Guarded.calm h rfl rfl ?_
  intro index carried
  obtain ⟨c, inside, alive, here, has⟩ := carried
  obtain ⟨old, member, rfl⟩ := List.mem_map.mp inside
  obtain ⟨before, sameIp, sameGpus⟩ := setStatus_spec alive
  exact ⟨old, member, before, by rw [← sameIp, here], by rw [← sameGpus]; exact has⟩

theorem container_exclusive {w : World} (h : w.containers.Pairwise Apart) (id : ContainerId)
    (status : ContainerStatus) : (exec (.container id status) w).containers.Pairwise Apart := by
  apply List.pairwise_map.mpr
  apply h.imp
  intro c d apart alive alive' same index has has'
  obtain ⟨before, ip, gpus⟩ := setStatus_spec alive
  obtain ⟨before', ip', gpus'⟩ := setStatus_spec alive'
  rw [ip, ip'] at same
  rw [gpus] at has
  rw [gpus'] at has'
  exact apart before before' same index has has'

theorem remove_guarded {w : World} {ip : String} (h : Guarded w ip) (id : ContainerId) :
    Guarded (exec (.remove id) w) ip := by
  refine Guarded.calm h rfl rfl ?_
  intro index carried
  obtain ⟨c, inside, rest⟩ := carried
  exact ⟨c, List.mem_of_mem_filter inside, rest⟩

/-- Setting GPUs to idle leaves a host guarded exactly where no live container has one of them. -/
theorem idled_guarded_iff {w : World} {ip : String} (h : Guarded w ip) {db : Database}
    (sameAddresses : addresses db = addresses w.db) (S : NodeId → Int → Prop) [∀ node index, Decidable (S node index)]
    {f : GpuDevice → GpuDevice} (idle : ∀ gpu, (f gpu).status = .idle)
    (gpus : ∀ node index, db.gpus.get (node, index) =
      (w.db.gpus.get (node, index)).map fun gpu => if S node index then f gpu else gpu) :
    Guarded { w with db } ip ↔ ∀ node index, S node index → (node, ip) ∈ addresses w.db →
      Carries w ip index → w.db.gpus.get (node, index) = none := by
  constructor
  · intro after node index hit address carried
    cases found : w.db.gpus.get (node, index) with
    | none => rfl
    | some gpu =>
        have now : db.gpus.get (node, index) = some (f gpu) := by
          rw [gpus, found, Option.map_some, if_pos hit]
        exact absurd (idle gpu) (after node (sameAddresses ▸ address) index (f gpu) carried now)
  · intro vacant node address index gpu carried found
    rw [sameAddresses] at address
    rw [gpus] at found
    obtain ⟨old, before, rfl⟩ := Option.map_eq_some_iff.mp found
    split
    · rename_i hit
      rw [vacant node index hit address carried] at before
      cases before
    · exact h node address index old carried before

theorem finished_guarded_iff {w : World} {ip : String} (h : Guarded w ip) (t : TaskId) :
    Guarded (exec (.finished t) w) ip ↔ Spares ip w (.finished t) := by
  simp only [exec, Spares]
  split
  · rename_i unnamed
    exact iff_of_true h fun named => absurd unnamed named
  · rename_i named
    have address : addresses (Scheduler.finishTask w.db t) = addresses w.db := by
      rw [addresses, (Scheduler.finishTask_frame w.db t).1]
      rfl
    have gpus := Scheduler.finishTask_gpus w.db t
    cases found : w.db.tasks.get t with
    | none =>
        rw [GpuAllocator.releaseByTask_unknown found] at gpus
        refine iff_of_true (Guarded.calm h address gpus fun _ carried => carried) ?_
        intro _ task node index here
        rw [World.row, found] at here
        cases here
    | some task =>
        have freed : ∀ node index, (Scheduler.finishTask w.db t).gpus.get (node, index) =
            (w.db.gpus.get (node, index)).map fun gpu =>
              if task.Lists node index then gpu.withStatus .idle else gpu := by
          intro node index
          rw [gpus]
          exact GpuAllocator.releaseByTask_get found node index
        rw [idled_guarded_iff h address task.Lists (fun _ => rfl) freed]
        constructor
        · intro vacant _ task' node index here address' listed carried
          rw [World.row, found] at here
          cases here
          exact vacant node index listed address' carried
        · intro spares node index listed address' carried
          exact spares named task node index found address' listed carried

theorem sweep_guarded_iff {w : World} {ip : String} (h : Guarded w ip) (sweep : MonitorService.Sweep) :
    Guarded (exec (.markOffline sweep) w) ip ↔ Spares ip w (.markOffline sweep) := by
  have address := (exec_frame (.markOffline sweep) w (by simp)).1
  exact idled_guarded_iff h address (fun node _ => node ∈ MonitorService.lostNodes sweep w.db) (fun _ => rfl)
    (MonitorService.markOfflineNodes_gpus sweep w.db)

/-! ## Launches -/

/-- The address of an allocation is that of its node. -/
theorem select_address {db : Database} {task : Task} {nodes : List Node} {a : Allocation}
    (chosen : GpuAllocator.select db task nodes = some a) :
    ∃ node ∈ nodes, node.id = a.nodeId ∧ node.ip = a.nodeIp := by
  simp only [GpuAllocator.select] at chosen
  split at chosen
  · obtain ⟨node, found, rfl⟩ := Option.map_eq_some_iff.mp chosen
    exact ⟨node, (List.mem_insertionSort _).mp (List.mem_of_head? found), rfl, rfl⟩
  · obtain ⟨⟨node, gpus⟩, found, rfl⟩ := Option.map_eq_some_iff.mp chosen
    have candidate := (List.mem_insertionSort _).mp (List.mem_of_head? found)
    obtain ⟨node', member, pair⟩ := List.mem_map.mp (List.mem_of_mem_filter candidate)
    obtain ⟨rfl, rfl⟩ := Prod.mk.inj pair
    exact ⟨node', member, rfl, rfl⟩

/-- A launch as the hosts see it: GPUs of one host that were idle are taken if the agent
    accepts, and the container that the agent starts, if any, has them. -/
structure Launched (env : Scheduler.Env) (w : World) (task : Task) (a : Allocation) (run : AgentRun) : Prop where
  launched : (Scheduler.scheduleOne env w.toStore).launched = some (task, a, run)
  address : (a.nodeId, a.nodeIp) ∈ addresses w.db
  idle : ∀ index ∈ a.gpuIndices, ∃ gpu, w.db.gpus.get (a.nodeId, index) = some gpu ∧ gpu.status = .idle
  containers : (schedule env w).containers = w.containers ++ (startedContainer env (task, a, run)).toList
  rejected : (Scheduler.accepted run).isOk = false → ∀ slot,
    (schedule env w).db.gpus.get slot = w.db.gpus.get slot
  accepted : (Scheduler.accepted run).isOk = true → ∀ node index,
    (schedule env w).db.gpus.get (node, index) = (w.db.gpus.get (node, index)).map fun gpu =>
      if node = a.nodeId ∧ index ∈ a.gpuIndices then gpu.withStatus .allocated else gpu

theorem schedule_launched (env : Scheduler.Env) (w : World) :
    ((Scheduler.scheduleOne env w.toStore).launched = none ∧ (schedule env w).containers = w.containers ∧
        (schedule env w).db.gpus = w.db.gpus) ∨
      ∃ task a run, Launched env w task a run := by
  cases Scheduler.scheduleOne_effect env w.toStore with
  | quiet taskLogs launched wrote =>
      left
      refine ⟨launched, ?_, ?_⟩
      · simp [schedule, launched]
      · simp only [schedule, wrote]
  | launch task a found queued selected launched wrote =>
      right
      refine ⟨task, a, _, launched, ?_, selected.idle, by simp [schedule, launched], ?_, ?_⟩
      · obtain ⟨planned, _⟩ := Scheduler.launched_eq_some.mp launched
        obtain ⟨node, inside, id, ip⟩ := select_address (Scheduler.plan_launch planned).2.2
        rw [Scheduler.getOnlineNodes, List.mem_insertionSort] at inside
        exact List.mem_map.mpr ⟨node, List.mem_of_mem_filter inside, by rw [id, ip]⟩
      · intro rejected slot
        simp only [schedule, wrote]
        rw [Scheduler.settle_gpus env task _ selected]
        cases reply : Scheduler.accepted (ContainerManager.launch env.settings env.agent task a) with
        | ok result =>
            rw [reply] at rejected
            cases rejected
        | error exc => rfl
      · intro accepted node index
        simp only [schedule, wrote]
        rw [Scheduler.settle_gpus env task _ selected]
        cases reply : Scheduler.accepted (ContainerManager.launch env.settings env.agent task a) with
        | ok result => exact GpuAllocator.mark_get w.db a .allocated node index
        | error exc =>
            rw [reply] at accepted
            cases accepted

section

variable {env : Scheduler.Env} {w : World} {task : Task} {a : Allocation} {run : AgentRun}

theorem started_spec {c : Container} (started : startedContainer env (task, a, run) = some c) :
    run.started.isSome = true ∧ c.nodeIp = a.nodeIp ∧ c.gpuIndices = a.gpuIndices := by
  obtain ⟨id, ran, rfl⟩ := Option.map_eq_some_iff.mp started
  exact ⟨by rw [ran]; rfl, rfl, rfl⟩

/-- What a host carries after the launch it carried before, or the launch has started it. -/
theorem Launched.carries (h : Launched env w task a run) {ip : String} {index : Int}
    (carried : Carries (schedule env w) ip index) :
    Carries w ip index ∨ (run.started.isSome = true ∧ a.nodeIp = ip ∧ index ∈ a.gpuIndices) := by
  obtain ⟨c, inside, alive, here, has⟩ := carried
  rw [h.containers] at inside
  rcases List.mem_append.mp inside with old | new
  · exact .inl ⟨c, old, alive, here, has⟩
  · obtain ⟨ran, sameIp, sameGpus⟩ := started_spec (Option.mem_toList.mp new)
    exact .inr ⟨ran, sameIp ▸ here, sameGpus ▸ has⟩

theorem Launched.exclusive (h : Launched env w task a run) (safe : Safe w) :
    (schedule env w).containers.Pairwise Apart := by
  rw [h.containers]
  apply List.pairwise_append.mpr
  refine ⟨safe.exclusive, ?_, ?_⟩
  · cases startedContainer env (task, a, run) <;> simp
  · intro old inside new member alive _ same index has has'
    obtain ⟨_, sameIp, sameGpus⟩ := started_spec (Option.mem_toList.mp member)
    rw [sameGpus] at has'
    obtain ⟨gpu, stored, idle⟩ := h.idle index has'
    exact safe.guarded a.nodeIp a.nodeId h.address index gpu ⟨old, inside, alive, by rw [same, sameIp], has⟩ stored idle

theorem Launched.guarded_iff (h : Launched env w task a run) (one : OneAddress w.db) {ip : String}
    (before : Guarded w ip) : Guarded (schedule env w) ip ↔ Spares ip w (.schedule env) := by
  have sameAddresses : addresses (schedule env w).db = addresses w.db := (exec_frame (.schedule env) w (by simp)).1
  constructor
  · intro after task' a' run' launched here rejected ran
    rw [h.launched, Option.some.injEq, Prod.mk.injEq, Prod.mk.injEq] at launched
    obtain ⟨rfl, rfl, rfl⟩ := launched
    subst here
    apply List.eq_nil_iff_forall_not_mem.mpr
    intro index taken
    obtain ⟨gpu, stored, idle⟩ := h.idle index taken
    obtain ⟨id, ran⟩ := Option.isSome_iff_exists.mp ran
    refine after a.nodeId (sameAddresses ▸ h.address) index gpu ?_ ((h.rejected rejected _).trans stored) idle
    refine ⟨ContainerTracker.runContainer a.nodeIp id
      (ContainerManager.request env.settings task a (task.containerImage.getD "")), ?_, rfl, rfl, taken⟩
    rw [h.containers, startedContainer, ran]
    exact List.mem_append_right _ (List.mem_singleton_self _)
  · intro spares node address index gpu carried stored
    rw [sameAddresses] at address
    cases reply : (Scheduler.accepted run).isOk with
    | true =>
        rw [h.accepted reply] at stored
        obtain ⟨old, here, rfl⟩ := Option.map_eq_some_iff.mp stored
        split
        · exact fun idle => by cases idle
        · rename_i apart
          rcases h.carries carried with carried | ⟨_, rfl, taken⟩
          · exact before node address index old carried here
          · exact absurd ⟨one.same address h.address, taken⟩ apart
    | false =>
        rw [h.rejected reply] at stored
        rcases h.carries carried with carried | ⟨ran, here, taken⟩
        · exact before node address index gpu carried stored
        · rw [spares task a run h.launched here reply ran] at taken
          cases taken

end

/-! ## Late starts -/

theorem started_guarded_iff {w : World} {ip : String} (h : Guarded w ip) {c : Container} (alive : c.alive = true) :
    Guarded { w with containers := w.containers ++ [c] } ip ↔
      (c.nodeIp = ip → ∀ index ∈ c.gpuIndices, Taken w.db ip index) := by
  constructor
  · intro after here index has node gpu address found
    apply after node address index gpu _ found
    exact ⟨c, List.mem_append_right _ (List.mem_singleton_self c), alive, here, has⟩
  · intro taken node address index gpu carried found
    obtain ⟨d, inside, lives, here, has⟩ := carried
    rcases List.mem_append.mp inside with old | new
    · exact h node address index gpu ⟨d, old, lives, here, has⟩ found
    · obtain rfl := List.mem_singleton.mp new
      exact taken here index has node gpu address found

theorem started_exclusive_iff {w : World} (h : w.containers.Pairwise Apart) {c : Container} (alive : c.alive = true) :
    (w.containers ++ [c]).Pairwise Apart ↔ ∀ index ∈ c.gpuIndices, ¬ Carries w c.nodeIp index := by
  rw [List.pairwise_append]
  constructor
  · rintro ⟨_, _, apart⟩ index has ⟨d, inside, lives, here, has'⟩
    exact apart d inside c (List.mem_singleton_self c) lives alive here index has' has
  · intro vacant
    refine ⟨h, List.pairwise_singleton _ _, ?_⟩
    intro d inside c' new lives _ same index has has'
    obtain rfl := List.mem_singleton.mp new
    exact vacant index has' ⟨d, inside, lives, same, has⟩

/-! ## Runs -/

theorem exec_containers_kept {op : Op} (quiet : op.writesGpus = false) (w : World)
    (kept : ∀ id status, op ≠ .container id status) (stays : ∀ id, op ≠ .remove id) :
    (exec op w).containers = w.containers := by
  cases op with
  | schedule | finished | markOffline | heartbeat => cases quiet
  | container id status => exact absurd rfl (kept id status)
  | remove id => exact absurd rfl (stays id)
  | create | billing =>
      simp only [exec]
      split <;> rfl
  | _ => rfl

/-- A guarded host stays guarded exactly where the operation spares it. -/
theorem exec_guarded_iff {w : World} (one : OneAddress w.db) {ip : String} (h : Guarded w ip) (op : Op) :
    Guarded (exec op w) ip ↔ Spares ip w op := by
  cases op with
  | schedule env =>
      rcases schedule_launched env w with ⟨none, containers, gpus⟩ | ⟨task, a, run, launched⟩
      · refine iff_of_true (Guarded.calm h (exec_frame (.schedule env) w (by simp)).1 gpus ?_) ?_
        · intro index carried
          rwa [Carries, exec, containers] at carried
        · intro task a run here
          rw [none] at here
          cases here
      · exact launched.guarded_iff one h
  | finished t => exact finished_guarded_iff h t
  | markOffline sweep => exact sweep_guarded_iff h sweep
  | container id status => exact iff_of_true (container_guarded h id status) trivial
  | remove id => exact iff_of_true (remove_guarded h id) trivial
  | heartbeat env payload =>
      simp only [exec, Spares]
      cases handled : handleHeartbeat env payload w.db with
      | none => exact iff_of_true h fun _ accepted => by cases accepted
      | some db =>
          by_cases own : payload.ip = ip
          · subst own
            simp only [Option.isSome_some, forall_const]
            exact heartbeat_guarded_iff one handled
          · exact iff_of_true (heartbeat_other h handled own) fun same => absurd same own
  | _ =>
      refine iff_of_true (Guarded.calm h (exec_frame _ w (by simp)).1 (exec_gpus _ w rfl) ?_) trivial
      intro index carried
      rwa [Carries, exec_containers_kept rfl w (by simp) (by simp)] at carried

theorem exec_exclusive {w : World} (h : Safe w) (op : Op) : (exec op w).containers.Pairwise Apart := by
  cases op with
  | schedule env =>
      rcases schedule_launched env w with ⟨_, containers, _⟩ | ⟨task, a, run, launched⟩
      · rw [exec, containers]
        exact h.exclusive
      · exact launched.exclusive h
  | container id status => exact container_exclusive h.exclusive id status
  | remove id => exact h.exclusive.filter _
  | finished | heartbeat =>
      simp only [exec]
      split <;> exact h.exclusive
  | markOffline => exact h.exclusive
  | _ =>
      rw [exec_containers_kept rfl w (by simp) (by simp)]
      exact h.exclusive

theorem oneAddress_step {w : World} (one : OneAddress w.db) (op : Op) : OneAddress (exec op w).db := by
  by_cases beat : ∃ env payload, op = .heartbeat env payload
  · obtain ⟨env, payload, rfl⟩ := beat
    simp only [exec]
    cases handled : handleHeartbeat env payload w.db with
    | none => exact one
    | some db => exact heartbeat_oneAddress one handled
  · exact oneAddress_of_addresses one (exec_frame op w fun env payload same => beat ⟨env, payload, same⟩).1

/-! ## The agents as well -/

theorem exec_platform (op : Op) (s : Channel) : (LaunchFailure.exec (.platform op) s).toWorld = exec op s.toWorld := by
  cases op <;> rfl

theorem exec_execute {s : Channel} {i : Nat} {pending : LaunchFailure.Pending} (waits : s.inFlight[i]? = some pending)
    (id : ContainerId) : (LaunchFailure.exec (.execute i id) s).toWorld =
      { s.toWorld with
        containers := s.containers ++ [ContainerTracker.runContainer pending.nodeIp id pending.request] } := by
  simp only [LaunchFailure.exec, waits]

theorem exec_idle {s : Channel} {i : Nat} (nothing : s.inFlight[i]? = none) (id : ContainerId) :
    LaunchFailure.exec (.execute i id) s = s := by
  simp only [LaunchFailure.exec, nothing]

/-- A guarded host stays guarded exactly where the step is careful with it. -/
theorem guarded_step_iff {s : Channel} (one : OneAddress s.db) {ip : String} (h : Guarded s.toWorld ip)
    (op : LaunchFailure.Op) : Guarded (LaunchFailure.exec op s).toWorld ip ↔ Careful ip s op := by
  cases op with
  | platform op =>
      rw [exec_platform]
      exact exec_guarded_iff one h op
  | lose i => exact iff_of_true h trivial
  | execute i id =>
      simp only [Careful]
      cases waits : s.inFlight[i]? with
      | none =>
          rw [exec_idle waits]
          exact iff_of_true h nofun
      | some pending =>
          simp only [exec_execute waits, Option.some.injEq, forall_eq']
          exact started_guarded_iff h rfl

theorem exclusive_step_iff {s : Channel} (h : Safe s.toWorld) (op : LaunchFailure.Op) :
    (LaunchFailure.exec op s).containers.Pairwise Apart ↔ Vacant s op := by
  cases op with
  | platform op =>
      rw [exec_platform]
      exact iff_of_true (exec_exclusive h op) trivial
  | lose i => exact iff_of_true h.exclusive trivial
  | execute i id =>
      simp only [Vacant]
      cases waits : s.inFlight[i]? with
      | none =>
          rw [exec_idle waits]
          exact iff_of_true h.exclusive nofun
      | some pending =>
          simp only [exec_execute waits, Option.some.injEq, forall_eq']
          exact started_exclusive_iff h.exclusive rfl

theorem safe_step_iff {s : Channel} (one : OneAddress s.db) (h : Safe s.toWorld) (op : LaunchFailure.Op) :
    Safe (LaunchFailure.exec op s).toWorld ↔ (∀ ip, Careful ip s op) ∧ Vacant s op := by
  rw [← exclusive_step_iff h]
  constructor
  · intro after
    exact ⟨fun ip => (guarded_step_iff one (h.guarded ip) op).mp (after.guarded ip), after.exclusive⟩
  · rintro ⟨careful, exclusive⟩
    exact ⟨exclusive, fun ip => (guarded_step_iff one (h.guarded ip) op).mpr (careful ip)⟩

theorem oneAddress_kept {s : Channel} (one : OneAddress s.db) (op : LaunchFailure.Op) :
    OneAddress (LaunchFailure.exec op s).db := by
  cases op with
  | platform op =>
      rw [exec_platform]
      exact oneAddress_step one op
  | lose i => exact one
  | execute i id =>
      simp only [LaunchFailure.exec]
      split <;> exact one

/-- All along a run no two live containers share a GPU and none of their GPUs is idle, exactly
    as long as every step is careful, and no container is started late on a GPU of a live one. -/
theorem exclusive_iff (ops : List LaunchFailure.Op) :
    Runs.Along LaunchFailure.exec (fun s op => Safe (LaunchFailure.exec op s).toWorld) ops {} ↔
      Runs.Along LaunchFailure.exec (fun s op => (∀ ip, Careful ip s op) ∧ Vacant s op) ops {} := by
  apply Runs.along_congr (I := fun s : Channel => OneAddress s.db ∧ Safe s.toWorld)
  · exact fun s op both after => ⟨oneAddress_kept both.1 op, after⟩
  · exact fun s op both => safe_step_iff both.1 both.2 op
  · refine ⟨List.nodup_nil, List.Pairwise.nil, ?_⟩
    intro ip node address
    cases address

/-! ## Recovery -/

/-- A heartbeat of this host that is accepted as soon as it is built. -/
def Reports (ip : String) (s : Channel) (op : LaunchFailure.Op) : Prop :=
  ∃ env reading, op = .platform (.heartbeat env (buildPayload reading s.toWorld)) ∧ reading.ip = ip ∧
    (handleHeartbeat env (buildPayload reading s.toWorld) s.db).isSome = true

/-- Whatever the rows said at the start, a host is guarded once it has reported, as long as the
    steps from then on are careful with it. -/
theorem reported_guarded {s : Channel} (one : OneAddress s.db) {ip : String}
    {before after : List LaunchFailure.Op} {op : LaunchFailure.Op}
    (reports : Reports ip (Runs.run LaunchFailure.exec before s) op)
    (careful : Runs.Along LaunchFailure.exec (Careful ip) after (Runs.run LaunchFailure.exec (before ++ [op]) s)) :
    Guarded (Runs.run LaunchFailure.exec (before ++ op :: after) s).toWorld ip := by
  have still := Runs.run_invariant (I := fun s : Channel => OneAddress s.db)
    (fun _ op one => oneAddress_kept one op) before one
  rw [Runs.run_append] at careful ⊢
  generalize Runs.run LaunchFailure.exec before s = now at reports careful still ⊢
  obtain ⟨env, reading, rfl, rfl, accepted⟩ := reports
  obtain ⟨db, handled⟩ := Option.isSome_iff_exists.mp accepted
  let report : LaunchFailure.Op := .platform (.heartbeat env (buildPayload reading now.toWorld))
  have guarded : Guarded (LaunchFailure.exec report now).toWorld reading.ip := by
    simp only [report, exec_platform, exec, handled]
    apply (heartbeat_guarded_iff still handled).mpr
    exact fresh_spares reading.ip now.toWorld env reading rfl accepted
  apply And.right
  apply careful.invariant (I := fun s : Channel => OneAddress s.db ∧ Guarded s.toWorld reading.ip)
  · exact fun s op both here => ⟨oneAddress_kept both.1 op, (guarded_step_iff both.1 both.2 op).mpr here⟩
  · exact ⟨oneAddress_kept still report, guarded⟩

/-- A GPU that was given back under a live container. -/
def misled : World where
  db :=
    { nodes := .singleton { id := "n1", ip := "10.0.0.1", status := .online }
      gpus := .singleton { id := "g", nodeId := "n1", gpuIndex := 0 } }
  queues := {}
  containers := [⟨"10.0.0.1", "c", none, "image", .running, [0], none⟩]

def misledReading : HeartbeatPayload where
  hostname := "n1"
  ip := "10.0.0.1"
  gpus := [{ index := 0, model := "A100" }]

def misledChannel : Channel := { toWorld := misled }

theorem misled_recovers : Guarded (Runs.run LaunchFailure.exec ([] ++
    .platform (.heartbeat { nodeId := "", now := 1 } (buildPayload misledReading misled)) ::
      [.platform (.container "d" .exited), .platform (.billing 1)]) misledChannel).toWorld "10.0.0.1" :=
  reported_guarded (s := misledChannel) (List.nodup_singleton _)
    ⟨{ nodeId := "", now := 1 }, misledReading, rfl, rfl, by decide⟩ ⟨trivial, trivial, trivial⟩

end SuitApi.Exclusive
