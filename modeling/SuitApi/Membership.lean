import SuitApi.Library.Detector
import SuitApi.GpuHistory
import SuitApi.OfflineSweep

/-! # Which nodes are online

Heartbeats and the monitor's sweeps make a failure detector of the nodes table.  Whatever
else the system does, and in whatever order heartbeats arrive, a node is online for exactly
as long as the last heartbeat that was accepted stands up to the sweeps after it.
-/

namespace SuitApi.Membership

open NodeService
open Detector (Signal Opinion hear)
open GpuHistory (State Op exec Unmeasured)

def Online (ip : String) (db : Database) : Prop := ∃ node ∈ db.nodes.rows, node.ip = ip ∧ node.status = .online

/-- What `handle_heartbeat` stores as the time of the heartbeat. -/
def stamp (env : Env) (payload : HeartbeatPayload) : Time := payload.timestamp.getD env.now

/-- What a sweep requires of the last heartbeat. -/
def limit (sweep : MonitorService.Sweep) : Time := sweep.checkedAt - sweep.timeoutSeconds * 1000000

/-- No other heartbeat of the address is accepted, and no sweep finds the time too old. -/
def Stands (ip : String) (beat : Time) (s : State) : Op → Prop
  | .cluster (.platform (.heartbeat env payload)) => payload.ip = ip → handleHeartbeat env payload s.db = none
  | .cluster (.platform (.markOffline sweep)) => limit sweep ≤ beat
  | _ => True

/-! ## The nodes table as a detector -/

def signal (ip : String) : Op → State → Option (Signal Time)
  | .cluster (.platform (.heartbeat env payload)), s =>
      if payload.ip = ip ∧ (handleHeartbeat env payload s.db).isSome then some (.beat (stamp env payload)) else none
  | .cluster (.platform (.markOffline sweep)), _ => some (.check (limit sweep))
  | _, _ => none

def opinionOf (node : Node) : Option (Opinion Time) :=
  node.lastHeartbeat.map fun beat => ⟨beat, node.status = .online⟩

def opinion (ip : String) (db : Database) : Option (Opinion Time) :=
  (db.nodes.rows.find? fun node => node.ip = ip).bind opinionOf

/-- Addresses are unique, and an online node has been heard of. -/
structure Heard (db : Database) : Prop where
  ips : (db.nodes.rows.map (·.ip)).Nodup
  beaten : ∀ node ∈ db.nodes.rows, node.status = .online → node.lastHeartbeat.isSome = true

theorem opinion_of_mem {db : Database} (h : Heard db) {node : Node} (inside : node ∈ db.nodes.rows) :
    opinion node.ip db = opinionOf node := by
  have found : (db.nodes.rows.find? fun other => other.ip = node.ip) = some node := by
    cases searched : db.nodes.rows.find? fun other => other.ip = node.ip with
    | none => simpa using List.find?_eq_none.mp searched node inside
    | some other =>
        have same : other.ip = node.ip := by simpa using List.find?_some searched
        rw [List.inj_on_of_nodup_map h.ips (List.mem_of_find?_eq_some searched) inside same]
  rw [opinion, found, Option.bind_some]

theorem opinion_of_absent {db : Database} {ip : String} (absent : ∀ node ∈ db.nodes.rows, node.ip ≠ ip) :
    opinion ip db = none := by
  have missing : (db.nodes.rows.find? fun node => node.ip = ip) = none := by
    apply List.find?_eq_none.mpr
    intro node inside
    simpa using absent node inside
  rw [opinion, missing, Option.bind_none]

theorem online_iff_trusted {db : Database} (h : Heard db) (ip : String) :
    Online ip db ↔ Detector.Trusted (opinion ip db) := by
  constructor
  · intro ⟨node, inside, here, online⟩
    obtain ⟨beat, known⟩ := Option.isSome_iff_exists.mp (h.beaten node inside online)
    exact ⟨beat, by rw [← here, opinion_of_mem h inside, opinionOf, known, online]; rfl⟩
  · intro ⟨beat, trusted⟩
    obtain ⟨node, found, held⟩ := Option.bind_eq_some_iff.mp trusted
    obtain ⟨last, _, same⟩ := Option.map_eq_some_iff.mp held
    refine ⟨node, List.mem_of_find?_eq_some found, by simpa using List.find?_some found, ?_⟩
    simpa using (Opinion.mk.inj same).2

/-! ## Sweeps -/

theorem opinionOf_offlineNode (node : Node) :
    opinionOf (MonitorService.offlineNode node) = (opinionOf node).map fun o => ⟨o.last, false⟩ := by
  simp [opinionOf, MonitorService.offlineNode, Function.comp_def]

theorem opinionOf_swept (sweep : MonitorService.Sweep) (node : Node) :
    opinionOf (if MonitorService.timedOut sweep node then MonitorService.offlineNode node else node) =
      hear (some (.check (limit sweep))) (opinionOf node) := by
  cases known : node.lastHeartbeat with
  | none =>
      split
      · rw [opinionOf_offlineNode, opinionOf, known]
        rfl
      · rw [opinionOf, known]
        rfl
  | some beat =>
      split
      · rename_i out
        have late : beat < limit sweep := (OfflineSweep.timedOut_iff.mp out).2 beat known
        rw [opinionOf_offlineNode, opinionOf, known]
        simp [hear, late]
      · rename_i timely
        have stays : node.status = .online → limit sweep ≤ beat := by
          intro online
          by_contra late
          apply timely
          simp only [MonitorService.timedOut, online, known]
          simp only [limit, not_le] at late
          simpa using late
        simp only [opinionOf, known, Option.map_some, hear, Option.some.injEq, Opinion.mk.injEq, true_and]
        by_cases online : node.status = .online
        · simp [online, stays online]
        · simp [online]

theorem swept_ip (sweep : MonitorService.Sweep) (node : Node) :
    (if MonitorService.timedOut sweep node then MonitorService.offlineNode node else node).ip = node.ip := by
  split <;> rfl

theorem swept_rows (sweep : MonitorService.Sweep) (db : Database) :
    (MonitorService.markOfflineNodes sweep db).1.nodes.rows = db.nodes.rows.map fun node =>
      if MonitorService.timedOut sweep node then MonitorService.offlineNode node else node := by
  rw [OfflineSweep.markOfflineNodes_eq]
  rfl

theorem sweep_opinion (sweep : MonitorService.Sweep) (db : Database) (ip : String) :
    opinion ip (MonitorService.markOfflineNodes sweep db).1 = hear (some (.check (limit sweep))) (opinion ip db) := by
  rw [opinion, swept_rows, List.find?_map]
  have same : ((fun node : Node => decide (node.ip = ip)) ∘ fun node =>
      if MonitorService.timedOut sweep node then MonitorService.offlineNode node else node) =
        fun node => decide (node.ip = ip) := by
    funext node
    rw [Function.comp_apply, swept_ip]
  rw [same, opinion]
  cases db.nodes.rows.find? fun node => node.ip = ip with
  | none => rfl
  | some node => exact opinionOf_swept sweep node

theorem sweep_heard {db : Database} (h : Heard db) (sweep : MonitorService.Sweep) :
    Heard (MonitorService.markOfflineNodes sweep db).1 := by
  constructor
  case ips =>
    rw [swept_rows, List.map_map]
    have same : ((·.ip) ∘ fun node => if MonitorService.timedOut sweep node then MonitorService.offlineNode node
        else node) = fun node : Node => node.ip := by
      funext node
      exact swept_ip sweep node
    rw [same]
    exact h.ips
  case beaten =>
    intro node inside online
    rw [swept_rows] at inside
    obtain ⟨old, stored, rfl⟩ := List.mem_map.mp inside
    split at online
    · cases online
    · rename_i timely
      rw [if_neg timely]
      exact h.beaten old stored online

/-! ## Heartbeats -/

section

variable {env : Env} {payload : HeartbeatPayload} {db db' : Database}

theorem heartbeat_heard (h : Heard db) (handled : handleHeartbeat env payload db = some db') : Heard db' := by
  obtain ⟨node, nodes, spec⟩ := handleHeartbeat_spec handled
  constructor
  case ips =>
    rw [spec.nodes]
    exact Mirror.refreshed_ips h.ips spec.located
  case beaten =>
    intro row inside online
    have stored := Table.get_of_mem inside
    rw [spec.nodes, Mirror.refreshed_get spec.located] at stored
    split at stored
    · cases stored
      rfl
    · exact h.beaten row (Table.mem_of_get stored) online

theorem heartbeat_opinion (h : Heard db) (handled : handleHeartbeat env payload db = some db') :
    opinion payload.ip db' = some ⟨stamp env payload, true⟩ := by
  obtain ⟨node, nodes, spec⟩ := handleHeartbeat_spec handled
  have inside : refreshed env payload node ∈ db'.nodes.rows := by
    apply Table.mem_of_get (k := node.id)
    rw [spec.nodes, Mirror.refreshed_get spec.located, if_pos rfl]
  exact opinion_of_mem (heartbeat_heard h handled) inside

/-- A heartbeat says nothing about other addresses. -/
theorem heartbeat_other (h : Heard db) (handled : handleHeartbeat env payload db = some db') {ip : String}
    (other : payload.ip ≠ ip) : opinion ip db' = opinion ip db := by
  obtain ⟨node, nodes, spec⟩ := handleHeartbeat_spec handled
  obtain ⟨address, which⟩ := findNode_spec spec.located
  have get : ∀ id, db'.nodes.get id =
      if id = node.id then some (refreshed env payload node) else db.nodes.get id := by
    intro id
    rw [spec.nodes]
    exact Mirror.refreshed_get spec.located id
  by_cases known : ∃ old ∈ db.nodes.rows, old.ip = ip
  · obtain ⟨old, inside, rfl⟩ := known
    have apart : old.id ≠ node.id := by
      intro same
      have listed : old ∈ nodes.rows := by
        rcases which with ⟨_, rfl⟩ | ⟨_, rows⟩
        · exact inside
        · rw [rows]
          exact List.mem_append_left _ inside
      have here : old = node := List.inj_on_of_nodup_map nodes.unique listed (Mirror.located_mem spec.located) same
      exact other (by rw [here, address])
    have stays : old ∈ db'.nodes.rows := by
      apply Table.mem_of_get (k := old.id)
      rw [get, if_neg apart, Table.get_of_mem inside]
    rw [opinion_of_mem (heartbeat_heard h handled) stays, opinion_of_mem h inside]
  · have absent : ∀ row ∈ db'.nodes.rows, row.ip ≠ ip := by
      intro row inside here
      have stored := Table.get_of_mem inside
      rw [get] at stored
      split at stored
      · cases stored
        exact other here
      · exact known ⟨row, Table.mem_of_get stored, here⟩
    rw [opinion_of_absent absent, opinion_of_absent fun row inside here => known ⟨row, inside, here⟩]

end

/-! ## Runs -/

theorem nodes_preserved (nodes : Table Node.id) : ModelService.Preserved fun db => db.nodes = nodes where
  mark _ _ _ same := same
  store lower model a id containerId db db' same granted stored := by
    obtain ⟨modelInstances, _, rfl⟩ := Option.map_eq_some_iff.mp stored
    exact same
  run _ _ _ same := same
  release id db same := by
    unfold ModelService.releaseInstance
    split <;> exact same

/-- Only heartbeats and sweeps write nodes. -/
theorem nodes_step (retentionDays : Int) (op : Op) (s : State)
    (beat : ∀ env payload, op ≠ .cluster (.platform (.heartbeat env payload)))
    (sweep : ∀ sweep, op ≠ .cluster (.platform (.markOffline sweep))) :
    (exec retentionDays op s).db.nodes = s.db.nodes := by
  cases op with
  | collect now => rfl
  | cluster op =>
      cases op with
      | platform op =>
          exact (GpuHistory.exec_unmeasured op s.toWorld (fun env payload same => beat env payload (by rw [same]))
            (fun s same => sweep s (by rw [same]))).nodes
      | delete user t => exact (GpuHistory.delete_unmeasured user t s.toWorld).nodes
      | models op =>
          exact SharedCluster.models_preserved (nodes_preserved s.db.nodes) (fun _ _ same => same) op
            (w := s.toWorld) rfl

theorem Heard.of_nodes {db db' : Database} (h : Heard db) (same : db'.nodes = db.nodes) : Heard db' := by
  constructor
  case ips => exact same ▸ h.ips
  case beaten => exact same ▸ h.beaten

/-- The nodes table is a detector for each address. -/
theorem watches (retentionDays : Int) (ip : String) :
    Detector.Watches (exec retentionDays) (fun s => Heard s.db) (signal ip) fun s => opinion ip s.db := by
  have quiet : ∀ s op, (∀ env payload, op ≠ .cluster (.platform (.heartbeat env payload))) →
      (∀ sweep, op ≠ .cluster (.platform (.markOffline sweep))) → Heard s.db →
      Heard (exec retentionDays op s).db ∧ opinion ip (exec retentionDays op s).db = opinion ip s.db := by
    intro s op beat sweep h
    have same := nodes_step retentionDays op s beat sweep
    exact ⟨h.of_nodes same, by rw [opinion, opinion, same]⟩
  have step : ∀ s op, Heard s.db → Heard (exec retentionDays op s).db ∧
      opinion ip (exec retentionDays op s).db = hear (signal ip op s) (opinion ip s.db) := by
    intro s op h
    cases op with
    | collect now => exact quiet s _ (by simp) (by simp) h
    | cluster op =>
        cases op with
        | delete | models => exact quiet s _ (by simp) (by simp) h
        | platform op =>
            cases op with
            | heartbeat env payload =>
                simp only [exec, SharedCluster.exec, Platform.exec, signal]
                cases handled : handleHeartbeat env payload s.db with
                | none => simpa [hear] using h
                | some db' =>
                    refine ⟨heartbeat_heard h handled, ?_⟩
                    by_cases here : payload.ip = ip
                    · simp only [here, Option.isSome_some, and_self, if_true, hear]
                      exact here ▸ heartbeat_opinion h handled
                    · simp only [here, false_and, if_false, hear]
                      exact heartbeat_other h handled here
            | markOffline sweep => exact ⟨sweep_heard h sweep, sweep_opinion sweep s.db ip⟩
            | _ => exact quiet s _ (by simp) (by simp) h
  exact ⟨fun s op h => (step s op h).1, fun s op h => (step s op h).2⟩

theorem spares_iff {ip : String} {beat : Time} {s : State} {op : Op} :
    Detector.Spares beat (signal ip op s) ↔ Stands ip beat s op := by
  cases op with
  | collect now => exact Iff.rfl
  | cluster op =>
      cases op with
      | delete | models => exact Iff.rfl
      | platform op =>
          cases op with
          | heartbeat env payload =>
              simp only [signal, Stands]
              split
              · rename_i accepted
                obtain ⟨here, handled⟩ := accepted
                simp [Detector.Spares, here, Option.isSome_iff_ne_none.mp handled]
              · rename_i ignored
                simpa [Detector.Spares] using ignored
          | _ => exact Iff.rfl

theorem signal_beat {ip : String} {beat : Time} {s : State} {op : Op} :
    signal ip op s = some (.beat beat) ↔ ∃ env payload, op = .cluster (.platform (.heartbeat env payload)) ∧
      payload.ip = ip ∧ (handleHeartbeat env payload s.db).isSome = true ∧ stamp env payload = beat := by
  cases op with
  | collect now => simp [signal]
  | cluster op =>
      cases op with
      | delete | models => simp [signal]
      | platform op => cases op <;> simp [signal, and_assoc]

/-- At the end of any run a node is online if and only if some heartbeat of it was accepted
    and still stands. -/
theorem online_iff (retentionDays : Int) (ops : List Op) (ip : String) :
    Online ip (Runs.run (exec retentionDays) ops {}).db ↔
      ∃ before env payload after, ops = before ++ .cluster (.platform (.heartbeat env payload)) :: after ∧
        payload.ip = ip ∧ (handleHeartbeat env payload (Runs.run (exec retentionDays) before {}).db).isSome = true ∧
          Runs.Along (exec retentionDays) (Stands ip (stamp env payload)) after
            (Runs.run (exec retentionDays) (before ++ [.cluster (.platform (.heartbeat env payload))]) {}) := by
  have start : Heard ({} : State).db := by
    constructor
    case ips => exact List.nodup_nil
    case beaten =>
      intro node inside
      cases inside
  have watched := watches retentionDays ip
  rw [online_iff_trusted (Runs.run_invariant watched.kept ops start), watched.trusted_iff ops start rfl]
  simp only [Detector.Vouched, signal_beat, spares_iff, Runs.run_append]
  constructor
  · intro vouched
    obtain ⟨_, before, op, after, same, ⟨env, payload, rfl, here, handled, rfl⟩, stands⟩ := vouched
    exact ⟨before, env, payload, after, same, here, handled, stands⟩
  · intro vouched
    obtain ⟨before, env, payload, after, same, here, handled, stands⟩ := vouched
    exact ⟨_, before, _, after, same, ⟨env, payload, rfl, here, handled, rfl⟩, stands⟩

end SuitApi.Membership
