import SuitApi.Lifecycle

/-! # Launches of unknown outcome

`_schedule_one` takes every exception of a launch for a launch that did not
happen.  The agent may have started the container and the answer was lost or came
too late, or the request is still with the agent, pulling the image, when the
client gives up.
-/

namespace SuitApi.LaunchFailure

open Platform (startedContainer)

/-! ## The channel between scheduler and agents -/

/-- A request the client has given up on, and the address it was sent to. -/
structure Pending where
  nodeIp : String
  request : RunRequest
  deriving Repr, DecidableEq

structure Channel extends World where
  /-- What the agents may still execute. -/
  inFlight : List Pending := []
  /-- The tasks marked failed by a launch, and the allocations released with them. -/
  failures : List (TaskId × Allocation) := []

inductive Op where
  | platform (op : Platform.Op)
  /-- An agent executes a request that the client no longer waits for. -/
  | execute (i : Nat) (id : ContainerId)
  | lose (i : Nat)

/-- The request of a launch, unless the agent has executed it already. -/
def unexecuted (env : Scheduler.Env) : Task × Allocation × AgentRun → Option Pending
  | (task, a, run) =>
      if run.started.isSome then none
      else (truthyText task.containerImage).map fun image =>
        ⟨a.nodeIp, ContainerManager.request env.settings task a image⟩

/-- The task and the allocation of a launch that is taken for failed. -/
def failed : Task × Allocation × AgentRun → Option (TaskId × Allocation)
  | (task, a, run) => if (Scheduler.accepted run).isOk then none else some (task.id, a)

def schedule (env : Scheduler.Env) (s : Channel) : Channel :=
  let launched := (Scheduler.scheduleOne env s.toStore).launched
  { toWorld := Platform.schedule env s.toWorld
    inFlight := s.inFlight ++ (launched.bind (unexecuted env)).toList
    failures := s.failures ++ (launched.bind failed).toList }

def exec : Op → Channel → Channel
  | .platform (.schedule env), s => schedule env s
  | .platform op, s => { s with toWorld := Platform.exec op s.toWorld }
  | .execute i id, s =>
      match s.inFlight[i]? with
      | some ⟨nodeIp, request⟩ =>
          { s with
            containers := s.containers ++ [ContainerTracker.runContainer nodeIp id request]
            inFlight := s.inFlight.eraseIdx i }
      | none => s
  | .lose i, s => { s with inFlight := s.inFlight.eraseIdx i }

/-- The container runs for the task on one of the GPUs of the allocation. -/
def Occupies (c : Container) (t : TaskId) (a : Allocation) : Prop :=
  c.alive = true ∧ c.taskId = some t ∧ c.nodeIp = a.nodeIp ∧ ∃ index ∈ c.gpuIndices, index ∈ a.gpuIndices

/-- No GPU that a failed launch has released carries a container of that task. -/
def Vacated (s : Channel) : Prop :=
  ∀ failure ∈ s.failures, ∀ c ∈ s.containers, ¬ Occupies c failure.1 failure.2

/-- A launch on GPUs that ends in an exception was not executed, and is not executed
    later. -/
def Unexecuted (s : Channel) : Op → Prop
  | .platform (.schedule env) =>
      ∀ task a, Scheduler.plan env s.db (QueueManager.dequeue env.popFault s.queues).1 = .launch task a →
        a.gpuIndices ≠ [] →
        (Scheduler.accepted (ContainerManager.launch env.settings env.agent task a)).isOk = false →
        (ContainerManager.launch env.settings env.agent task a).started = none
  | .execute i _ =>
      ∀ pending, s.inFlight[i]? = some pending → pending.request.gpus ≠ [] →
        pending.request.taskId ∉ s.failures.map Prod.fst
  | _ => True

/-! ## Who was launched -/

/-- Failures, open requests and containers belong to launched tasks; the open request of
    a failed task asks for the GPUs its failure has released. -/
structure Inv (s : Channel) : Prop where
  vacated : Vacated s
  once : ∀ t, Lifecycle.AtMostOnce t s.toWorld
  failures : ∀ failure ∈ s.failures, failure.1 ∈ s.launches
  inFlight : ∀ pending ∈ s.inFlight, pending.request.taskId ∈ s.launches
  containers : ∀ c ∈ s.containers, ∀ t, c.taskId = some t → t ∈ s.launches
  alike : ∀ pending ∈ s.inFlight, ∀ failure ∈ s.failures, pending.request.taskId = failure.1 →
    pending.nodeIp = failure.2.nodeIp ∧ pending.request.gpus = failure.2.gpuIndices

theorem inv_start (store : Store) : Inv { toStore := store } where
  vacated failure inside := by cases inside
  once t := .inl rfl
  failures failure inside := by cases inside
  inFlight pending inside := by cases inside
  containers c inside := by cases inside
  alike pending inside := by cases inside

/-- A launch is the first one of its task. -/
theorem Inv.fresh {s : Channel} (h : Inv s) {env : Scheduler.Env} {task : Task} {a : Allocation}
    (planned : Scheduler.plan env s.db (QueueManager.dequeue env.popFault s.queues).1 = .launch task a) :
    task.id ∉ s.launches := by
  obtain ⟨found, queued, _⟩ := Scheduler.plan_launch planned
  exact (h.once task.id).not_launched found queued

/-! ## One step -/

/-- Only a launch adds to the launched tasks. -/
theorem launches_step (op : Platform.Op) (w : World) {t : TaskId} (inside : t ∈ w.launches) :
    t ∈ (Platform.exec op w).launches := by
  obtain ⟨launched, _, count⟩ := Platform.exec_row op w t
  have before := List.count_pos_iff.mpr inside
  exact List.count_pos_iff.mp (by omega)

/-- Outside of launches, containers only end. -/
theorem containers_step {op : Platform.Op} (other : ∀ env, op ≠ .schedule env) (w : World) {c : Container}
    (inside : c ∈ (Platform.exec op w).containers) :
    ∃ old ∈ w.containers, c.taskId = old.taskId ∧ c.nodeIp = old.nodeIp ∧ c.gpuIndices = old.gpuIndices ∧
      (c.alive = true → old.alive = true) := by
  cases op with
  | schedule env => exact absurd rfl (other env)
  | container id status =>
      obtain ⟨old, member, rfl⟩ := List.mem_map.mp inside
      refine ⟨old, member, ?_⟩
      unfold Platform.setStatus
      split
      · rename_i matched
        exact ⟨rfl, rfl, rfl, fun _ => matched.2⟩
      · exact ⟨rfl, rfl, rfl, fun lives => lives⟩
  | remove id => exact ⟨c, List.mem_of_mem_filter inside, rfl, rfl, rfl, fun lives => lives⟩
  | create | heartbeat | billing | finished =>
      simp only [Platform.exec] at inside
      split at inside <;> exact ⟨c, inside, rfl, rfl, rfl, id⟩
  | submit | cancel | callback | markOffline | queues => exact ⟨c, inside, rfl, rfl, rfl, id⟩

/-- A step of the platform other than a launch. -/
theorem Inv.quiet {s : Channel} (h : Inv s) {op : Platform.Op} (other : ∀ env, op ≠ .schedule env) :
    Inv { s with toWorld := Platform.exec op s.toWorld } where
  vacated failure inside c member occupies := by
    obtain ⟨alive, label, address, index, listed, released⟩ := occupies
    obtain ⟨old, before, sameTask, sameNode, sameGpus, lived⟩ := containers_step other s.toWorld member
    refine h.vacated failure inside old before ⟨lived alive, ?_, ?_, index, ?_, released⟩
    · rw [← sameTask, label]
    · rw [← sameNode, address]
    · rw [← sameGpus]
      exact listed
  once t := Lifecycle.atMostOnce_step t s.toWorld op (h.once t)
  failures failure inside := launches_step op s.toWorld (h.failures failure inside)
  inFlight pending inside := launches_step op s.toWorld (h.inFlight pending inside)
  containers c inside t label := by
    obtain ⟨old, before, sameTask, _⟩ := containers_step other s.toWorld inside
    exact launches_step op s.toWorld (h.containers old before t (by rw [← sameTask, label]))
  alike := h.alike

/-- A call that launches nothing. -/
theorem schedule_quiet {env : Scheduler.Env} {s : Channel}
    (quiet : (Scheduler.scheduleOne env s.toStore).launched = none) :
    (schedule env s).failures = s.failures ∧ (schedule env s).inFlight = s.inFlight ∧
      (schedule env s).containers = s.containers ∧ (schedule env s).launches = s.launches := by
  simp [schedule, Platform.schedule, quiet]

/-- What a launch adds to the channel. -/
theorem schedule_launch {env : Scheduler.Env} {s : Channel} {task : Task} {a : Allocation} {run : AgentRun}
    (launched : (Scheduler.scheduleOne env s.toStore).launched = some (task, a, run)) :
    (schedule env s).failures = s.failures ++ (failed (task, a, run)).toList ∧
      (schedule env s).inFlight = s.inFlight ++ (unexecuted env (task, a, run)).toList ∧
      (schedule env s).containers = s.containers ++ (startedContainer env (task, a, run)).toList ∧
      (schedule env s).launches = s.launches ++ [task.id] := by
  simp [schedule, Platform.schedule, launched]

theorem mem_failed {task : Task} {a : Allocation} {run : AgentRun} {failure : TaskId × Allocation}
    (inside : failure ∈ (failed (task, a, run)).toList) :
    failure = (task.id, a) ∧ (Scheduler.accepted run).isOk = false := by
  cases answered : (Scheduler.accepted run).isOk with
  | true => simp [failed, answered] at inside
  | false =>
      simp only [failed, answered, Bool.false_eq_true, if_false, Option.toList_some, List.mem_singleton] at inside
      exact ⟨inside, rfl⟩

theorem mem_unexecuted {env : Scheduler.Env} {task : Task} {a : Allocation} {run : AgentRun} {pending : Pending}
    (inside : pending ∈ (unexecuted env (task, a, run)).toList) :
    pending.nodeIp = a.nodeIp ∧ pending.request.taskId = task.id ∧ pending.request.gpus = a.gpuIndices := by
  rw [Option.mem_toList, unexecuted] at inside
  split at inside
  · cases inside
  · obtain ⟨image, _, rfl⟩ := Option.map_eq_some_iff.mp inside
    exact ⟨rfl, rfl, rfl⟩

theorem mem_startedContainer {env : Scheduler.Env} {task : Task} {a : Allocation} {run : AgentRun} {c : Container}
    (inside : c ∈ (startedContainer env (task, a, run)).toList) :
    run.started.isSome = true ∧ c.alive = true ∧ c.taskId = some task.id ∧ c.nodeIp = a.nodeIp ∧
      c.gpuIndices = a.gpuIndices := by
  rw [Option.mem_toList] at inside
  obtain ⟨id, started, rfl⟩ := Option.map_eq_some_iff.mp inside
  exact ⟨by rw [started]; rfl, rfl, rfl, rfl, rfl⟩

/-- What a launch does to the released GPUs: the new failure carries a container exactly
    when the agent has executed the request. -/
theorem Inv.vacated_schedule_iff {s : Channel} (h : Inv s) {env : Scheduler.Env} {task : Task} {a : Allocation}
    (planned : Scheduler.plan env s.db (QueueManager.dequeue env.popFault s.queues).1 = .launch task a) :
    Vacated (schedule env s) ↔
      (a.gpuIndices ≠ [] →
        (Scheduler.accepted (ContainerManager.launch env.settings env.agent task a)).isOk = false →
        (ContainerManager.launch env.settings env.agent task a).started = none) := by
  have launched := Scheduler.launched_eq_some.mpr ⟨planned, rfl⟩
  have fresh := h.fresh planned
  generalize ContainerManager.launch env.settings env.agent task a = run at launched
  obtain ⟨failures, _, containers, _⟩ := schedule_launch launched
  constructor
  · intro vacated used refused
    by_contra executed
    obtain ⟨id, started⟩ := Option.ne_none_iff_exists'.mp executed
    obtain ⟨index, listed⟩ := List.exists_mem_of_ne_nil _ used
    refine vacated (task.id, a) ?_ (ContainerTracker.runContainer a.nodeIp id
      (ContainerManager.request env.settings task a (task.containerImage.getD ""))) ?_
      ⟨rfl, rfl, rfl, index, listed, listed⟩
    · simp [failures, failed, refused]
    · simp [containers, startedContainer, started]
  · intro unexecuted failure inside c member occupies
    obtain ⟨alive, label, address, index, listed, released⟩ := occupies
    rw [failures, List.mem_append] at inside
    rw [containers, List.mem_append] at member
    rcases inside with old | new
    · rcases member with before | started
      · exact h.vacated failure old c before ⟨alive, label, address, index, listed, released⟩
      · obtain ⟨_, _, label', _⟩ := mem_startedContainer started
        rw [label, Option.some.injEq] at label'
        exact fresh (label' ▸ h.failures failure old)
    · obtain ⟨rfl, refused⟩ := mem_failed new
      rcases member with before | started
      · exact fresh (h.containers c before task.id label)
      · obtain ⟨executed, _, _, _, gpus⟩ := mem_startedContainer started
        rw [unexecuted (List.ne_nil_of_mem released) refused] at executed
        cases executed

theorem Inv.launch {s : Channel} (h : Inv s) (env : Scheduler.Env) (vacated : Vacated (schedule env s)) :
    Inv (schedule env s) := by
  have once := fun t => Lifecycle.atMostOnce_step t s.toWorld (.schedule env) (h.once t)
  cases launched : (Scheduler.scheduleOne env s.toStore).launched with
  | none =>
      obtain ⟨failures, inFlight, containers, launches⟩ := schedule_quiet launched
      refine ⟨vacated, once, ?_, ?_, ?_, ?_⟩
      · rw [failures, launches]
        exact h.failures
      · rw [inFlight, launches]
        exact h.inFlight
      · rw [containers, launches]
        exact h.containers
      · rw [inFlight, failures]
        exact h.alike
  | some call =>
      obtain ⟨task, a, run⟩ := call
      have fresh := h.fresh (Scheduler.launched_eq_some.mp launched).1
      obtain ⟨failures, inFlight, containers, launches⟩ := schedule_launch launched
      have here : task.id ∈ (schedule env s).launches := by simp [launches]
      have kept : ∀ t ∈ s.launches, t ∈ (schedule env s).launches := by
        intro t inside
        simp [launches, inside]
      refine ⟨vacated, once, ?_, ?_, ?_, ?_⟩
      · intro failure inside
        rw [failures, List.mem_append] at inside
        rcases inside with old | new
        · exact kept _ (h.failures failure old)
        · rw [(mem_failed new).1]
          exact here
      · intro pending inside
        rw [inFlight, List.mem_append] at inside
        rcases inside with old | new
        · exact kept _ (h.inFlight pending old)
        · rw [(mem_unexecuted new).2.1]
          exact here
      · intro c inside t label
        rw [containers, List.mem_append] at inside
        rcases inside with old | new
        · exact kept t (h.containers c old t label)
        · rw [(mem_startedContainer new).2.2.1, Option.some.injEq] at label
          exact label ▸ here
      · intro pending inside failure member same
        rw [inFlight, List.mem_append] at inside
        rw [failures, List.mem_append] at member
        rcases inside with old | new <;> rcases member with old' | new'
        · exact h.alike pending old failure old' same
        · obtain ⟨rfl, _⟩ := mem_failed new'
          have launchedBefore := h.inFlight pending old
          rw [same] at launchedBefore
          exact absurd launchedBefore fresh
        · rw [(mem_unexecuted new).2.1] at same
          have launchedBefore := h.failures failure old'
          rw [← same] at launchedBefore
          exact absurd launchedBefore fresh
        · rw [(mem_failed new').1]
          exact ⟨(mem_unexecuted new).1, (mem_unexecuted new).2.2⟩

/-- A late execution puts a container on released GPUs exactly when its task has failed. -/
theorem Inv.vacated_execute_iff {s : Channel} (h : Inv s) {i : Nat} {pending : Pending} (id : ContainerId)
    (waiting : s.inFlight[i]? = some pending) :
    Vacated (exec (.execute i id) s) ↔
      (pending.request.gpus ≠ [] → pending.request.taskId ∉ s.failures.map Prod.fst) := by
  obtain ⟨nodeIp, request⟩ := pending
  have inside := List.mem_of_getElem? waiting
  simp only [exec, waiting, Vacated]
  constructor
  · intro vacated used failed
    obtain ⟨failure, member, same⟩ := List.mem_map.mp failed
    obtain ⟨address, gpus⟩ := h.alike _ inside failure member same.symm
    obtain ⟨index, listed⟩ := List.exists_mem_of_ne_nil _ used
    refine vacated failure member (ContainerTracker.runContainer nodeIp id request) (by simp) ?_
    refine ⟨rfl, ?_, address, index, listed, ?_⟩
    · rw [same]
      rfl
    · rw [← gpus]
      exact listed
  · intro unfailed failure member c container occupies
    rw [List.mem_append, List.mem_singleton] at container
    rcases container with old | rfl
    · exact h.vacated failure member c old occupies
    · obtain ⟨_, label, _, index, listed, _⟩ := occupies
      refine unfailed (List.ne_nil_of_mem listed) (List.mem_map.mpr ⟨failure, member, ?_⟩)
      exact (Option.some.inj label).symm

theorem Inv.execute {s : Channel} (h : Inv s) (i : Nat) (id : ContainerId)
    (vacated : Vacated (exec (.execute i id) s)) : Inv (exec (.execute i id) s) := by
  cases waiting : s.inFlight[i]? with
  | none =>
      simp only [exec, waiting]
      exact h
  | some pending =>
      obtain ⟨nodeIp, request⟩ := pending
      simp only [exec, waiting] at vacated ⊢
      refine ⟨vacated, h.once, h.failures, ?_, ?_, ?_⟩
      · exact fun pending inside => h.inFlight pending ((List.eraseIdx_sublist _ _).subset inside)
      · intro c inside t label
        rw [List.mem_append, List.mem_singleton] at inside
        rcases inside with old | rfl
        · exact h.containers c old t label
        · rw [← Option.some.inj label]
          exact h.inFlight _ (List.mem_of_getElem? waiting)
      · exact fun pending inside => h.alike pending ((List.eraseIdx_sublist _ _).subset inside)

theorem exec_platform {op : Platform.Op} (other : ∀ env, op ≠ .schedule env) (s : Channel) :
    exec (.platform op) s = { s with toWorld := Platform.exec op s.toWorld } := by
  cases op with
  | schedule env => exact absurd rfl (other env)
  | _ => rfl

theorem inv_step (s : Channel) (op : Op) (h : Inv s) (vacated : Vacated (exec op s)) : Inv (exec op s) := by
  cases op with
  | platform op =>
      by_cases launching : ∃ env, op = .schedule env
      · obtain ⟨env, rfl⟩ := launching
        exact h.launch env vacated
      · have other : ∀ env, op ≠ .schedule env := fun env same => launching ⟨env, same⟩
        rw [exec_platform other]
        exact h.quiet other
  | execute i id => exact h.execute i id vacated
  | lose i =>
      refine ⟨h.vacated, h.once, h.failures, ?_, h.containers, ?_⟩
      · exact fun pending inside => h.inFlight pending ((List.eraseIdx_sublist _ _).subset inside)
      · exact fun pending inside => h.alike pending ((List.eraseIdx_sublist _ _).subset inside)

theorem vacated_iff (s : Channel) (op : Op) (h : Inv s) : Vacated (exec op s) ↔ Unexecuted s op := by
  cases op with
  | platform op =>
      by_cases launching : ∃ env, op = .schedule env
      · obtain ⟨env, rfl⟩ := launching
        constructor
        · intro vacated task a planned
          exact (h.vacated_schedule_iff planned).mp vacated
        · intro unexecuted
          cases launched : (Scheduler.scheduleOne env s.toStore).launched with
          | none =>
              obtain ⟨failures, _, containers, _⟩ := schedule_quiet launched
              simp only [exec, Vacated, failures, containers]
              exact h.vacated
          | some call =>
              obtain ⟨task, a, run⟩ := call
              have planned := (Scheduler.launched_eq_some.mp launched).1
              exact (h.vacated_schedule_iff planned).mpr (unexecuted task a planned)
      · have other : ∀ env, op ≠ .schedule env := fun env same => launching ⟨env, same⟩
        rw [exec_platform other]
        refine iff_of_true (h.quiet other).vacated ?_
        cases op with
        | schedule env => exact absurd rfl (other env)
        | _ => trivial
  | execute i id =>
      cases waiting : s.inFlight[i]? with
      | none => simpa [exec, Unexecuted, waiting] using h.vacated
      | some pending =>
          rw [h.vacated_execute_iff id waiting]
          simp only [Unexecuted, waiting, Option.some.injEq, forall_eq']
  | lose i => exact iff_of_true h.vacated trivial

/-- The GPUs that failed launches have released carry no container of the task, at any
    time, exactly as long as no agent executes the request of a launch that was taken for
    a failure. -/
theorem released_gpus_vacated_iff (store : Store) (ops : List Op) :
    Runs.Along exec (fun s op => Vacated (exec op s)) ops { toStore := store } ↔
      Runs.Along exec Unexecuted ops { toStore := store } :=
  Runs.along_congr inv_step (fun s op h => vacated_iff s op h) (inv_start store)

/-! ## An answer that is lost -/

/-- The agent starts the container, and the client runs into its timeout. -/
def timedOut : Scheduler.Env where
  agent := fun _ => { started := some "c", response := .error "timed out" }

theorem started_and_failed : ¬ ∀ (store : Store) (ops : List Op),
    Runs.Along exec (fun s op => Vacated (exec op s)) ops { toStore := store } := by
  intro all
  have along : Runs.Along exec (fun s op => Vacated (exec op s))
      ([.platform (Platform.Sample.beat 0 []),
        .platform (.create "t" 0 Platform.Sample.user Platform.Sample.payload),
        .platform (.submit .none "" Platform.Sample.user "t")] ++
          .platform (.schedule timedOut) :: []) { toStore := {} } := all _ _
  have vacated := along.here
  exact vacated _ (List.mem_singleton_self _) _ (List.mem_singleton_self _)
    ⟨rfl, rfl, rfl, 0, by decide, by decide⟩

end SuitApi.LaunchFailure
