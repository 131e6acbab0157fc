import SuitApi.Platform

/-! # Priority and order in the queue

The lists serve the higher level first and each level in the order of submission.
A payload that cannot be placed is put back on the right, where it was, provided
that the list it is put back to is the one it came from.  `enqueue_task` writes no
priority into the payload, and `requeue` looks for one.
-/

namespace SuitApi

/-! ## The lists under pushes and pops -/

def QueueLevel.rank : QueueLevel → Nat
  | .high => 2
  | .normal => 1
  | .low => 0

namespace Queues

@[simp] theorem list_put_same (q : Queues) (level : QueueLevel) (elements : List RawPayload) :
    (q.put level elements).list level = elements := by
  cases level <;> rfl

theorem list_put_other (q : Queues) {level other : QueueLevel} (different : other ≠ level)
    (elements : List RawPayload) : (q.put level elements).list other = q.list other := by
  cases level <;> cases other <;> first | rfl | exact absurd rfl different

@[simp] theorem put_put (q : Queues) (level : QueueLevel) (first second : List RawPayload) :
    (q.put level first).put level second = q.put level second := by
  cases level <;> rfl

@[simp] theorem put_list (q : Queues) (level : QueueLevel) : q.put level (q.list level) = q := by
  cases level <;> rfl

theorem rpop_eq_some {q q' : Queues} {level : QueueLevel} {raw : RawPayload}
    (popped : q.rpop level = some (raw, q')) :
    ∃ rest, q.list level = rest ++ [raw] ∧ q' = q.put level rest := by
  obtain ⟨last, found, pair⟩ := Option.map_eq_some_iff.mp popped
  cases pair
  exact ⟨_, (List.dropLast_append_getLast? raw found).symm, rfl⟩

theorem rpop_eq_none {q : Queues} {level : QueueLevel} (popped : q.rpop level = none) :
    q.list level = [] := List.getLast?_eq_none_iff.mp (Option.map_eq_none_iff.mp popped)

/-- An element that is put back where it was popped restores the lists, and one that
    is put back elsewhere does not. -/
theorem rpush_rpop {q q' : Queues} {level : QueueLevel} {raw : RawPayload}
    (popped : q.rpop level = some (raw, q')) (target : QueueLevel) :
    q'.rpush target raw = q ↔ level = target := by
  obtain ⟨rest, whole, rfl⟩ := rpop_eq_some popped
  constructor
  · intro restored
    by_contra different
    have lists := congrArg (fun queues => (queues.list target).length) restored
    rw [rpush, list_put_same, list_put_other q (Ne.symm different)] at lists
    simp at lists
  · rintro rfl
    rw [rpush, list_put_same, put_put, ← whole, put_list]

end Queues

namespace QueueManager

/-- `dequeue` takes the rightmost payload of the highest list that is not empty. -/
theorem dequeue_spec {q : Queues} (decoded : ∀ level, ∀ raw ∈ q.list level, ∃ payload, raw = .json payload) :
    dequeue none q = (.nothing, q) ∨
      ∃ level payload q', dequeue none q = (.payload payload, q') ∧
        q.rpop level = some (.json payload, q') ∧
        ∀ higher : QueueLevel, level.rank < higher.rank → q.list higher = [] := by
  have head : ∀ level raw q', q.rpop level = some (raw, q') → ∃ payload, raw = .json payload := by
    intro level raw q' popped
    obtain ⟨rest, whole, _⟩ := Queues.rpop_eq_some popped
    exact decoded level raw (by rw [whole]; exact List.mem_append_right _ (List.mem_singleton_self raw))
  simp only [dequeue, dequeueFrom, reduceCtorEq, if_false]
  cases high : q.rpop .high with
  | some pair =>
      obtain ⟨payload, here⟩ := head .high pair.1 pair.2 high
      obtain ⟨raw, q'⟩ := pair
      subst here
      refine .inr ⟨.high, payload, q', rfl, high, fun higher above => ?_⟩
      cases higher <;> simp [QueueLevel.rank] at above
  | none =>
      have noHigh := Queues.rpop_eq_none high
      cases normal : q.rpop .normal with
      | some pair =>
          obtain ⟨payload, here⟩ := head .normal pair.1 pair.2 normal
          obtain ⟨raw, q'⟩ := pair
          subst here
          refine .inr ⟨.normal, payload, q', rfl, normal, fun higher above => ?_⟩
          cases higher with
          | high => exact noHigh
          | normal | low => simp [QueueLevel.rank] at above
      | none =>
          have noNormal := Queues.rpop_eq_none normal
          cases low : q.rpop .low with
          | some pair =>
              obtain ⟨payload, here⟩ := head .low pair.1 pair.2 low
              obtain ⟨raw, q'⟩ := pair
              subst here
              refine .inr ⟨.low, payload, q', rfl, low, fun higher above => ?_⟩
              cases higher with
              | high => exact noHigh
              | normal => exact noNormal
              | low => simp [QueueLevel.rank] at above
          | none => exact .inl rfl

end QueueManager

namespace QueueOrder

open QueueService (getQueueLevel)

/-! ## Submissions and scheduling -/

structure System extends World where
  /-- The tasks that `enqueue_task` has pushed, in order. -/
  order : List TaskId := []

inductive Op where
  | submit (enqueuedAt : String) (user : User) (t : TaskId)
  | schedule (env : Scheduler.Env)
  /-- Any operation of the platform that leaves the lists alone. -/
  | other (op : Platform.Op)
  /-- The nodes and GPUs become what they may. -/
  | surroundings (nodes : Table Node.id) (gpus : Table GpuDevice.slot)

def usesQueues : Platform.Op → Bool
  | .submit .. | .schedule _ | .queues _ => true
  | _ => false

/-- Every Redis command succeeds. -/
def undisturbed (env : Scheduler.Env) : Scheduler.Env := { env with popFault := none, pushFault := false }

def exec : Op → System → System
  | .submit enqueuedAt user t, s =>
      { toWorld := Platform.exec (.submit .none enqueuedAt user t) s.toWorld
        order :=
          if (TaskService.submitTask .none enqueuedAt user t s.toStore).1.isOk then s.order ++ [t] else s.order }
  | .schedule env, s => { s with toWorld := Platform.exec (.schedule (undisturbed env)) s.toWorld }
  | .other op, s => if usesQueues op then s else { s with toWorld := Platform.exec op s.toWorld }
  | .surroundings nodes gpus, s => { s with db := { s.db with nodes, gpus } }

/-- What `_schedule_one` decides about the payload it pops. -/
def nextPlan (env : Scheduler.Env) (s : System) : Scheduler.Plan :=
  Scheduler.plan (undisturbed env) s.db (QueueManager.dequeue none s.queues).1

/-- No queued task with a payload in the rest of the lists is on a higher level than
    the queued task whose payload was popped, or on its level and submitted earlier. -/
def FirstInLine (s : System) (popped : QueueManager.Popped × Queues) : Prop :=
  ∀ t task u other, popped.1.carries t = true → s.row t = some task → task.status = .queued →
    0 < popped.2.waiting u → s.row u = some other → other.status = .queued →
      ¬ (getQueueLevel task.priority).rank < (getQueueLevel other.priority).rank ∧
        ¬ (getQueueLevel other.priority = getQueueLevel task.priority ∧
          s.order.idxOf u < s.order.idxOf t)

/-- The pop is in order, and a payload that is put back restores the lists. -/
def Ordered (s : System) : Op → Prop
  | .schedule env =>
      FirstInLine s (QueueManager.dequeue none s.queues) ∧
        ∀ task fields priority, nextPlan env s = .requeue task fields priority →
          (exec (.schedule env) s).queues = s.queues
  | _ => True

/-- A task that is put back is on the normal level. -/
def RequeuesNormal (s : System) : Op → Prop
  | .schedule env =>
      ∀ task fields priority, nextPlan env s = .requeue task fields priority →
        getQueueLevel task.priority = .normal
  | _ => True

/-! ## What a step does to rows and lists -/

/-- A task keeps its priority, and does not become pending. -/
theorem row_kept (op : Platform.Op) {w : World} {t : TaskId} {task : Task} (found : w.row t = some task) :
    ∃ task', (Platform.exec op w).row t = some task' ∧ task'.priority = task.priority ∧
      (task.status ≠ .pending → task'.status ≠ .pending) := by
  obtain ⟨launched, step, _⟩ := Platform.exec_row op w t
  rw [World.row] at found ⊢
  rw [found] at step
  generalize (Platform.exec op w).db.tasks.get t = row at step
  cases step with
  | kept => exact ⟨task, rfl, rfl, id⟩
  | submitted => exact ⟨_, rfl, rfl, nofun⟩
  | cancelled => exact ⟨_, rfl, rfl, nofun⟩
  | calledBack now payload =>
      refine ⟨_, rfl, ?_, fun _ => ?_⟩
      · unfold TaskService.calledBack
        cases payload.status <;> rfl
      · rw [TaskService.calledBack_status]
        cases payload.status <;> nofun
  | started => exact ⟨_, rfl, rfl, nofun⟩
  | failed => exact ⟨_, rfl, rfl, nofun⟩
  | cleared => exact ⟨_, rfl, rfl, id⟩
  | lost => exact ⟨_, rfl, rfl, nofun⟩
  | billed => exact ⟨_, rfl, rfl, id⟩

theorem queues_kept {op : Platform.Op} (quiet : usesQueues op = false) (w : World) :
    (Platform.exec op w).queues = w.queues := by
  cases op with
  | submit | schedule | queues => cases quiet
  | create | finished | heartbeat | billing =>
      simp only [Platform.exec]
      split <;> rfl
  | cancel | callback | markOffline | container | remove => rfl

/-- A submission is refused, or it pushes the payload of a pending task on the list of
    its level. -/
theorem submitTask_spec (enqueuedAt : String) (user : User) (t : TaskId) (s : Store) :
    (∃ refusal, TaskService.submitTask .none enqueuedAt user t s = (.error refusal, s)) ∨
      ∃ task db, s.db.tasks.get t = some task ∧ task.status = .pending ∧
        db.tasks.get t = some (TaskService.submitted task) ∧
        TaskService.submitTask .none enqueuedAt user t s =
          (.ok (),
            { db
              queues := s.queues.lpush (getQueueLevel task.priority) (QueueService.payload t enqueuedAt) }) := by
  unfold TaskService.submitTask
  cases owned : TaskService.getOwnedTask s.db t user with
  | error refusal => exact .inl ⟨refusal, rfl⟩
  | ok task =>
      have found := TaskService.getOwnedTask_ok owned
      obtain rfl : task.id = t := Table.key_of_get found
      by_cases pending : task.status = .pending
      · have passed : TaskService.submitGuard task = .ok () := by simp [TaskService.submitGuard, pending]
        simp only [passed, QueueService.enqueueTask]
        refine .inr ⟨task, _, found, pending, ?_, rfl⟩
        rw [Database.addLog_tasks, Database.updateTask_get, if_pos rfl, found, Option.map_some]
      · left
        simp only [TaskService.submitGuard, ne_eq, pending, not_false_eq_true, if_true]
        exact ⟨_, rfl⟩

theorem submit_cases (enqueuedAt : String) (user : User) (t : TaskId) (s : System) :
    exec (.submit enqueuedAt user t) s = s ∨
      ∃ task, s.row t = some task ∧ task.status = .pending ∧
        (exec (.submit enqueuedAt user t) s).order = s.order ++ [t] ∧
        (exec (.submit enqueuedAt user t) s).row t = some (TaskService.submitted task) ∧
        (exec (.submit enqueuedAt user t) s).queues =
          s.queues.lpush (getQueueLevel task.priority) (QueueService.payload t enqueuedAt) := by
  rcases submitTask_spec enqueuedAt user t s.toStore with ⟨refusal, refused⟩ |
    ⟨task, db, found, pending, row, done⟩
  · left
    simp only [exec, Platform.exec, refused]
    rfl
  · right
    refine ⟨task, found, pending, ?_, ?_, ?_⟩
    · simp only [exec, done]
      rfl
    · simp only [exec, Platform.exec, done, World.row]
      exact row
    · simp only [exec, Platform.exec, done]

/-- The lists after `_schedule_one`: without the payload it has popped, unless that is
    put back. -/
theorem schedule_queues (env : Scheduler.Env) (s : System) :
    (exec (.schedule env) s).queues =
      match nextPlan env s with
      | .requeue _ fields priority =>
          QueueManager.requeue false fields priority (QueueManager.dequeue none s.queues).2
      | _ => (QueueManager.dequeue none s.queues).2 := by
  simp only [exec, Platform.exec, Platform.schedule, Scheduler.scheduleOne]
  cases planned : nextPlan env s with
  | ignored | raised | skipped | requeue | launch =>
      rw [nextPlan] at planned
      simp only [undisturbed] at planned ⊢
      simp only [planned]

/-! ## The lists in order -/

theorem carries_payload {t u : TaskId} {enqueuedAt : String} :
    (QueueService.payload t enqueuedAt).carries u = true ↔ u = t := by
  simp [QueueService.payload, RawPayload.carries, Payload.carries, Dict.get, eq_comm]

/-- The element is the payload of a submitted task of this level. -/
def Entry (s : System) (level : QueueLevel) (raw : RawPayload) : Prop :=
  ∃ t enqueuedAt task, raw = QueueService.payload t enqueuedAt ∧ t ∈ s.order ∧ s.row t = some task ∧
    getQueueLevel task.priority = level

/-- The task on the right was submitted earlier. -/
def Later (order : List TaskId) (left right : RawPayload) : Prop :=
  ∀ t u, left.carries t = true → right.carries u = true → order.idxOf u < order.idxOf t

structure Inv (s : System) : Prop where
  entries : ∀ level, ∀ raw ∈ s.queues.list level, Entry s level raw
  sorted : ∀ level, (s.queues.list level).Pairwise (Later s.order)
  submitted : ∀ t ∈ s.order, ∃ task, s.row t = some task ∧ task.status ≠ .pending

theorem inv_start (db : Database) : Inv { db } where
  entries level raw inside := by cases level <;> cases inside
  sorted level := by cases level <;> exact .nil
  submitted t inside := by cases inside

theorem Entry.level_of_row {s : System} {level : QueueLevel} {raw : RawPayload} (entry : Entry s level raw)
    {t : TaskId} (carried : raw.carries t = true) {task : Task} (found : s.row t = some task) :
    getQueueLevel task.priority = level := by
  obtain ⟨t', enqueuedAt, task', rfl, _, found', here⟩ := entry
  obtain rfl := carries_payload.mp carried
  rw [found] at found'
  cases found'
  exact here

theorem Inv.decoded {s : System} (h : Inv s) (level : QueueLevel) (raw : RawPayload)
    (inside : raw ∈ s.queues.list level) : ∃ payload, raw = .json payload := by
  obtain ⟨t, enqueuedAt, _, rfl, _⟩ := h.entries level raw inside
  exact ⟨_, rfl⟩

theorem Inv.first {s : System} (h : Inv s) : FirstInLine s (QueueManager.dequeue none s.queues) := by
  intro t task u other carried found _ waiting found' _
  rcases QueueManager.dequeue_spec h.decoded with none | ⟨level, payload, q', done, popped, higher⟩
  · rw [none] at carried
    cases carried
  · rw [done] at carried waiting
    obtain ⟨rest, whole, rfl⟩ := Queues.rpop_eq_some popped
    have last : RawPayload.json payload ∈ s.queues.list level := by
      rw [whole]
      exact List.mem_append_right _ (List.mem_singleton_self _)
    have taskLevel := (h.entries level _ last).level_of_row carried found
    obtain ⟨level', raw, inside, carried'⟩ := Queues.exists_of_waiting waiting
    by_cases same : level' = level
    · subst same
      rw [Queues.list_put_same] at inside
      have member : raw ∈ s.queues.list level' := by
        rw [whole]
        exact List.mem_append_left _ inside
      have otherLevel := (h.entries level' _ member).level_of_row carried' found'
      have sorted := h.sorted level'
      rw [whole, List.pairwise_append] at sorted
      have later := sorted.2.2 raw inside _ (List.mem_singleton_self _) u t carried' carried
      rw [taskLevel, otherLevel]
      exact ⟨lt_irrefl _, fun earlier => absurd earlier.2 (Nat.lt_asymm later)⟩
    · rw [Queues.list_put_other _ same] at inside
      have otherLevel := (h.entries level' _ inside).level_of_row carried' found'
      rw [taskLevel, otherLevel]
      refine ⟨fun above => ?_, fun earlier => same earlier.1⟩
      rw [higher level' above] at inside
      cases inside

/-- The payload names no priority, so it is put back on the normal list. -/
theorem Inv.restored_iff {s : System} (h : Inv s) {env : Scheduler.Env} {task : Task} {fields : Dict}
    {priority : Int} (planned : nextPlan env s = .requeue task fields priority) :
    (exec (.schedule env) s).queues = s.queues ↔ getQueueLevel task.priority = .normal := by
  have wrote := schedule_queues env s
  rw [planned] at wrote
  rw [wrote]
  rw [nextPlan] at planned
  rcases QueueManager.dequeue_spec h.decoded with none | ⟨level, payload, q', done, popped, _⟩
  · rw [none] at planned
    cases planned
  · obtain ⟨rest, whole, _⟩ := Queues.rpop_eq_some popped
    have last : RawPayload.json payload ∈ s.queues.list level := by
      rw [whole]
      exact List.mem_append_right _ (List.mem_singleton_self _)
    have entry := h.entries level _ last
    obtain ⟨t, enqueuedAt, row, here, _, _, _⟩ := id entry
    have carried : (QueueManager.Popped.payload payload).carries t = true := by
      have own : (RawPayload.json payload).carries t = true := by
        rw [here]
        exact carries_payload.mpr rfl
      exact own
    rw [done] at planned ⊢
    rcases @Scheduler.plan_text (undisturbed env) s.db _ t carried with ignored | ⟨fields', same, reached⟩
    · rw [ignored] at planned
      cases planned
    · rw [reached] at planned
      obtain ⟨found, rfl, value⟩ := Scheduler.planTask_requeue planned
      cases same
      cases here
      cases value
      rw [entry.level_of_row carried found]
      exact Queues.rpush_rpop popped .normal

theorem ordered_iff {s : System} (h : Inv s) (op : Op) : Ordered s op ↔ RequeuesNormal s op := by
  cases op with
  | schedule env =>
      constructor
      · rintro ⟨_, restored⟩ task fields priority planned
        exact (h.restored_iff planned).mp (restored task fields priority planned)
      · intro normal
        refine ⟨h.first, fun task fields priority planned => ?_⟩
        exact (h.restored_iff planned).mpr (normal task fields priority planned)
  | submit | other | surroundings => exact Iff.rfl

/-! ## The invariant along a run -/

/-- Rows that stay in the table with their priority, and lists that lose elements at
    most, keep the order. -/
theorem Inv.shrink {s s' : System} (h : Inv s)
    (rows : ∀ t task, s.row t = some task → ∃ task', s'.row t = some task' ∧
      task'.priority = task.priority ∧ (task.status ≠ .pending → task'.status ≠ .pending))
    (order : s'.order = s.order)
    (lists : ∀ level, (s'.queues.list level).Sublist (s.queues.list level)) : Inv s' where
  entries level raw inside := by
    obtain ⟨t, enqueuedAt, task, same, member, found, here⟩ :=
      h.entries level raw ((lists level).subset inside)
    obtain ⟨task', found', priority, _⟩ := rows t task found
    exact ⟨t, enqueuedAt, task', same, by rw [order]; exact member, found', by rw [priority]; exact here⟩
  sorted level := by
    rw [order]
    exact (h.sorted level).sublist (lists level)
  submitted t inside := by
    rw [order] at inside
    obtain ⟨task, found, left⟩ := h.submitted t inside
    obtain ⟨task', found', _, kept⟩ := rows t task found
    exact ⟨task', found', kept left⟩

theorem Inv.dequeue_sublist {s : System} (h : Inv s) (level : QueueLevel) :
    ((QueueManager.dequeue none s.queues).2.list level).Sublist (s.queues.list level) := by
  rcases QueueManager.dequeue_spec h.decoded with none | ⟨from_, payload, q', done, popped, _⟩
  · rw [none]
  · rw [done]
    obtain ⟨rest, whole, rfl⟩ := Queues.rpop_eq_some popped
    by_cases same : level = from_
    · subst same
      rw [Queues.list_put_same, whole]
      exact List.sublist_append_left rest _
    · rw [Queues.list_put_other _ same]

/-- A task that is submitted later leaves the waiting ones in their order. -/
theorem Inv.sorted_append {s : System} (h : Inv s) (t : TaskId) (level : QueueLevel) :
    (s.queues.list level).Pairwise (Later (s.order ++ [t])) := by
  refine (h.sorted level).imp_of_mem ?_
  intro left right inLeft inRight later u v carriedU carriedV
  obtain ⟨_, _, _, rfl, memberU, _⟩ := h.entries level left inLeft
  obtain ⟨_, _, _, rfl, memberV, _⟩ := h.entries level right inRight
  have before := later u v carriedU carriedV
  obtain rfl := carries_payload.mp carriedU
  obtain rfl := carries_payload.mp carriedV
  rw [List.idxOf_append_of_mem memberU, List.idxOf_append_of_mem memberV]
  exact before

theorem Inv.later_new {s : System} (h : Inv s) {t : TaskId} (outside : t ∉ s.order) (enqueuedAt : String)
    {level : QueueLevel} {raw : RawPayload} (inside : raw ∈ s.queues.list level) :
    Later (s.order ++ [t]) (QueueService.payload t enqueuedAt) raw := by
  intro u v carriedU carriedV
  obtain rfl := carries_payload.mp carriedU
  obtain ⟨_, _, _, rfl, member, _⟩ := h.entries level raw inside
  obtain rfl := carries_payload.mp carriedV
  rw [List.idxOf_append_of_notMem outside, List.idxOf_cons_self, Nat.add_zero, List.idxOf_append_of_mem member]
  exact List.idxOf_lt_length_iff.mpr member

/-- A submission puts the payload of a task that was never submitted on the left. -/
theorem Inv.submit {s s' : System} (h : Inv s) {t : TaskId} {task : Task} {enqueuedAt : String}
    (found : s.row t = some task) (pending : task.status = .pending)
    (order : s'.order = s.order ++ [t]) (row : s'.row t = some (TaskService.submitted task))
    (others : ∀ u, u ≠ t → s'.row u = s.row u)
    (pushed : s'.queues = s.queues.lpush (getQueueLevel task.priority) (QueueService.payload t enqueuedAt)) :
    Inv s' := by
  have fresh : ∀ u ∈ s.order, u ≠ t := by
    rintro u inside rfl
    obtain ⟨task', found', left⟩ := h.submitted u inside
    rw [found] at found'
    cases found'
    exact left pending
  have outside : t ∉ s.order := fun inside => fresh t inside rfl
  have old : ∀ level, ∀ raw ∈ s.queues.list level, Entry s' level raw := by
    intro level raw inside
    obtain ⟨u, at_, task', same, member, found', here⟩ := h.entries level raw inside
    refine ⟨u, at_, task', same, ?_, ?_, here⟩
    · rw [order]
      exact List.mem_append_left _ member
    · rw [others u (fresh u member)]
      exact found'
  constructor
  case entries =>
    intro level raw inside
    rw [pushed] at inside
    by_cases same : level = getQueueLevel task.priority
    · subst same
      rw [Queues.lpush, Queues.list_put_same, List.mem_cons] at inside
      rcases inside with rfl | inside
      · refine ⟨t, enqueuedAt, _, rfl, ?_, row, rfl⟩
        rw [order]
        exact List.mem_append_right _ (List.mem_singleton_self t)
      · exact old _ raw inside
    · rw [Queues.lpush, Queues.list_put_other _ same] at inside
      exact old level raw inside
  case sorted =>
    intro level
    rw [pushed, order]
    by_cases same : level = getQueueLevel task.priority
    · subst same
      rw [Queues.lpush, Queues.list_put_same, List.pairwise_cons]
      exact ⟨fun raw inside => h.later_new outside enqueuedAt inside, h.sorted_append t _⟩
    · rw [Queues.lpush, Queues.list_put_other _ same]
      exact h.sorted_append t level
  case submitted =>
    intro u inside
    rw [order, List.mem_append, List.mem_singleton] at inside
    rcases inside with inside | rfl
    · obtain ⟨task', found', left⟩ := h.submitted u inside
      exact ⟨task', (others u (fresh u inside)).trans found', left⟩
    · exact ⟨_, row, nofun⟩

theorem submit_others (enqueuedAt : String) (user : User) {t u : TaskId} (other : u ≠ t) (s : System) :
    (exec (.submit enqueuedAt user t) s).row u = s.row u := by
  simp only [exec, Platform.exec, World.row]
  rcases TaskService.submitTask_cases .none enqueuedAt user t s.toStore with same | ⟨_, _, _, wrote⟩
  · rw [same]
  · rw [wrote, Database.addLog_tasks, Database.updateTask_get, if_neg other]

theorem inv_step (s : System) (op : Op) (h : Inv s) (ordered : Ordered s op) : Inv (exec op s) := by
  cases op with
  | submit enqueuedAt user t =>
      rcases submit_cases enqueuedAt user t s with same | ⟨task, found, pending, order, row, pushed⟩
      · rw [same]
        exact h
      · exact h.submit found pending order row (fun u other => submit_others enqueuedAt user other s) pushed
  | schedule env =>
      refine h.shrink (fun t task found => row_kept _ found) rfl (fun level => ?_)
      have wrote := schedule_queues env s
      cases planned : nextPlan env s with
      | requeue task fields priority => rw [ordered.2 task fields priority planned]
      | ignored | raised | skipped | launch =>
          rw [planned] at wrote
          rw [wrote]
          exact h.dequeue_sublist level
  | other op =>
      rw [exec]
      split
      · exact h
      · rename_i quiet
        refine h.shrink (fun t task found => row_kept op found) rfl (fun level => ?_)
        rw [show (Platform.exec op s.toWorld).queues = s.queues from
          queues_kept (Bool.not_eq_true _ ▸ quiet) s.toWorld]
  | surroundings nodes gpus =>
      exact h.shrink (fun t task found => ⟨task, found, rfl, id⟩) rfl (fun level => .refl _)

/-- A run serves the levels strictly and each level in the order of submission, and puts
    payloads back where they were, exactly as long as it puts only normal tasks back. -/
theorem priority_order_iff (db : Database) (ops : List Op) :
    Runs.Along exec Ordered ops { db } ↔ Runs.Along exec RequeuesNormal ops { db } :=
  Runs.along_congr inv_step (fun _ op h => ordered_iff h op) (inv_start db)

/-! ## A high task on the normal list -/

def urgent (t : TaskId) : List Op :=
  [.other (.create t 0 Platform.Sample.user { Platform.Sample.payload with priority := 10 }),
    .submit "" Platform.Sample.user t]

def noNode : Scheduler.Env where
  agent := fun _ => { response := .error "unreachable" }

/-- Without a node the first high task lands on the normal list, and the second one is
    popped before it. -/
theorem later_task_served_first : ¬ ∀ (db : Database) (ops : List Op), Runs.Along exec Ordered ops { db } := by
  intro all
  have along : Runs.Along exec Ordered
      ((urgent "first" ++ .schedule noNode :: urgent "second") ++ .schedule noNode :: []) { db := {} } := all _ _
  obtain ⟨inLine, _⟩ := along.here
  have overtaken := inLine "second" _ "first" _ (by decide) rfl (by decide) (by decide) rfl (by decide)
  exact overtaken.2 (by decide)

end QueueOrder

end SuitApi
