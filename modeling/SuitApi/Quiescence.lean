import SuitApi.Wire

/-! # The scheduler on its own

What the main loop does while nothing else happens: it works the lists off, or comes to
stand behind one task that fits on no node.
-/

namespace SuitApi.Quiescence

open QueueOrder (undisturbed)

/-- One turn of the main loop, the commands of Redis succeeding. -/
def turn (env : Scheduler.Env) (w : World) : World := Platform.schedule (undisturbed env) w

/-- What is decoded of a payload of `enqueue_task`. -/
abbrev fields (t : TaskId) (enqueuedAt : String) : Dict := [("task_id", .str t), ("enqueued_at", .str enqueuedAt)]

/-- Every element was written by `enqueue_task`. -/
def Submitted (q : Queues) : Prop :=
  ∀ level, ∀ raw ∈ q.list level, ∃ t enqueuedAt, raw = QueueService.payload t enqueuedAt

/-- The turns that the lists can still take; a payload of the outer lists that is put back
    comes to the normal one. -/
def weight (q : Queues) : Nat := 2 * q.high.length + q.normal.length + 2 * q.low.length

/-- The task is queued, and no node has room for it. -/
structure Waits (db : Database) (t : TaskId) (task : Task) : Prop where
  named : t ≠ ""
  found : db.tasks.get t = some task
  queued : task.status = .queued
  noRoom : GpuAllocator.select db task (Scheduler.getOnlineNodes db) = none

/-- The payload that is first in line is on the normal list, and its task waits. -/
structure Blocked (w : World) (t : TaskId) (task : Task) : Prop where
  high : w.queues.high = []
  first : ∃ rest enqueuedAt, w.queues.normal = rest ++ [QueueService.payload t enqueuedAt]
  waits : Waits w.db t task

inductive Quiet (w : World) : Prop where
  | empty (none : ∀ level, w.queues.list level = [])
  | blocked (t : TaskId) (task : Task) (here : Blocked w t task)

/-! ## What a turn pops -/

theorem Submitted.decoded {q : Queues} (h : Submitted q) :
    ∀ level, ∀ raw ∈ q.list level, ∃ payload, raw = .json payload := by
  intro level raw inside
  obtain ⟨t, enqueuedAt, rfl⟩ := h level raw inside
  exact ⟨_, rfl⟩

theorem dequeueFrom_nothing {q : Queues}
    (decoded : ∀ level, ∀ raw ∈ q.list level, ∃ payload, raw = .json payload) (levels : List QueueLevel)
    (nothing : QueueManager.dequeueFrom none levels q = (.nothing, q)) :
    ∀ level ∈ levels, q.list level = [] := by
  induction levels with
  | nil =>
      intro level inside
      cases inside
  | cons first others ih =>
      rw [QueueManager.dequeueFrom, if_neg (by grind)] at nothing
      cases popped : q.rpop first with
      | none =>
          rw [popped] at nothing
          intro level inside
          rcases List.mem_cons.mp inside with rfl | later
          · exact Queues.rpop_eq_none popped
          · exact ih nothing level later
      | some pair =>
          obtain ⟨raw, q'⟩ := pair
          obtain ⟨rest, whole, _⟩ := Queues.rpop_eq_some popped
          obtain ⟨payload, rfl⟩ := decoded first raw (by
            rw [whole]
            exact List.mem_append_right _ (List.mem_singleton_self _))
          rw [popped] at nothing
          cases nothing

/-- `dequeue` finds nothing in empty lists only; else it takes the last element of one of
    them, those above it being empty. -/
theorem dequeue_submitted {q : Queues} (h : Submitted q) :
    ((∀ level, q.list level = []) ∧ QueueManager.dequeue none q = (.nothing, q)) ∨
      ∃ level t enqueuedAt rest, q.list level = rest ++ [QueueService.payload t enqueuedAt] ∧
        (∀ higher : QueueLevel, level.rank < higher.rank → q.list higher = []) ∧
        QueueManager.dequeue none q = (.payload (.object (fields t enqueuedAt)), q.put level rest) := by
  rcases QueueManager.dequeue_spec h.decoded with nothing | ⟨level, payload, q', done, popped, higher⟩
  · left
    refine ⟨fun level => ?_, nothing⟩
    apply dequeueFrom_nothing h.decoded [.high, .normal, .low] nothing
    cases level <;> decide
  · right
    obtain ⟨rest, whole, rfl⟩ := Queues.rpop_eq_some popped
    obtain ⟨t, enqueuedAt, same⟩ := h level (.json payload) (by
      rw [whole]
      exact List.mem_append_right _ (List.mem_singleton_self _))
    rw [same] at whole
    cases same
    exact ⟨level, t, enqueuedAt, rest, whole, higher, done⟩

/-! ## What a turn leaves -/

theorem turn_queues (env : Scheduler.Env) (w : World) :
    (turn env w).queues =
      match Scheduler.plan (undisturbed env) w.db (QueueManager.dequeue none w.queues).1 with
      | .requeue _ fields priority =>
          QueueManager.requeue false fields priority (QueueManager.dequeue none w.queues).2
      | _ => (QueueManager.dequeue none w.queues).2 :=
  QueueOrder.schedule_queues env { toWorld := w }

theorem plan_fields (env : Scheduler.Env) (db : Database) (t : TaskId) (enqueuedAt : String) :
    Scheduler.plan env db (.payload (.object (fields t enqueuedAt))) =
      if t = "" then .ignored else Scheduler.planTask db (fields t enqueuedAt) t := by
  have looked : Dict.get (fields t enqueuedAt) "task_id" = some (.str t) := rfl
  simp only [Scheduler.plan, looked]
  by_cases named : t = ""
  · simp [Value.truthy, named]
  · simp [Value.truthy, named]

theorem plan_waits {db : Database} {t : TaskId} {task : Task} (waits : Waits db t task) (env : Scheduler.Env)
    (enqueuedAt : String) :
    Scheduler.plan env db (.payload (.object (fields t enqueuedAt))) =
      .requeue task (fields t enqueuedAt) 0 := by
  have priority : QueueManager.requeuePriority (fields t enqueuedAt) = some 0 := rfl
  simp only [plan_fields, if_neg waits.named, Scheduler.planTask, waits.found, if_pos waits.queued, waits.noRoom,
    priority]

theorem waits_of_plan {env : Scheduler.Env} {db : Database} {t : TaskId} {enqueuedAt : String} {task : Task}
    {others : Dict} {priority : Int}
    (planned : Scheduler.plan env db (.payload (.object (fields t enqueuedAt))) = .requeue task others priority) :
    Waits db t task := by
  rw [plan_fields] at planned
  split at planned
  · cases planned
  · rename_i named
    unfold Scheduler.planTask at planned
    split at planned
    · cases planned
    · rename_i row found
      split at planned
      · rename_i queued
        split at planned
        · cases planned
        · rename_i chosen
          split at planned
          · cases planned
            exact ⟨named, found, queued, chosen⟩
          · cases planned
      · cases planned

theorem submitted_put {q : Queues} (h : Submitted q) {level : QueueLevel} {elements : List RawPayload}
    (known : ∀ raw ∈ elements,
      raw ∈ q.list level ∨ ∃ t enqueuedAt, raw = QueueService.payload t enqueuedAt) :
    Submitted (q.put level elements) := by
  intro other raw inside
  by_cases same : other = level
  · subst same
    rw [Queues.list_put_same] at inside
    exact (known raw inside).elim (h other raw) id
  · rw [Queues.list_put_other q same] at inside
    exact h other raw inside

theorem weight_put (q : Queues) (level : QueueLevel) (elements : List RawPayload) :
    weight (q.put level elements) + (if level = .normal then 1 else 2) * (q.list level).length =
      weight q + (if level = .normal then 1 else 2) * elements.length := by
  cases level <;> simp only [weight, Queues.put, Queues.list, reduceCtorEq, if_true, if_false] <;> omega

theorem dequeue_blocked {w : World} {t : TaskId} {task : Task} (here : Blocked w t task) :
    ∃ rest enqueuedAt, w.queues.normal = rest ++ [QueueService.payload t enqueuedAt] ∧
      QueueManager.dequeue none w.queues = (.payload (.object (fields t enqueuedAt)), w.queues.put .normal rest) := by
  obtain ⟨rest, enqueuedAt, whole⟩ := here.first
  refine ⟨rest, enqueuedAt, whole, ?_⟩
  have high : w.queues.rpop .high = none := by rw [Queues.rpop, Queues.list, here.high]; rfl
  have normal : w.queues.rpop .normal = some (QueueService.payload t enqueuedAt, w.queues.put .normal rest) := by
    rw [Queues.rpop, Queues.list, whole, List.getLast?_concat, List.dropLast_concat, Option.map_some]
  simp only [QueueManager.dequeue, QueueManager.dequeueFrom, reduceCtorEq, if_false, high, normal,
    QueueService.payload]

/-- The first payload of a blocked world goes back to where it was. -/
theorem turn_blocked (env : Scheduler.Env) {w : World} {t : TaskId} {task : Task} (here : Blocked w t task) :
    ∃ taskLogs, turn env w = { w with db := { w.db with taskLogs } } := by
  obtain ⟨rest, enqueuedAt, whole, popped⟩ := dequeue_blocked here
  have planned := plan_waits here.waits (undisturbed env) enqueuedAt
  have restored : QueueManager.requeue false (fields t enqueuedAt) 0 (w.queues.put .normal rest) = w.queues := by
    have back : QueueManager.requeue false (fields t enqueuedAt) 0 (w.queues.put .normal rest) =
        (w.queues.put .normal rest).rpush .normal (QueueService.payload t enqueuedAt) := rfl
    have list : w.queues.list .normal = rest ++ [QueueService.payload t enqueuedAt] := whole
    rw [back, Queues.rpush, Queues.list_put_same, Queues.put_put, ← list, Queues.put_list]
  have undone : (undisturbed env).popFault = none := rfl
  have done : (undisturbed env).pushFault = false := rfl
  simp only [turn, Platform.schedule, Scheduler.scheduleOne, undone, popped, planned, done, restored]
  exact ⟨_, by simp [Database.addLog]; rfl⟩

theorem turn_empty (env : Scheduler.Env) {w : World} (none : ∀ level, w.queues.list level = []) :
    turn env w = w := by
  have nothing : QueueManager.dequeue (undisturbed env).popFault w.queues = (.nothing, w.queues) := by
    have pop : ∀ level, w.queues.rpop level = Option.none := by
      intro level
      rw [Queues.rpop, none level]
      rfl
    have undone : (undisturbed env).popFault = Option.none := rfl
    simp only [undone, QueueManager.dequeue, QueueManager.dequeueFrom, reduceCtorEq, if_false, pop]
  simp only [turn, Platform.schedule, Scheduler.scheduleOne, nothing, Scheduler.plan]
  simp

/-- A quiet world stays as it is, the log apart. -/
theorem turn_quiet (env : Scheduler.Env) {w : World} (quiet : Quiet w) :
    ∃ taskLogs, turn env w = { w with db := { w.db with taskLogs } } := by
  cases quiet with
  | empty none => exact ⟨w.db.taskLogs, turn_empty env none⟩
  | blocked t task here => exact turn_blocked env here

theorem Quiet.relogged {w : World} (quiet : Quiet w) (taskLogs : List TaskLog) :
    Quiet { w with db := { w.db with taskLogs } } := by
  cases quiet with
  | empty none => exact .empty none
  | blocked t task here =>
      obtain ⟨named, found, queued, noRoom⟩ := here.waits
      exact .blocked t task ⟨here.high, here.first, named, found, queued, noRoom⟩

/-- A turn that finds work makes the lists lighter. -/
theorem turn_works (env : Scheduler.Env) {w : World} (h : Submitted w.queues) :
    Quiet w ∨ (Submitted (turn env w).queues ∧ weight (turn env w).queues < weight w.queues) := by
  rcases dequeue_submitted h with ⟨none, _⟩ | ⟨level, t, enqueuedAt, rest, whole, higher, popped⟩
  · exact .inl (.empty none)
  · have left : Submitted (w.queues.put level rest) := by
      apply submitted_put h
      intro raw inside
      rw [whole]
      exact .inl (List.mem_append_left _ inside)
    have lighter := weight_put w.queues level rest
    rw [whole, List.length_append, List.length_singleton] at lighter
    have wrote := turn_queues env w
    rw [popped] at wrote
    simp only at wrote
    split at wrote
    · rename_i task others priority planned
      have waits := waits_of_plan planned
      rw [plan_waits waits] at planned
      cases planned
      by_cases normal : level = .normal
      · subst normal
        exact .inl (.blocked t task ⟨higher .high (by decide), ⟨rest, enqueuedAt, whole⟩, waits⟩)
      · right
        have known : (w.queues.put level rest).list .normal = w.queues.normal :=
          Queues.list_put_other w.queues (Ne.symm normal) rest
        have heavier := weight_put (w.queues.put level rest) .normal
          (w.queues.normal ++ [QueueService.payload t enqueuedAt])
        have back : (turn env w).queues = (w.queues.put level rest).put .normal
            (w.queues.normal ++ [QueueService.payload t enqueuedAt]) := by
          rw [wrote, ← known]
          rfl
        rw [if_neg normal] at lighter
        rw [if_pos rfl, known, List.length_append, List.length_singleton] at heavier
        rw [back]
        refine ⟨submitted_put left ?_, by omega⟩
        intro raw inside
        rw [known]
        exact (List.mem_append.mp inside).imp_right fun new => ⟨t, enqueuedAt, List.mem_singleton.mp new⟩
    · rw [wrote]
      refine .inr ⟨left, ?_⟩
      split at lighter <;> omega

/-! ## Runs -/

theorem quiet_run (envs : List Scheduler.Env) {w : World} (quiet : Quiet w) :
    ∃ taskLogs, Runs.run turn envs w = { w with db := { w.db with taskLogs } } := by
  induction envs generalizing w with
  | nil => exact ⟨w.db.taskLogs, rfl⟩
  | cons env rest ih =>
      obtain ⟨taskLogs, same⟩ := turn_quiet env quiet
      obtain ⟨taskLogs', later⟩ := ih (quiet.relogged taskLogs)
      rw [Runs.run_cons, same, later]
      exact ⟨taskLogs', rfl⟩

theorem submitted_turn (env : Scheduler.Env) {w : World} (h : Submitted w.queues) :
    Submitted (turn env w).queues := by
  rcases turn_works env h with quiet | ⟨submitted, _⟩
  · obtain ⟨taskLogs, same⟩ := turn_quiet env quiet
    rw [same]
    exact h
  · exact submitted

theorem settles (envs : List Scheduler.Env) {w : World} (h : Submitted w.queues)
    (long : weight w.queues ≤ envs.length) : Quiet (Runs.run turn envs w) := by
  apply Runs.run_settles (I := fun w => Submitted w.queues) (fun w => weight w.queues)
  · exact fun _ env h => submitted_turn env h
  · intro w _ light
    simp only [weight] at light
    apply Quiet.empty
    intro level
    apply List.eq_nil_of_length_eq_zero
    cases level <;> simp only [Queues.list] <;> omega
  · intro w env h
    exact (turn_works env h).imp_right And.right
  · intro w env _ quiet
    obtain ⟨taskLogs, same⟩ := turn_quiet env quiet
    rw [same]
    exact quiet.relogged taskLogs
  · exact h
  · exact long

/-- What `dequeue` leaves and returns was in the lists, whichever of its commands fails. -/
theorem dequeueFrom_subset (fault : Option QueueLevel) (levels : List QueueLevel) (q : Queues) :
    (∀ level, (QueueManager.dequeueFrom fault levels q).2.list level ⊆ q.list level) ∧
      ∀ payload, (QueueManager.dequeueFrom fault levels q).1 = .payload payload →
        ∃ level, RawPayload.json payload ∈ q.list level := by
  induction levels generalizing q with
  | nil => exact ⟨fun _ => List.Subset.refl _, by simp [QueueManager.dequeueFrom]⟩
  | cons first others ih =>
      rw [QueueManager.dequeueFrom]
      by_cases fails : fault = some first
      · rw [if_pos fails]
        exact ⟨fun _ => List.Subset.refl _, by grind⟩
      · rw [if_neg fails]
        cases popped : q.rpop first with
        | none => exact ih q
        | some pair =>
            obtain ⟨raw, q'⟩ := pair
            obtain ⟨rest, whole, rfl⟩ := Queues.rpop_eq_some popped
            have fewer : ∀ level, (q.put first rest).list level ⊆ q.list level := by
              intro level
              by_cases same : level = first
              · subst same
                rw [Queues.list_put_same, whole]
                exact List.subset_append_left _ _
              · rw [Queues.list_put_other q same]
                exact List.Subset.refl _
            cases raw with
            | invalid => exact ⟨fewer, by grind⟩
            | empty =>
                obtain ⟨left, returned⟩ := ih (q.put first rest)
                refine ⟨fun level => List.Subset.trans (left level) (fewer level), fun payload read => ?_⟩
                obtain ⟨level, inside⟩ := returned payload read
                exact ⟨level, fewer level inside⟩
            | json payload =>
                refine ⟨fewer, ?_⟩
                rintro _ ⟨⟩
                exact ⟨first, by rw [whole]; exact List.mem_append_right _ (List.mem_singleton_self _)⟩

theorem submitted_subset {q q' : Queues} (h : Submitted q) (fewer : ∀ level, q'.list level ⊆ q.list level) :
    Submitted q' := fun level raw inside => h level raw (fewer level inside)

theorem submitTask_queues (fault : QueueService.Fault) (enqueuedAt : String) (user : User) (t : TaskId)
    (s : Store) :
    (TaskService.submitTask fault enqueuedAt user t s).2.queues = s.queues ∨
      ∃ level u, (TaskService.submitTask fault enqueuedAt user t s).2.queues =
        s.queues.lpush level (QueueService.payload u enqueuedAt) := by
  rw [TaskService.submitTask]
  cases TaskService.getOwnedTask s.db t user with
  | error refusal => exact .inl rfl
  | ok task =>
      simp only
      cases TaskService.submitGuard task with
      | error refusal => exact .inl rfl
      | ok passed =>
          cases fault with
          | lpush => exact .inl rfl
          | none | publish => exact .inr ⟨_, _, rfl⟩

theorem submitted_step (op : Platform.Op) (own : ∀ queues, op ≠ .queues queues) {w : World}
    (h : Submitted w.queues) : Submitted (Platform.exec op w).queues := by
  cases op with
  | queues queues => exact absurd rfl (own queues)
  | submit fault enqueuedAt user t =>
      change Submitted (TaskService.submitTask fault enqueuedAt user t w.toStore).2.queues
      rcases submitTask_queues fault enqueuedAt user t w.toStore with same | ⟨level, u, pushed⟩
      · rw [same]
        exact h
      · rw [pushed]
        apply submitted_put h
        intro raw inside
        rcases List.mem_cons.mp inside with new | old
        · exact .inr ⟨u, enqueuedAt, new⟩
        · exact .inl old
  | schedule env =>
      obtain ⟨left, returned⟩ := dequeueFrom_subset env.popFault [.high, .normal, .low] w.queues
      have rest := submitted_subset h left
      change Submitted (Scheduler.scheduleOne env w.toStore).store.queues
      rw [Scheduler.scheduleOne, QueueManager.dequeue]
      generalize QueueManager.dequeueFrom env.popFault [.high, .normal, .low] w.queues = result at rest returned
      obtain ⟨popped, queues⟩ := result
      simp only at rest returned ⊢
      cases planned : Scheduler.plan env w.db popped with
      | ignored | skipped | raised | launch => exact rest
      | requeue task others priority =>
          cases popped with
          | nothing => cases planned
          | undecodable => cases planned
          | payload payload =>
              obtain rfl := Wire.plan_requeue planned
              obtain ⟨level, inside⟩ := returned _ rfl
              obtain ⟨t, enqueuedAt, same⟩ := h level _ inside
              simp only [QueueManager.requeue]
              split
              · exact rest
              · apply submitted_put rest
                intro raw member
                rcases List.mem_append.mp member with old | new
                · exact .inl old
                · exact .inr ⟨t, enqueuedAt, by rw [List.mem_singleton.mp new, same]⟩
  | create | cancel | callback | finished | markOffline | heartbeat | billing | container | remove =>
      rw [QueueOrder.queues_kept rfl]
      exact h

theorem submitted_run (ops : List Platform.Op) (own : ∀ op ∈ ops, ∀ queues, op ≠ .queues queues) {w : World}
    (h : Submitted w.queues) : Submitted (Runs.run Platform.exec ops w).queues := by
  induction ops generalizing w with
  | nil => exact h
  | cons op rest ih =>
      exact ih (fun other inside => own other (List.mem_cons_of_mem _ inside))
        (submitted_step op (own op List.mem_cons_self) h)

/-- Whatever has happened before, the main loop alone comes to rest after a bounded number
    of turns: the lists are empty, or the first task in line is queued and fits on no node.
    From then on no number of turns moves anything but the log, whatever else is queued. -/
theorem comes_to_rest (db : Database) (ops : List Platform.Op)
    (own : ∀ op ∈ ops, ∀ queues, op ≠ .queues queues) (envs : List Scheduler.Env)
    (long : weight (Runs.run Platform.exec ops { db }).queues ≤ envs.length) :
    Quiet (Runs.run turn envs (Runs.run Platform.exec ops { db })) ∧
      ∀ more, ∃ taskLogs, Runs.run turn (envs ++ more) (Runs.run Platform.exec ops { db }) =
        { Runs.run turn envs (Runs.run Platform.exec ops { db }) with
          db := { (Runs.run turn envs (Runs.run Platform.exec ops { db })).db with taskLogs } } := by
  have start : Submitted ({ db } : World).queues := by
    intro level raw inside
    cases level <;> cases inside
  have quiet := settles envs (submitted_run ops own start) long
  refine ⟨quiet, fun more => ?_⟩
  rw [Runs.run_append]
  exact quiet_run more quiet

/-- Two tasks and no node: the second turn has come to rest. -/
theorem two_tasks_rest :
    Quiet (Runs.run turn [QueueOrder.noNode, QueueOrder.noNode] (Runs.run Platform.exec
      [.create "a" 0 Platform.Sample.user Platform.Sample.payload, .submit .none "" Platform.Sample.user "a",
        .create "b" 0 Platform.Sample.user Platform.Sample.payload, .submit .none "" Platform.Sample.user "b"]
      { db := {} })) := by
  refine (comes_to_rest {} _ ?_ _ (by decide)).1
  intro op inside queues same
  subst same
  simp at inside

end SuitApi.Quiescence
