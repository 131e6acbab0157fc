import SuitApi.Library.Runs
import SuitApi.TaskService

/-! # Between the queue and the database

`submit_task` pushes the payload, announces it and commits, in this order, and
`_schedule_one` pops it, reads the committed row and commits.  The two stores have
no common transaction, so every interleaving of these effects can happen.  A
payload that is popped and dropped in between is gone for good.
-/

namespace SuitApi.QueueLoss

/-! ## The effects of the two operations -/

inductive SubmitPhase where
  | begun | pushed | published
  deriving Repr, DecidableEq

/-- A `submit_task` that has passed its guard: the row as its session read it. -/
structure Submit where
  task : Task
  phase : SubmitPhase
  deriving Repr, DecidableEq

/-- Where the running `_schedule_one` stands. -/
inductive Hand where
  | popped (popped : QueueManager.Popped)
  | requeued (task : Task)
  | launching (env : Scheduler.Env) (task : Task) (a : Allocation) (run : AgentRun)

structure System extends Store where
  submits : List Submit := []
  hand : Option Hand := none

inductive Op where
  | create (t : TaskId) (now : Time) (user : User) (payload : TaskCreate)
  | begin (user : User) (t : TaskId)
  | push (i : Nat) (enqueuedAt : String)
  | publish (i : Nat)
  | commit (i : Nat)
  /-- An exception in a request; its session is rolled back. -/
  | abort (i : Nat)
  | pop (fault : Option QueueLevel)
  | read (env : Scheduler.Env)
  | settle
  /-- An exception in `_schedule_one`; its session is rolled back. -/
  | crash
  | surroundings (nodes : Table Node.id) (gpus : Table GpuDevice.slot)

/-- The step after the pop: the committed row is read, and the payload is dropped,
    put back, or turned into a launch. -/
def readRow (env : Scheduler.Env) (popped : QueueManager.Popped) (s : System) : System :=
  match Scheduler.plan env s.db popped with
  | .ignored | .raised | .skipped _ => { s with hand := none }
  | .requeue task fields priority =>
      { s with
        queues := QueueManager.requeue env.pushFault fields priority s.queues
        hand := some (.requeued task) }
  | .launch task a =>
      { s with hand := some (.launching env task a (ContainerManager.launch env.settings env.agent task a)) }

/-- The commit of `_schedule_one`. -/
def settle (s : System) : System :=
  match s.hand with
  | some (.requeued task) =>
      { s with
        db := s.db.addLog task.id "system" "No available GPU or online node, task requeued."
        hand := none }
  | some (.launching env task a run) => { s with db := Scheduler.settle env s.db task a run, hand := none }
  | _ => s

def exec : Op → System → System
  | .create t now user payload, s =>
      match TaskService.createTask t now user payload s.db with
      | some db => { s with db }
      | none => s
  | .begin user t, s =>
      match TaskService.getOwnedTask s.db t user with
      | .error _ => s
      | .ok task =>
          match TaskService.submitGuard task with
          | .error _ => s
          | .ok _ => { s with submits := s.submits ++ [⟨task, .begun⟩] }
  | .push i enqueuedAt, s =>
      match s.submits[i]? with
      | some ⟨task, .begun⟩ =>
          { s with
            queues := s.queues.lpush (QueueService.getQueueLevel task.priority)
              (QueueService.payload task.id enqueuedAt)
            submits := s.submits.set i ⟨task, .pushed⟩ }
      | _ => s
  | .publish i, s =>
      match s.submits[i]? with
      | some ⟨task, .pushed⟩ => { s with submits := s.submits.set i ⟨task, .published⟩ }
      | _ => s
  | .commit i, s =>
      match s.submits[i]? with
      | some ⟨task, .published⟩ =>
          { s with
            db := (s.db.updateTask task.id TaskService.submitted TaskService.submitted_id).addLog task.id
              "system" "task submitted to scheduler queue"
            submits := s.submits.eraseIdx i }
      | _ => s
  | .abort i, s => { s with submits := s.submits.eraseIdx i }
  | .pop fault, s =>
      match s.hand with
      | none =>
          { s with
            queues := (QueueManager.dequeue fault s.queues).2
            hand := some (.popped (QueueManager.dequeue fault s.queues).1) }
      | some _ => s
  | .read env, s =>
      match s.hand with
      | some (.popped popped) => readRow env popped s
      | _ => s
  | .settle, s => settle s
  | .crash, s => { s with hand := none }
  | .surroundings nodes gpus, s => { s with db := { s.db with nodes, gpus } }

/-- Run without interruption, the effects of `_schedule_one` are the atomic one. -/
theorem schedule_phases (env : Scheduler.Env) (store : Store) (submits : List Submit) :
    (Runs.run exec [.pop env.popFault, .read env, .settle] { toStore := store, submits }).toStore =
      (Scheduler.scheduleOne env store).store := by
  simp only [Runs.run_cons, Runs.run_nil, exec, readRow, Scheduler.scheduleOne]
  cases Scheduler.plan env store.db (QueueManager.dequeue env.popFault store.queues).1 <;> rfl

/-- Run without interruption, the effects of `submit_task` are the atomic one. -/
theorem submit_phases (enqueuedAt : String) (user : User) (t : TaskId) (store : Store) :
    (Runs.run exec [.begin user t, .push 0 enqueuedAt, .publish 0, .commit 0] { toStore := store }).toStore =
      (TaskService.submitTask .none enqueuedAt user t store).2 := by
  simp only [Runs.run_cons, Runs.run_nil, exec, TaskService.submitTask]
  cases TaskService.getOwnedTask store.db t user with
  | error refusal => rfl
  | ok task =>
      simp only
      cases TaskService.submitGuard task <;> rfl

/-! ## What is where -/

/-- The running `_schedule_one` holds a payload of the task, or is launching it. -/
def Hand.carries (t : TaskId) : Hand → Bool
  | .popped result => result.carries t
  | .requeued _ => false
  | .launching _ task _ _ => task.id = t

def inHand (t : TaskId) (s : System) : Nat :=
  match s.hand with
  | some hand => (hand.carries t).toNat
  | none => 0

/-- The payloads of the task in the lists and in the hands of `_schedule_one`. -/
def payloads (t : TaskId) (s : System) : Nat := s.queues.waiting t + inHand t s

/-- The request has pushed a payload of the task and has not committed. -/
def Submit.pending (t : TaskId) (r : Submit) : Bool := r.task.id = t && r.phase ≠ .begun

def isQueued (t : TaskId) (db : Database) : Bool :=
  (db.tasks.get t).any fun task => task.status = .queued

/-- How many payloads of the task are needed: one for each request that has pushed
    one and may yet queue the task, and one while the task is queued. -/
def needed (t : TaskId) (s : System) : Nat :=
  s.submits.countP (Submit.pending t) + (isQueued t s.db).toNat

/-- The step drops a payload of the task from the hands of `_schedule_one` without
    launching the task. -/
def Drops (t : TaskId) (s : System) : Op → Prop
  | .read env => ∃ popped, s.hand = some (.popped popped) ∧ popped.carries t = true ∧
      match Scheduler.plan env s.db popped with
      | .ignored | .raised | .skipped _ => True
      | .requeue _ _ _ => env.pushFault = true
      | .launch _ _ => False
  | .crash => ∃ hand, s.hand = some hand ∧ hand.carries t = true
  | _ => False

/-- Where a payload is dropped, the lists hold enough others for the same task. -/
def DropsNothingNeeded (s : System) (op : Op) : Prop := ∀ t, Drops t s op → needed t s ≤ s.queues.waiting t

/-- Every queued task has a payload in a list or in the hands of `_schedule_one`. -/
def Covered (s : System) : Prop :=
  ∀ t, isQueued t s.db = true → (∃ level, ∃ raw ∈ s.queues.list level, raw.carries t = true) ∨
    ∃ hand, s.hand = some hand ∧ hand.carries t = true

/-! ## The balance of one task -/

/-- There are at least as many payloads of the task as are needed. -/
def Balanced (t : TaskId) (s : System) : Prop := needed t s ≤ payloads t s

/-- A task that is being launched is queued until the launch commits. -/
def LaunchQueued (s : System) : Prop :=
  ∀ env task a run, s.hand = some (.launching env task a run) → isQueued task.id s.db = true

theorem countP_eraseIdx {α : Type} {p : α → Bool} {l : List α} {i : Nat} {a : α}
    (here : l[i]? = some a) : l.countP p = (l.eraseIdx i).countP p + (p a).toNat := by
  induction l generalizing i with
  | nil => cases here
  | cons b rest ih =>
      cases i with
      | zero =>
          cases here
          rw [List.countP_cons, List.eraseIdx_cons_zero]
          cases p a <;> rfl
      | succ i =>
          rw [List.eraseIdx_cons_succ, List.countP_cons, List.countP_cons, ih here]
          omega

theorem countP_set {α : Type} {p : α → Bool} {l : List α} {i : Nat} {a : α} (b : α)
    (here : l[i]? = some a) :
    (l.set i b).countP p + (p a).toNat = l.countP p + (p b).toNat := by
  induction l generalizing i with
  | nil => cases here
  | cons c rest ih =>
      cases i with
      | zero =>
          cases here
          rw [List.set_cons_zero, List.countP_cons, List.countP_cons]
          cases p a <;> cases p b <;> rfl
      | succ i =>
          have tail := ih here
          rw [List.set_cons_succ, List.countP_cons, List.countP_cons]
          omega

theorem inHand_of_hand {s : System} {hand : Hand} (here : s.hand = some hand) (t : TaskId) :
    inHand t s = (hand.carries t).toNat := by
  rw [inHand, here]

theorem covered_iff {s : System} : Covered s ↔ ∀ t, isQueued t s.db = true → 0 < payloads t s := by
  apply forall_congr'
  intro t
  apply imp_congr_right
  intro _
  unfold payloads
  constructor
  · rintro (⟨level, raw, inside, carried⟩ | ⟨hand, here, carried⟩)
    · exact Nat.add_pos_left (Queues.waiting_pos inside carried) _
    · rw [inHand_of_hand here, carried]
      exact Nat.succ_pos _
  · intro present
    cases hand : s.hand with
    | none =>
        rw [inHand, hand] at present
        exact .inl (Queues.exists_of_waiting present)
    | some held =>
        rw [inHand_of_hand hand] at present
        cases carried : held.carries t with
        | true => exact .inr ⟨held, rfl, carried⟩
        | false =>
            rw [carried] at present
            exact .inl (Queues.exists_of_waiting present)

theorem isQueued_of_row {t : TaskId} {db db' : Database} (row : db'.tasks.get t = db.tasks.get t) :
    isQueued t db' = isQueued t db := by
  rw [isQueued, isQueued, row]

theorem drops_read {env : Scheduler.Env} {popped : QueueManager.Popped} {s : System} {t : TaskId}
    (hand : s.hand = some (.popped popped)) :
    Drops t s (.read env) ↔ popped.carries t = true ∧
      match Scheduler.plan env s.db popped with
      | .ignored | .raised | .skipped _ => True
      | .requeue _ _ _ => env.pushFault = true
      | .launch _ _ => False := by
  simp only [Drops, hand, Option.some.injEq, Hand.popped.injEq, exists_eq_left']

/-- The reading of the row takes nothing away but what it drops. -/
theorem read_payloads {env : Scheduler.Env} {popped : QueueManager.Popped} {s : System}
    (hand : s.hand = some (.popped popped)) (t : TaskId) :
    (Drops t s (.read env) → payloads t (readRow env popped s) = s.queues.waiting t) ∧
      (¬ Drops t s (.read env) → payloads t s ≤ payloads t (readRow env popped s)) := by
  rw [drops_read hand]
  simp only [payloads]
  rw [inHand_of_hand hand, Hand.carries]
  unfold readRow
  cases planned : Scheduler.plan env s.db popped with
  | ignored | raised | skipped =>
      constructor
      · exact fun _ => rfl
      · intro kept
        cases carried : popped.carries t with
        | true => exact absurd ⟨carried, trivial⟩ kept
        | false => exact le_rfl
  | requeue task fields priority =>
      simp only [inHand, Hand.carries]
      constructor
      · rintro ⟨_, fault⟩
        rw [QueueManager.requeue, if_pos fault]
        rfl
      · intro kept
        cases carried : popped.carries t with
        | true =>
            have object : popped = .payload (.object fields) := by
              rcases Scheduler.plan_text carried with ignored | ⟨fields', object, byRow⟩
              · rw [ignored] at planned
                cases planned
              · rw [byRow] at planned
                rw [object, (Scheduler.planTask_requeue planned).2.1]
            have pushed : ¬ env.pushFault = true := fun fault => kept ⟨carried, fault⟩
            rw [object] at carried
            have raw : (RawPayload.json (.object fields)).carries t = true := carried
            rw [QueueManager.requeue, if_neg pushed, Queues.waiting_rpush, raw]
            exact le_rfl
        | false =>
            unfold QueueManager.requeue
            split
            · exact le_rfl
            · rw [Queues.waiting_rpush]
              simp only [Bool.toNat_false]
              omega
  | launch task a =>
      simp only [inHand, Hand.carries]
      constructor
      · exact fun drops => drops.2.elim
      · intro _
        cases carried : popped.carries t with
        | true =>
            have same : task.id = t := by
              rcases Scheduler.plan_text carried with ignored | ⟨fields, _, byRow⟩
              · rw [ignored] at planned
                cases planned
              · rw [byRow] at planned
                exact Table.key_of_get (Scheduler.planTask_launch planned).1
            rw [decide_eq_true same]
        | false => exact Nat.le_add_right _ _

/-- The launched task leaves the queue together with its payload. -/
theorem settled_left (env : Scheduler.Env) (db : Database) (task : Task) (a : Allocation) (run : AgentRun) :
    isQueued task.id (Scheduler.settle env db task a run) = false := by
  rw [isQueued, Scheduler.settle_tasks, if_pos rfl]
  cases db.tasks.get task.id with
  | none => rfl
  | some row => cases Scheduler.accepted run <;> rfl

/-! ## What one step changes -/

/-- What one step does to the payloads of a task and to the need for them. -/
inductive Change (t : TaskId) (op : Op) (s s' : System) : Prop
  | kept (keeps : ¬ Drops t s op) (queued : isQueued t s'.db = isQueued t s.db)
      (pending : s'.submits.countP (Submit.pending t) ≤ s.submits.countP (Submit.pending t))
      (present : payloads t s ≤ payloads t s')
  | dropped (drops : Drops t s op) (queued : isQueued t s'.db = isQueued t s.db)
      (pending : s'.submits.countP (Submit.pending t) = s.submits.countP (Submit.pending t))
      (present : payloads t s' = s.queues.waiting t)
  | pushed (keeps : ¬ Drops t s op) (queued : isQueued t s'.db = isQueued t s.db)
      (pending : s'.submits.countP (Submit.pending t) = s.submits.countP (Submit.pending t) + 1)
      (present : payloads t s' = payloads t s + 1)
  | launched (keeps : ¬ Drops t s op) (env : Scheduler.Env) (task : Task) (a : Allocation) (run : AgentRun)
      (hand : s.hand = some (.launching env task a run)) (here : task.id = t) (free : s'.hand = none)
      (queued : isQueued t s'.db = false)
      (pending : s'.submits.countP (Submit.pending t) = s.submits.countP (Submit.pending t))
      (present : payloads t s = payloads t s' + 1)
  | committed (i : Nat) (task : Task) (request : op = .commit i)
      (here : s.submits[i]? = some ⟨task, .published⟩) (mine : task.id = t)
      (queued : isQueued t s'.db = (s.db.tasks.get t).isSome)
      (pending : s.submits.countP (Submit.pending t) = s'.submits.countP (Submit.pending t) + 1)
      (present : payloads t s' = payloads t s)

/-- A step that leaves the rows and the requests alone. -/
theorem Change.quiet {t : TaskId} {op : Op} {s s' : System} (keeps : ¬ Drops t s op) (rows : s'.db = s.db)
    (requests : s'.submits = s.submits) (present : payloads t s ≤ payloads t s') : Change t op s s' := by
  apply Change.kept keeps
  · rw [rows]
  · rw [requests]
  · exact present

theorem read_change (env : Scheduler.Env) (s : System) (t : TaskId) :
    Change t (.read env) s (exec (.read env) s) := by
  simp only [exec]
  split
  · rename_i popped hand
    have same : (readRow env popped s).db = s.db ∧ (readRow env popped s).submits = s.submits := by
      unfold readRow
      cases Scheduler.plan env s.db popped <;> exact ⟨rfl, rfl⟩
    by_cases drops : Drops t s (.read env)
    · exact .dropped drops (by rw [same.1]) (by rw [same.2]) ((read_payloads hand t).1 drops)
    · exact .quiet drops same.1 same.2 ((read_payloads hand t).2 drops)
  · rename_i idle
    apply Change.quiet _ rfl rfl le_rfl
    rintro ⟨popped, hand, _⟩
    exact idle popped hand

theorem crash_change (s : System) (t : TaskId) : Change t .crash s (exec .crash s) := by
  by_cases drops : Drops t s .crash
  · exact .dropped drops rfl rfl rfl
  · refine .quiet drops rfl rfl ?_
    unfold payloads
    cases hand : s.hand with
    | none =>
        rw [inHand, hand]
        exact le_rfl
    | some held =>
        rw [inHand_of_hand hand]
        cases carried : held.carries t with
        | true => exact absurd ⟨held, hand, carried⟩ drops
        | false => exact le_rfl

theorem settle_change (s : System) (t : TaskId) : Change t .settle s (exec .settle s) := by
  simp only [exec, settle]
  split
  · rename_i task hand
    apply Change.kept id
    · rfl
    · exact le_rfl
    · rw [payloads, inHand_of_hand hand]
      exact le_rfl
  · rename_i env task a run hand
    by_cases same : task.id = t
    · subst same
      apply Change.launched id env task a run hand rfl
      · rfl
      · exact settled_left env s.db task a run
      · rfl
      · rw [payloads, inHand_of_hand hand, Hand.carries, decide_eq_true rfl]
        rfl
    · apply Change.kept id
      · apply isQueued_of_row
        rw [Scheduler.settle_tasks, if_neg (Ne.symm same)]
      · exact le_rfl
      · rw [payloads, inHand_of_hand hand, Hand.carries, decide_eq_false same]
        exact le_rfl
  · exact .quiet id rfl rfl le_rfl

theorem pop_change (fault : Option QueueLevel) (s : System) (t : TaskId) :
    Change t (.pop fault) s (exec (.pop fault) s) := by
  simp only [exec]
  split
  · rename_i hand
    have moved := QueueManager.waiting_dequeueFrom t fault [.high, .normal, .low] s.queues
    refine .quiet id rfl rfl ?_
    simp only [payloads, inHand, hand, Hand.carries, QueueManager.dequeue]
    omega
  · exact .quiet id rfl rfl le_rfl

theorem create_change (u : TaskId) (now : Time) (user : User) (payload : TaskCreate) (s : System)
    (t : TaskId) : Change t (.create u now user payload) s (exec (.create u now user payload) s) := by
  simp only [exec]
  split
  · rename_i db created
    obtain ⟨fresh, _, _, row⟩ := TaskService.createTask_get created
    apply Change.kept id
    · rw [isQueued, row, isQueued]
      split
      · rename_i here
        rw [here, fresh]
        rfl
      · rfl
    · exact le_rfl
    · exact le_rfl
  · exact .quiet id rfl rfl le_rfl

theorem begin_change (user : User) (u : TaskId) (s : System) (t : TaskId) :
    Change t (.begin user u) s (exec (.begin user u) s) := by
  simp only [exec]
  split
  · exact .quiet id rfl rfl le_rfl
  · split
    · exact .quiet id rfl rfl le_rfl
    · rename_i task _ _ _ _
      have young : Submit.pending t ⟨task, .begun⟩ = false := Bool.and_false _
      apply Change.kept id
      · rfl
      · rw [List.countP_append, List.countP_singleton, young]
        exact le_rfl
      · exact le_rfl

theorem push_change (i : Nat) (enqueuedAt : String) (s : System) (t : TaskId) :
    Change t (.push i enqueuedAt) s (exec (.push i enqueuedAt) s) := by
  simp only [exec]
  split
  · rename_i task here
    have phase := countP_set (p := Submit.pending t) ⟨task, .pushed⟩ here
    have young : Submit.pending t ⟨task, .begun⟩ = false := Bool.and_false _
    have carried : (QueueService.payload task.id enqueuedAt).carries t =
        Submit.pending t ⟨task, .pushed⟩ := by
      simp [QueueService.payload, RawPayload.carries, Payload.carries, Dict.get, Submit.pending]
    rw [young] at phase
    cases mine : Submit.pending t ⟨task, .pushed⟩ with
    | true =>
        rw [mine] at phase carried
        apply Change.pushed id
        · rfl
        · exact phase
        · simp only [payloads, Queues.waiting_lpush, carried, inHand, Bool.toNat_true]
          omega
    | false =>
        rw [mine] at phase carried
        apply Change.kept id
        · rfl
        · exact phase.le
        · simp only [payloads, Queues.waiting_lpush, inHand]
          omega
  · exact .quiet id rfl rfl le_rfl

theorem publish_change (i : Nat) (s : System) (t : TaskId) :
    Change t (.publish i) s (exec (.publish i) s) := by
  simp only [exec]
  split
  · rename_i task here
    have phase := countP_set (p := Submit.pending t) ⟨task, .published⟩ here
    have same : Submit.pending t ⟨task, .published⟩ = Submit.pending t ⟨task, .pushed⟩ := rfl
    apply Change.kept id
    · rfl
    · rw [same] at phase
      simp only
      omega
    · exact le_rfl
  · exact .quiet id rfl rfl le_rfl

theorem commit_change (i : Nat) (s : System) (t : TaskId) : Change t (.commit i) s (exec (.commit i) s) := by
  simp only [exec]
  split
  · rename_i task here
    have phase := countP_eraseIdx (p := Submit.pending t) here
    by_cases mine : task.id = t
    · have pending : Submit.pending t ⟨task, .published⟩ = true := by
        rw [Submit.pending, decide_eq_true mine]
        rfl
      rw [pending] at phase
      apply Change.committed i task rfl here mine
      · simp only [isQueued, Database.addLog_tasks, Database.updateTask_get, if_pos mine.symm]
        cases s.db.tasks.get t <;> rfl
      · exact phase
      · rfl
    · apply Change.kept id
      · apply isQueued_of_row
        rw [Database.addLog_tasks, Database.updateTask_get, if_neg (Ne.symm mine)]
      · simp only
        omega
      · exact le_rfl
  · exact .quiet id rfl rfl le_rfl

theorem exec_change (op : Op) (s : System) (t : TaskId) : Change t op s (exec op s) := by
  cases op with
  | create u now user payload => exact create_change u now user payload s t
  | begin user u => exact begin_change user u s t
  | push i enqueuedAt => exact push_change i enqueuedAt s t
  | publish i => exact publish_change i s t
  | commit i => exact commit_change i s t
  | abort i =>
      apply Change.kept id
      · rfl
      · exact (List.eraseIdx_sublist s.submits i).countP_le
      · exact le_rfl
  | pop fault => exact pop_change fault s t
  | read env => exact read_change env s t
  | settle => exact settle_change s t
  | crash => exact crash_change s t
  | surroundings nodes gpus =>
      apply Change.kept id
      · rfl
      · exact le_rfl
      · exact le_rfl

/-! ## What a step preserves -/

theorem balanced_step {s : System} {t : TaskId} (op : Op) (before : Balanced t s)
    (launching : LaunchQueued s) (keeps : Drops t s op → needed t s ≤ s.queues.waiting t) :
    Balanced t (exec op s) := by
  unfold Balanced needed at before ⊢
  cases exec_change op s t with
  | kept _ queued =>
      rw [queued]
      omega
  | dropped drops queued pending present =>
      rw [queued, pending, present]
      exact keeps drops
  | pushed _ queued =>
      rw [queued]
      omega
  | launched _ env task a run hand here _ queued =>
      have waited := launching env task a run hand
      rw [here] at waited
      rw [waited, Bool.toNat_true] at before
      rw [queued, Bool.toNat_false]
      omega
  | committed =>
      have once := Bool.toNat_le (isQueued t (exec op s).db)
      omega

/-- Only the reading of a queued row starts a launch. -/
theorem launching_before {s : System} (op : Op) {env : Scheduler.Env} {task : Task} {a : Allocation}
    {run : AgentRun} (after : (exec op s).hand = some (.launching env task a run)) :
    s.hand = some (.launching env task a run) ∨ isQueued task.id (exec op s).db = true := by
  cases op with
  | surroundings | abort => exact .inl after
  | crash => cases after
  | create | push | publish | commit =>
      simp only [exec] at after
      split at after <;> exact .inl after
  | begin =>
      simp only [exec] at after
      split at after
      · exact .inl after
      · split at after <;> exact .inl after
  | pop =>
      simp only [exec] at after
      split at after
      · cases after
      · exact .inl after
  | settle =>
      simp only [exec, settle] at after
      split at after
      · cases after
      · cases after
      · exact .inl after
  | read env' =>
      simp only [exec] at after ⊢
      split at after
      · rename_i popped hand
        right
        simp only [readRow] at after ⊢
        cases planned : Scheduler.plan env' s.db popped with
        | ignored | raised | skipped | requeue =>
            simp only [planned] at after
            cases after
        | launch task' a' =>
            simp only [planned] at after
            cases after
            obtain ⟨found, queued, _⟩ := Scheduler.plan_launch planned
            simp only [isQueued, found, Option.any_some, queued, decide_true]
      · exact .inl after

theorem launchQueued_step {s : System} (op : Op) (launching : LaunchQueued s) :
    LaunchQueued (exec op s) := by
  intro env task a run after
  rcases launching_before op after with before | queued
  · have waited := launching env task a run before
    cases exec_change op s task.id with
    | kept _ queued => rw [queued, waited]
    | dropped _ queued => rw [queued, waited]
    | pushed _ queued => rw [queued, waited]
    | launched _ _ _ _ _ _ _ free =>
        rw [free] at after
        cases after
    | committed _ _ _ _ _ queued =>
        rw [queued]
        rw [isQueued] at waited
        cases found : s.db.tasks.get task.id with
        | none =>
            rw [found] at waited
            cases waited
        | some row => rfl
  · exact queued

/-! ## Whole runs -/

structure Safe (s : System) : Prop where
  balanced : ∀ t, Balanced t s
  launching : LaunchQueued s

theorem safe_step (s : System) (op : Op) (h : Safe s) (keeps : DropsNothingNeeded s op) :
    Safe (exec op s) where
  balanced t := balanced_step op (h.balanced t) h.launching (keeps t)
  launching := launchQueued_step op h.launching

theorem Safe.covered {s : System} (h : Safe s) : Covered s := by
  apply covered_iff.mpr
  intro t queued
  have balanced := h.balanced t
  rw [Balanced, needed, queued, Bool.toNat_true] at balanced
  omega

/-- As long as every dropped payload leaves enough others behind, every queued task has
    a payload in a list or in the hands of a running `_schedule_one`. -/
theorem no_queued_task_lost (store : Store) (idle : ∀ t, isQueued t store.db = false) (ops : List Op)
    (keeps : Runs.Along exec DropsNothingNeeded ops { toStore := store }) :
    Covered (Runs.run exec ops { toStore := store }) := by
  have start : Safe { toStore := store } := by
    constructor
    · intro t
      simp only [Balanced, needed, idle, List.countP_nil]
      exact Nat.zero_le _
    · rintro env task a run here
      cases here
  exact (keeps.invariant safe_step start).covered

/-! ## Exactly when no task is lost -/

/-- Every queued task is still covered after the step. -/
def StaysCovered (s : System) (op : Op) : Prop := Covered (exec op s)

/-- Where a request commits, a payload of its task is still in a list or in the hands of
    `_schedule_one`; where a payload of a queued task is dropped, the lists hold another. -/
def InTime (s : System) : Op → Prop
  | .commit i => ∀ task, s.submits[i]? = some ⟨task, .published⟩ →
      (s.db.tasks.get task.id).isSome = true → 0 < payloads task.id s
  | op => ∀ t, Drops t s op → isQueued t s.db = true → 0 < s.queues.waiting t

theorem committed_queued {s : System} {i : Nat} {task : Task}
    (here : s.submits[i]? = some ⟨task, .published⟩) (exists_ : (s.db.tasks.get task.id).isSome = true) :
    isQueued task.id (exec (.commit i) s).db = true := by
  obtain ⟨row, found⟩ := Option.isSome_iff_exists.mp exists_
  simp [exec, here, isQueued, Database.updateTask_get, found, TaskService.submitted]

theorem commit_payloads (i : Nat) (s : System) (t : TaskId) : payloads t (exec (.commit i) s) = payloads t s := by
  simp only [exec]
  split <;> rfl

theorem staysCovered_iff {s : System} (covered : Covered s) (op : Op) : StaysCovered s op ↔ InTime s op := by
  rw [covered_iff] at covered
  rw [StaysCovered, covered_iff]
  constructor
  · intro after
    have inTime : ∀ t, Drops t s op → isQueued t s.db = true → 0 < s.queues.waiting t := by
      intro t drops waited
      cases exec_change op s t with
      | kept keeps => exact absurd drops keeps
      | pushed keeps => exact absurd drops keeps
      | launched keeps => exact absurd drops keeps
      | committed i task request =>
          subst request
          exact drops.elim
      | dropped _ queued _ present =>
          rw [← present]
          apply after t
          rw [queued, waited]
    cases op with
    | commit i =>
        intro task here present
        rw [← commit_payloads i s]
        exact after task.id (committed_queued here present)
    | _ => exact inTime
  · intro inTime t queued'
    cases exec_change op s t with
    | kept _ queued _ present =>
        rw [queued] at queued'
        exact (covered t queued').trans_le present
    | pushed _ _ _ present => omega
    | launched _ _ _ _ _ _ _ _ queued =>
        rw [queued] at queued'
        cases queued'
    | dropped drops queued _ present =>
        rw [queued] at queued'
        rw [present]
        cases op with
        | commit i => exact drops.elim
        | _ => exact inTime t drops queued'
    | committed i task request here mine queued _ present =>
        subst request mine
        rw [queued] at queued'
        rw [present]
        exact inTime task here queued'

/-- In a run that starts with no queued task, every queued task always has a payload in
    a list or in the hands of a running `_schedule_one`, if and only if every request
    commits, and every payload is dropped, in time. -/
theorem no_queued_task_lost_iff (store : Store) (idle : ∀ t, isQueued t store.db = false) (ops : List Op) :
    Runs.Along exec StaysCovered ops { toStore := store } ↔ Runs.Along exec InTime ops { toStore := store } := by
  apply Runs.along_congr (I := Covered)
  · exact fun s op _ after => after
  · exact fun s op covered => staysCovered_iff covered op
  · intro t queued
    rw [idle] at queued
    cases queued

/-! ## One request and one `_schedule_one` -/

def user : User := { id := "u" }

def job : TaskCreate where
  name := "job"
  taskType := "train"
  containerImage := "image"
  containerCommand := "run"

/-- The request up to its announcement. -/
def announced : List Op := [.create "t" 0 user job, .begin user "t", .push 0 "", .publish 0]

theorem committed_before_pop :
    Runs.Along exec StaysCovered (announced ++ [.commit 0, .pop none]) { toStore := {} } := by
  apply (no_queued_task_lost_iff {} (fun t => rfl) _).mpr
  refine ⟨?_, ?_, ?_, ?_, ?_, ?_, trivial⟩
  case refine_5 =>
    intro task here present
    cases here
    decide
  all_goals exact fun t drops => drops.elim

/-- The announcement wakes the scheduler, which pops the payload and reads a task
    that is still pending; then the request commits. -/
theorem popped_before_commit : ¬ ∀ ops : List Op, Covered (Runs.run exec ops { toStore := {} }) := by
  intro all
  let wakes : List Op := [.pop none, .read { agent := fun _ => { response := .error "" } }, .commit 0]
  rcases all (announced ++ wakes) "t" rfl with ⟨level, raw, inside, _⟩ | ⟨hand, here, _⟩
  · cases level <;> cases inside
  · cases here

end SuitApi.QueueLoss
