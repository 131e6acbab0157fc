import Mathlib.Logic.Function.Basic
import SuitApi.Library.JsonText
import SuitApi.QueueOrder

/-! # The queue elements as texts

Backend and scheduler exchange payloads as JSON texts in the lists of Redis: the one writes
them, the other reads them and writes some of them back.  Nothing that happens tells the
texts from the decoded payloads of the platform model.
-/

namespace SuitApi

/-- What both interpreters bring along: the text of a floating-point number, and how many
    nested arrays and objects the stack admits. -/
structure Python where
  floatText : Binary64 → List Char
  depth : Nat
  deep : 0 < depth

namespace Python

variable (py : Python)

def dumps (v : Json) : String := String.ofList (Json.dumps py.floatText v)

/-- `json.loads`, whose objects are dictionaries. -/
def loads (text : String) : Except Json.Failure Json := (Json.loads py.depth text.toList).map Json.dicts

theorem loads_dumps {v : Json} (writable : Json.Writable py.floatText py.depth v) : py.loads (py.dumps v) = .ok v := by
  rw [loads, dumps, String.toList_ofList, Json.loads_dumps writable, Except.map, Json.dicts_of_writable writable]

end Python

namespace Wire

/-- The three lists, leftmost element first. -/
abbrev TextQueues := QueueLevel → List String

namespace TextQueues

def lpush (q : TextQueues) (level : QueueLevel) (text : String) : TextQueues :=
  Function.update q level (text :: q level)

def rpush (q : TextQueues) (level : QueueLevel) (text : String) : TextQueues :=
  Function.update q level (q level ++ [text])

def rpop (q : TextQueues) (level : QueueLevel) : Option (String × TextQueues) :=
  (q level).getLast?.map fun text => (text, Function.update q level (q level).dropLast)

end TextQueues

section

variable (py : Python)

/-! ## The two services -/

def taskPayload (taskId : TaskId) (enqueuedAt : String) : Json :=
  .obj [("task_id", .str taskId), ("enqueued_at", .str enqueuedAt)]

def enqueueTask (fault : QueueService.Fault) (enqueuedAt : String) (taskId : TaskId) (priority : Int)
    (q : TextQueues) : Except AppException Unit × TextQueues :=
  let pushed := q.lpush (QueueService.getQueueLevel priority) (py.dumps (taskPayload taskId enqueuedAt))
  let unavailable := AppException.make 503 "redis queue unavailable"
  match fault with
  | .none => (.ok (), pushed)
  | .lpush => (.error unavailable, q)
  | .publish => (.error unavailable, pushed)

inductive Popped where
  | nothing
  | undecodable
  | data (v : Json)

def dequeueFrom (fault : Option QueueLevel) : List QueueLevel → TextQueues → Popped × TextQueues
  | [], q => (.nothing, q)
  | level :: rest, q =>
      if fault = some level then (.nothing, q)
      else match q.rpop level with
        | none => dequeueFrom fault rest q
        | some (raw, q') =>
            if raw = "" then dequeueFrom fault rest q'
            else match py.loads raw with
              | .error _ => (.undecodable, q')
              | .ok v => (.data v, q')

def dequeue (fault : Option QueueLevel) (q : TextQueues) : Popped × TextQueues :=
  dequeueFrom py fault [.high, .normal, .low] q

def requeue (fault : Bool) (taskData : Json) (priority : Int) (q : TextQueues) : TextQueues :=
  if fault then q else q.rpush (QueueManager.getQueueName priority) (py.dumps taskData)

/-! ## What a text stands for -/

/-- A number that no `int` makes an integer of stands as its text. -/
def valueOf : Json → Value
  | .null => .null
  | .bool b => .bool b
  | .int n => .int n
  | .float (.finite q) => .float q
  | .float x => .str (String.ofList (py.floatText x))
  | .str text => .str text
  | .arr items => .array (py.dumps (.arr items))
  | .obj members => .object (py.dumps (.obj members))

def fieldsOf (members : List (String × Json)) : Dict :=
  members.foldl (fun fields m => fields.set m.1 (valueOf py m.2)) []

def payloadOf : Json → Payload
  | .obj members => .object (fieldsOf py members)
  | v => .other (valueOf py v)

def decode (text : String) : RawPayload :=
  if text = "" then .empty
  else match py.loads text with
    | .error _ => .invalid
    | .ok v => .json (payloadOf py v)

def decodeQueues (q : TextQueues) : Queues where
  high := (q .high).map (decode py)
  normal := (q .normal).map (decode py)
  low := (q .low).map (decode py)

def Popped.decoded : Popped → QueueManager.Popped
  | .nothing => .nothing
  | .undecodable => .undecodable
  | .data v => .payload (payloadOf py v)

/-- Where the text is read at all, it is read as a value that can be written and read again;
    of its floating-point numbers `float.__repr__` promises that. -/
def Plain (text : String) : Prop := ∀ v, py.loads text = .ok v → Json.Writable py.floatText py.depth v

def AllPlain (q : TextQueues) : Prop := ∀ level, ∀ text ∈ q level, Plain py text

/-! ## The platform over texts -/

structure TextStore where
  db : Database := {}
  queues : TextQueues := fun _ => []

def submitTask (fault : QueueService.Fault) (enqueuedAt : String) (user : User) (t : TaskId) (s : TextStore) :
    Except AppException Unit × TextStore :=
  match TaskService.getOwnedTask s.db t user with
  | .error refusal => (.error refusal, s)
  | .ok task =>
      match TaskService.submitGuard task with
      | .error refusal => (.error refusal, s)
      | .ok _ =>
          match enqueueTask py fault enqueuedAt task.id task.priority s.queues with
          | (.error failure, queues) => (.error failure, { s with queues })
          | (.ok _, queues) =>
              (.ok (),
                { db := (s.db.updateTask task.id TaskService.submitted TaskService.submitted_id).addLog task.id
                    "system" "task submitted to scheduler queue"
                  queues })

structure Call where
  store : TextStore
  returned : Option Bool
  launched : Option (Task × Allocation × AgentRun) := none

open Scheduler in
def scheduleOne (env : Env) (s : TextStore) : Call :=
  let (popped, queues) := dequeue py env.popFault s.queues
  match plan env s.db (popped.decoded py), popped with
  | .ignored, _ | .skipped _, _ => { store := { s with queues }, returned := some false }
  | .requeue task _ priority, .data taskData =>
      { store :=
          { db := s.db.addLog task.id "system" "No available GPU or online node, task requeued."
            queues := requeue py env.pushFault taskData priority queues }
        returned := some false }
  | .launch task a, _ =>
      let run := ContainerManager.launch env.settings env.agent task a
      { store := { db := settle env s.db task a run, queues }
        returned := some (accepted run).toBool
        launched := some (task, a, run) }
  | _, _ => { store := { s with queues }, returned := none }

structure TextWorld extends TextStore where
  launches : List TaskId := []
  containers : List Container := []

/-- The world that the texts stand for. -/
def TextWorld.view (w : TextWorld) : World where
  db := w.db
  queues := decodeQueues py w.queues
  launches := w.launches
  containers := w.containers

inductive Op where
  | submit (fault : QueueService.Fault) (enqueuedAt : String) (user : User) (t : TaskId)
  | schedule (env : Scheduler.Env)
  /-- Any operation of the platform that leaves the lists alone. -/
  | other (op : Platform.Op) (quiet : QueueOrder.usesQueues op = false)
  /-- Anything else that happens to the lists. -/
  | texts (queues : TextQueues) (plain : AllPlain py queues)

def Op.platform : Op py → Platform.Op
  | .submit fault enqueuedAt user t => .submit fault enqueuedAt user t
  | .schedule env => .schedule env
  | .other op _ => op
  | .texts queues _ => .queues (decodeQueues py queues)

def exec : Op py → TextWorld → TextWorld
  | .submit fault enqueuedAt user t, w =>
      { w with toTextStore := (submitTask py fault enqueuedAt user t w.toTextStore).2 }
  | .schedule env, w =>
      let call := scheduleOne py env w.toTextStore
      { toTextStore := call.store
        launches := w.launches ++ (call.launched.map fun launch => launch.1.id).toList
        containers := w.containers ++ (call.launched.bind (Platform.startedContainer env)).toList }
  | .other op _, w =>
      let after := Platform.exec op { db := w.db, launches := w.launches, containers := w.containers }
      { w with db := after.db, launches := after.launches, containers := after.containers }
  | .texts queues _, w => { w with queues }

/-! ## Texts and what they stand for -/

theorem decode_dumps {v : Json} (writable : Json.Writable py.floatText py.depth v) :
    decode py (py.dumps v) = .json (payloadOf py v) := by
  have filled : py.dumps v ≠ "" := by
    have back : Json.ReadsBack (Json.value py.depth) (Json.dumps py.floatText v) v := Json.readsBack_dumps writable
    obtain ⟨c, tail, text, _⟩ := back.begins
    intro empty
    have none := congrArg String.toList empty
    rw [Python.dumps, String.toList_ofList, text] at none
    cases none
  rw [decode, if_neg filled, py.loads_dumps writable]

theorem plain_dumps {v : Json} (writable : Json.Writable py.floatText py.depth v) : Plain py (py.dumps v) := by
  intro v' read
  rw [py.loads_dumps writable] at read
  cases read
  exact writable

theorem writable_taskPayload (taskId : TaskId) (enqueuedAt : String) :
    Json.Writable py.floatText py.depth (taskPayload taskId enqueuedAt) := by
  have deep := py.deep
  cases depth : py.depth with
  | zero => omega
  | succ d =>
      simp [taskPayload, Json.Writable]

/-- What `QueueManager.enqueue` writes, with the `time.time()` of the call. -/
def schedulerPayload (taskId : TaskId) (priority : Int) (enqueuedAt : Binary64) : Json :=
  .obj [("task_id", .str taskId), ("priority", .int priority), ("enqueued_at", .float enqueuedAt)]

theorem plain_schedulerPayload {taskId : TaskId} {priority : Int} {enqueuedAt : Binary64}
    (short : (Nat.toDigits 10 priority.natAbs).length ≤ Json.maxStrDigits)
    (reads : Json.ReadsBack (Json.value (py.depth - 1)) (py.floatText enqueuedAt) (.float enqueuedAt)) :
    Plain py (py.dumps (schedulerPayload taskId priority enqueuedAt)) := by
  apply plain_dumps
  have deep := py.deep
  cases depth : py.depth with
  | zero => omega
  | succ d =>
      rw [depth, Nat.add_sub_cancel] at reads
      simp [schedulerPayload, Json.Writable, short, reads]

theorem payloadOf_taskPayload (taskId : TaskId) (enqueuedAt : String) :
    .json (payloadOf py (taskPayload taskId enqueuedAt)) = QueueService.payload taskId enqueuedAt := rfl

/-! ## The lists -/

theorem list_decodeQueues (q : TextQueues) (level : QueueLevel) :
    (decodeQueues py q).list level = (q level).map (decode py) := by
  cases level <;> rfl

theorem decodeQueues_update (q : TextQueues) (level : QueueLevel) (texts : List String) :
    decodeQueues py (Function.update q level texts) = (decodeQueues py q).put level (texts.map (decode py)) := by
  cases level <;> simp [decodeQueues, Queues.put, Function.update]

theorem decodeQueues_lpush (q : TextQueues) (level : QueueLevel) (text : String) :
    decodeQueues py (q.lpush level text) = (decodeQueues py q).lpush level (decode py text) := by
  rw [TextQueues.lpush, decodeQueues_update, Queues.lpush, list_decodeQueues, List.map_cons]

theorem decodeQueues_rpush (q : TextQueues) (level : QueueLevel) (text : String) :
    decodeQueues py (q.rpush level text) = (decodeQueues py q).rpush level (decode py text) := by
  rw [TextQueues.rpush, decodeQueues_update, Queues.rpush, list_decodeQueues, List.map_append, List.map_singleton]

theorem rpop_decodeQueues (q : TextQueues) (level : QueueLevel) :
    (decodeQueues py q).rpop level =
      (q.rpop level).map fun popped => (decode py popped.1, decodeQueues py popped.2) := by
  rw [Queues.rpop, TextQueues.rpop, list_decodeQueues, List.getLast?_map, Option.map_map, Option.map_map]
  congr 1
  funext text
  simp only [Function.comp_apply, decodeQueues_update, List.map_dropLast]

theorem dequeueFrom_decoded (fault : Option QueueLevel) (levels : List QueueLevel) (q : TextQueues) :
    QueueManager.dequeueFrom fault levels (decodeQueues py q) =
      ((dequeueFrom py fault levels q).1.decoded py, decodeQueues py (dequeueFrom py fault levels q).2) := by
  induction levels generalizing q with
  | nil => rfl
  | cons level rest ih =>
      rw [QueueManager.dequeueFrom, dequeueFrom, rpop_decodeQueues]
      by_cases fails : fault = some level
      · rw [if_pos fails, if_pos fails]
        rfl
      · rw [if_neg fails, if_neg fails]
        cases popped : q.rpop level with
        | none => exact ih q
        | some pair =>
            obtain ⟨raw, q'⟩ := pair
            by_cases empty : raw = ""
            · simp only [Option.map_some, decode, if_pos empty]
              exact ih q'
            · simp only [Option.map_some, decode, if_neg empty]
              cases py.loads raw with
              | error failure => rfl
              | ok v => rfl

/-! ## One step -/

theorem enqueueTask_decoded (fault : QueueService.Fault) (enqueuedAt : String) (taskId : TaskId) (priority : Int)
    (q : TextQueues) :
    QueueService.enqueueTask fault enqueuedAt taskId priority (decodeQueues py q) =
      ((enqueueTask py fault enqueuedAt taskId priority q).1,
        decodeQueues py (enqueueTask py fault enqueuedAt taskId priority q).2) := by
  have pushed := decodeQueues_lpush py q (QueueService.getQueueLevel priority)
    (py.dumps (taskPayload taskId enqueuedAt))
  rw [decode_dumps py (writable_taskPayload py taskId enqueuedAt), payloadOf_taskPayload] at pushed
  cases fault with
  | none | publish => exact Prod.ext rfl pushed.symm
  | lpush => rfl

theorem submitTask_decoded (fault : QueueService.Fault) (enqueuedAt : String) (user : User) (t : TaskId)
    (s : TextStore) :
    (TaskService.submitTask fault enqueuedAt user t { db := s.db, queues := decodeQueues py s.queues }).2 =
      { db := (submitTask py fault enqueuedAt user t s).2.db
        queues := decodeQueues py (submitTask py fault enqueuedAt user t s).2.queues } := by
  rw [TaskService.submitTask, submitTask]
  cases TaskService.getOwnedTask s.db t user with
  | error refusal => rfl
  | ok task =>
      simp only
      cases TaskService.submitGuard task with
      | error refusal => rfl
      | ok passed =>
          simp only [enqueueTask_decoded]
          cases enqueueTask py fault enqueuedAt task.id task.priority s.queues with
          | mk outcome queues => cases outcome <;> rfl

/-- Only an object is put back. -/
theorem plan_requeue {env : Scheduler.Env} {db : Database} {payload : Payload} {task : Task} {fields : Dict}
    {priority : Int} (planned : Scheduler.plan env db (.payload payload) = .requeue task fields priority) :
    payload = .object fields := by
  cases payload with
  | other value =>
      simp only [Scheduler.plan] at planned
      split at planned <;> cases planned
  | object fields' =>
      have reached : ∃ t, Scheduler.planTask db fields' t = .requeue task fields priority := by
        simp only [Scheduler.plan] at planned
        split at planned
        · cases planned
        · split at planned
          · split at planned
            · exact ⟨_, planned⟩
            · split at planned
              · exact ⟨_, planned⟩
              · cases planned
          · cases planned
      obtain ⟨t, reached⟩ := reached
      rw [(Scheduler.planTask_requeue reached).2.1]

theorem plain_update {q : TextQueues} (plain : AllPlain py q) {level : QueueLevel} {texts : List String}
    (new : ∀ text ∈ texts, text ∈ q level ∨ Plain py text) : AllPlain py (Function.update q level texts) := by
  intro other text inside
  by_cases same : other = level
  · subst same
    rw [Function.update_self] at inside
    exact (new text inside).elim (plain other text) id
  · rw [Function.update_of_ne same] at inside
    exact plain other text inside

/-- What is popped is read from a text of the lists. -/
theorem dequeueFrom_plain (fault : Option QueueLevel) (levels : List QueueLevel) {q : TextQueues}
    (plain : AllPlain py q) :
    AllPlain py (dequeueFrom py fault levels q).2 ∧
      ∀ v, (dequeueFrom py fault levels q).1 = .data v → Json.Writable py.floatText py.depth v := by
  induction levels generalizing q with
  | nil => exact ⟨plain, fun _ read => nomatch read⟩
  | cons level rest ih =>
      rw [dequeueFrom]
      split
      · exact ⟨plain, fun _ read => nomatch read⟩
      · split
        · exact ih plain
        · rename_i raw q' popped
          obtain ⟨last, found, pair⟩ := Option.map_eq_some_iff.mp popped
          cases pair
          have left : AllPlain py (Function.update q level (q level).dropLast) :=
            plain_update py plain fun text inside => .inl (List.mem_of_mem_dropLast inside)
          split
          · exact ih left
          · split
            · exact ⟨left, fun _ read => nomatch read⟩
            · rename_i v read
              refine ⟨left, ?_⟩
              rintro _ ⟨⟩
              exact plain level raw (List.mem_of_getLast? found) v read

theorem requeue_decoded {v : Json} (writable : Json.Writable py.floatText py.depth v) {fields : Dict}
    (object : payloadOf py v = .object fields) (fault : Bool) (priority : Int) (q : TextQueues) :
    QueueManager.requeue fault fields priority (decodeQueues py q) =
      decodeQueues py (requeue py fault v priority q) := by
  cases fault with
  | true => rfl
  | false =>
      have pushed := decodeQueues_rpush py q (QueueManager.getQueueName priority) (py.dumps v)
      rw [decode_dumps py writable, object] at pushed
      exact pushed.symm

theorem scheduleOne_decoded (env : Scheduler.Env) {s : TextStore} (plain : AllPlain py s.queues) :
    Scheduler.scheduleOne env { db := s.db, queues := decodeQueues py s.queues } =
      { store :=
          { db := (scheduleOne py env s).store.db
            queues := decodeQueues py (scheduleOne py env s).store.queues }
        returned := (scheduleOne py env s).returned
        launched := (scheduleOne py env s).launched } := by
  have told := dequeueFrom_decoded py env.popFault [.high, .normal, .low] s.queues
  have written := (dequeueFrom_plain py env.popFault [.high, .normal, .low] plain).2
  rw [Scheduler.scheduleOne, scheduleOne, QueueManager.dequeue, told, dequeue]
  generalize dequeueFrom py env.popFault [.high, .normal, .low] s.queues = result at written
  obtain ⟨popped, queues⟩ := result
  simp only at written ⊢
  cases planned : Scheduler.plan env s.db (popped.decoded py) with
  | ignored | skipped | raised | launch => cases popped <;> simp only
  | requeue task fields priority =>
      cases popped with
      | nothing => cases planned
      | undecodable => cases planned
      | data v =>
          have object : payloadOf py v = .object fields := plan_requeue planned
          simp only [requeue_decoded py (written v rfl) object]

theorem exec_quiet {op : Platform.Op} (quiet : QueueOrder.usesQueues op = false) (w : World) (q : Queues) :
    Platform.exec op { w with queues := q } = { Platform.exec op w with queues := q } := by
  cases op with
  | submit | schedule | queues => cases quiet
  | create | finished | heartbeat | billing =>
      simp only [Platform.exec]
      split <;> rfl
  | cancel | callback | markOffline | container | remove => rfl

/-- What a step of the texts leads to stands for what the platform's step leads to. -/
theorem exec_view (op : Op py) {w : TextWorld} (plain : AllPlain py w.queues) :
    (exec py op w).view py = Platform.exec (op.platform py) (w.view py) := by
  cases op with
  | submit fault enqueuedAt user t =>
      have submitted := submitTask_decoded py fault enqueuedAt user t w.toTextStore
      simp only [exec, Op.platform, Platform.exec, TextWorld.view, submitted]
  | schedule env =>
      have called := scheduleOne_decoded py env plain
      simp only [exec, Op.platform, Platform.exec, Platform.schedule, TextWorld.view, called]
  | other op quiet =>
      have moved := exec_quiet quiet { db := w.db, launches := w.launches, containers := w.containers }
        (decodeQueues py w.queues)
      simp only [exec, Op.platform, TextWorld.view, moved]
  | texts queues plain => rfl

theorem submitTask_plain (fault : QueueService.Fault) (enqueuedAt : String) (user : User) (t : TaskId)
    {s : TextStore} (plain : AllPlain py s.queues) :
    AllPlain py (submitTask py fault enqueuedAt user t s).2.queues := by
  have pushed : ∀ taskId priority, AllPlain py (enqueueTask py fault enqueuedAt taskId priority s.queues).2 := by
    intro taskId priority
    have new : AllPlain py (s.queues.lpush (QueueService.getQueueLevel priority)
        (py.dumps (taskPayload taskId enqueuedAt))) := by
      apply plain_update py plain
      intro text inside
      rcases List.mem_cons.mp inside with rfl | old
      · exact .inr (plain_dumps py (writable_taskPayload py taskId enqueuedAt))
      · exact .inl old
    cases fault with
    | none | publish => exact new
    | lpush => exact plain
  rw [submitTask]
  cases TaskService.getOwnedTask s.db t user with
  | error refusal => exact plain
  | ok task =>
      simp only
      cases TaskService.submitGuard task with
      | error refusal => exact plain
      | ok passed =>
          simp only
          have here := pushed task.id task.priority
          cases outcome : enqueueTask py fault enqueuedAt task.id task.priority s.queues with
          | mk result queues =>
              rw [outcome] at here
              cases result with
              | error failure => exact here
              | ok done => exact here

theorem scheduleOne_plain (env : Scheduler.Env) {s : TextStore} (plain : AllPlain py s.queues) :
    AllPlain py (scheduleOne py env s).store.queues := by
  obtain ⟨left, written⟩ := dequeueFrom_plain py env.popFault [.high, .normal, .low] plain
  rw [scheduleOne, dequeue]
  generalize dequeueFrom py env.popFault [.high, .normal, .low] s.queues = result at left written
  obtain ⟨popped, queues⟩ := result
  simp only at left written ⊢
  cases planned : Scheduler.plan env s.db (popped.decoded py) with
  | ignored | skipped | raised | launch => cases popped <;> exact left
  | requeue task fields priority =>
      cases popped with
      | nothing => cases planned
      | undecodable => cases planned
      | data v =>
          change AllPlain py (requeue py env.pushFault v priority queues)
          unfold requeue
          split
          · exact left
          · apply plain_update py left
            intro text inside
            rcases List.mem_append.mp inside with old | new
            · exact .inl old
            · exact .inr (List.mem_singleton.mp new ▸ plain_dumps py (written v rfl))

theorem plain_step (op : Op py) {w : TextWorld} (plain : AllPlain py w.queues) :
    AllPlain py (exec py op w).queues := by
  cases op with
  | submit fault enqueuedAt user t => exact submitTask_plain py fault enqueuedAt user t plain
  | schedule env => exact scheduleOne_plain py env plain
  | other op quiet => exact plain
  | texts queues plain => exact plain

/-- In every run the texts stand for what the platform model has in its lists, and all
    else is the same. -/
theorem texts_refine (ops : List (Op py)) (db : Database) :
    (Runs.run (exec py) ops { db }).view py = Runs.run Platform.exec (ops.map (Op.platform py)) { db } := by
  apply Runs.run_view (I := fun w => AllPlain py w.queues) (Op.platform py)
  · exact fun _ op plain => plain_step py op plain
  · exact fun _ op plain => exec_view py op plain
  · exact fun _ _ inside => nomatch inside

end

end Wire

end SuitApi
