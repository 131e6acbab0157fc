import SuitApi.Exceptions
import SuitApi.Schema
import SuitApi.Text

/-! # The Redis queue lists

`QueueService` (backend) pushes task payloads on the left of one of three lists;
`QueueManager` (scheduler) pops them on the right, and pushes a payload it cannot
place back on the right.  Anything may stand in the lists: a payload is what
`json.loads` makes of the element, and its fields are looked up by name.
-/

namespace SuitApi

inductive QueueLevel where
  | high | normal | low
  deriving Repr, DecidableEq

/-- A decoded queue element. -/
inductive Payload where
  /-- A JSON object. -/
  | object (fields : Dict)
  /-- Any other JSON value, on which `.get` fails. -/
  | other (value : Value)
  deriving Repr, DecidableEq

def Payload.truthy : Payload → Bool
  | .object fields => fields ≠ []
  | .other value => value.truthy

/-- An element of a Redis list. -/
inductive RawPayload where
  | empty
  | invalid
  | json (payload : Payload)
  deriving Repr, DecidableEq

/-- The three lists, leftmost element first. -/
structure Queues where
  high : List RawPayload := []
  normal : List RawPayload := []
  low : List RawPayload := []
  deriving Repr, DecidableEq

namespace Queues

def list (q : Queues) : QueueLevel → List RawPayload
  | .high => q.high
  | .normal => q.normal
  | .low => q.low

def put (q : Queues) (level : QueueLevel) (elements : List RawPayload) : Queues :=
  match level with
  | .high => { q with high := elements }
  | .normal => { q with normal := elements }
  | .low => { q with low := elements }

def lpush (q : Queues) (level : QueueLevel) (raw : RawPayload) : Queues :=
  q.put level (raw :: q.list level)

def rpush (q : Queues) (level : QueueLevel) (raw : RawPayload) : Queues :=
  q.put level (q.list level ++ [raw])

def rpop (q : Queues) (level : QueueLevel) : Option (RawPayload × Queues) :=
  (q.list level).getLast?.map fun raw => (raw, q.put level (q.list level).dropLast)

end Queues

/-! ## Counting the payloads of a task -/

/-- `payload.get("task_id")` is this text. -/
def Payload.carries (t : TaskId) : Payload → Bool
  | .object fields => Dict.get fields "task_id" = some (.str t)
  | .other _ => false

def RawPayload.carries (t : TaskId) : RawPayload → Bool
  | .json payload => payload.carries t
  | .empty | .invalid => false

namespace Queues

/-- The number of payloads of the task in the three lists. -/
def waiting (t : TaskId) (q : Queues) : Nat :=
  q.high.countP (RawPayload.carries t) + q.normal.countP (RawPayload.carries t) +
    q.low.countP (RawPayload.carries t)

theorem waiting_put (t : TaskId) (q : Queues) (level : QueueLevel) (elements : List RawPayload) :
    (q.put level elements).waiting t + (q.list level).countP (RawPayload.carries t) =
      q.waiting t + elements.countP (RawPayload.carries t) := by
  cases level <;> simp only [waiting, put, list] <;> omega

theorem countP_singleton (t : TaskId) (raw : RawPayload) :
    [raw].countP (RawPayload.carries t) = (raw.carries t).toNat := by
  rw [List.countP_singleton]
  cases raw.carries t <;> rfl

theorem waiting_lpush (t : TaskId) (q : Queues) (level : QueueLevel) (raw : RawPayload) :
    (q.lpush level raw).waiting t = q.waiting t + (raw.carries t).toNat := by
  have moved := waiting_put t q level ([raw] ++ q.list level)
  rw [List.countP_append, countP_singleton] at moved
  unfold lpush
  rw [List.singleton_append] at moved
  omega

theorem waiting_rpush (t : TaskId) (q : Queues) (level : QueueLevel) (raw : RawPayload) :
    (q.rpush level raw).waiting t = q.waiting t + (raw.carries t).toNat := by
  have moved := waiting_put t q level (q.list level ++ [raw])
  rw [List.countP_append, countP_singleton] at moved
  unfold rpush
  omega

theorem waiting_rpop {t : TaskId} {q q' : Queues} {level : QueueLevel} {raw : RawPayload}
    (popped : q.rpop level = some (raw, q')) :
    q.waiting t = q'.waiting t + (raw.carries t).toNat := by
  obtain ⟨last, found, pair⟩ := Option.map_eq_some_iff.mp popped
  cases pair
  have moved := waiting_put t q level (q.list level).dropLast
  have whole : q.list level = (q.list level).dropLast ++ [raw] :=
    (List.dropLast_append_getLast? raw found).symm
  have split := congrArg (List.countP (RawPayload.carries t)) whole
  rw [List.countP_append, countP_singleton] at split
  omega

theorem waiting_pos {t : TaskId} {q : Queues} {level : QueueLevel} {raw : RawPayload}
    (inside : raw ∈ q.list level) (carried : raw.carries t = true) : 0 < q.waiting t := by
  have counted : 0 < (q.list level).countP (RawPayload.carries t) := List.countP_pos_iff.mpr ⟨raw, inside, carried⟩
  unfold waiting
  cases level with
  | high | normal | low =>
      simp only [list] at counted
      omega

theorem exists_of_waiting {t : TaskId} {q : Queues} (present : 0 < q.waiting t) :
    ∃ level, ∃ raw ∈ q.list level, raw.carries t = true := by
  by_cases high : 0 < q.high.countP (RawPayload.carries t)
  · exact ⟨.high, List.countP_pos_iff.mp high⟩
  · by_cases normal : 0 < q.normal.countP (RawPayload.carries t)
    · exact ⟨.normal, List.countP_pos_iff.mp normal⟩
    · have low : 0 < q.low.countP (RawPayload.carries t) := by
        unfold waiting at present
        omega
      exact ⟨.low, List.countP_pos_iff.mp low⟩

end Queues

/-! ## Python's `int` on a decoded value -/

/-- `int(value)`, or `none` where it raises. -/
def Value.toInt : Value → Option Int
  | .bool b => some (if b then 1 else 0)
  | .int n => some n
  | .float q => some (q.num.tdiv q.den)
  | .str text => intOfText text
  | .null | .array _ | .object _ => none

/-! ## Backend side -/

namespace QueueService

def getQueueLevel (priority : Int) : QueueLevel :=
  if priority ≥ 10 then .high
  else if priority < 0 then .low
  else .normal

/-- Which of the two commands of `enqueue_task` the Redis server fails. -/
inductive Fault where
  | none | lpush | publish
  deriving Repr, DecidableEq

def payload (taskId : TaskId) (enqueuedAt : String) : RawPayload :=
  .json (.object [("task_id", .str taskId), ("enqueued_at", .str enqueuedAt)])

def enqueueTask (fault : Fault) (enqueuedAt : String) (taskId : TaskId) (priority : Int)
    (q : Queues) : Except AppException Unit × Queues :=
  let pushed := q.lpush (getQueueLevel priority) (payload taskId enqueuedAt)
  let unavailable := AppException.make 503 "redis queue unavailable"
  match fault with
  | .none => (.ok (), pushed)
  | .lpush => (.error unavailable, q)
  | .publish => (.error unavailable, pushed)

end QueueService

/-! ## Scheduler side -/

namespace QueueManager

/-- The result of `dequeue`, or the exception of `json.loads`. -/
inductive Popped where
  | nothing
  | undecodable
  | payload (payload : Payload)
  deriving Repr, DecidableEq

def getQueueName (priority : Int) : QueueLevel :=
  if priority ≥ 10 then .high
  else if priority ≥ 0 then .normal
  else .low

/-- The loop of `dequeue` over the remaining lists.  An element that is the empty
    string is consumed and the loop goes on; a `RedisError` ends it. -/
def dequeueFrom (fault : Option QueueLevel) : List QueueLevel → Queues → Popped × Queues
  | [], q => (.nothing, q)
  | level :: rest, q =>
      if fault = some level then (.nothing, q)
      else match q.rpop level with
        | none => dequeueFrom fault rest q
        | some (.empty, q') => dequeueFrom fault rest q'
        | some (.invalid, q') => (.undecodable, q')
        | some (.json payload, q') => (.payload payload, q')

/-- `dequeue`; `fault` names the list whose RPOP the server fails, if any. -/
def dequeue (fault : Option QueueLevel) (q : Queues) : Popped × Queues :=
  dequeueFrom fault [.high, .normal, .low] q

def Popped.carries (t : TaskId) : Popped → Bool
  | .payload decoded => decoded.carries t
  | .nothing | .undecodable => false

/-- What `dequeue` takes out of the lists is what it returns, empty elements and
    undecodable ones apart. -/
theorem waiting_dequeueFrom (t : TaskId) (fault : Option QueueLevel) (levels : List QueueLevel)
    (q : Queues) :
    q.waiting t = (dequeueFrom fault levels q).2.waiting t +
      ((dequeueFrom fault levels q).1.carries t).toNat := by
  induction levels generalizing q with
  | nil => simp [dequeueFrom, Popped.carries]
  | cons level rest ih =>
      rw [dequeueFrom]
      split
      · simp [Popped.carries]
      · split
        · exact ih q
        · rename_i popped
          rw [Queues.waiting_rpop popped, ih]
          simp [RawPayload.carries]
        · rename_i popped
          rw [Queues.waiting_rpop popped]
          simp [RawPayload.carries, Popped.carries]
        · rename_i popped
          rw [Queues.waiting_rpop popped]
          rfl

/-- `int(task_data.get("priority", 0) or 0)`, or `none` where it raises. -/
def requeuePriority (fields : Dict) : Option Int :=
  let value := (Dict.get fields "priority").getD (.int 0)
  if value.truthy then value.toInt else some 0

/-- The RPUSH of `requeue`; a failing server is only logged. -/
def requeue (fault : Bool) (fields : Dict) (priority : Int) (q : Queues) : Queues :=
  if fault then q else q.rpush (getQueueName priority) (.json (.object fields))

end QueueManager

end SuitApi
