import SuitApi.Library.Decimal
import SuitApi.Schema

/-! # The periodic billing run

`calculate_task_billing` charges the tasks that ended in success and are not yet
billed.  What it charges for is what the task row lists at that moment.
-/

namespace SuitApi.BillingService

/-- `int((finished_at - started_at).total_seconds())`, not below zero; the
    floating-point seconds are exact for durations under 2^33 seconds. -/
def wholeSeconds (started finished : Time) : Int := max ((finished - started).tdiv 1000000) 0

/-- `cost` as the default decimal context computes it, before it is quantized. -/
def amount (rate : ℚ) (duration : Int) (gpuCount : Nat) : ℚ :=
  Decimal.context (Decimal.context (duration / 3600) * Decimal.context (gpuCount * rate))

def cost (rate : ℚ) (duration : Int) (gpuCount : Nat) : Option ℚ :=
  Decimal.quantize 4 (amount rate duration gpuCount)

def markBilled (task : Task) : Task := { task with billed := true }

theorem markBilled_id (task : Task) : (markBilled task).id = task.id := rfl

def withCredits (credits : ℚ) (user : User) : User := { user with credits }

theorem withCredits_id (credits : ℚ) (user : User) : (withCredits credits user).id = user.id := rfl

/-- `Numeric(10, 4)`: a larger value makes the commit fail. -/
def fitsColumn (cost : ℚ) : Bool := |cost| < 1000000

def record (db : Database) (task : Task) (duration : Int) (finished : Time) (cost : ℚ) :
    BillingRecord where
  userId := task.userId
  taskId := some task.id
  resourceType := "gpu_time"
  gpuModel := (task.assignedNodeId.bind db.nodes.get).bind (·.gpuModel)
  durationSeconds := duration
  costCredits := cost
  createdAt := finished

/-- The loop body of `calculate_task_billing`: the database after it and the
    increment of `billed_count`, or `none` where it, or later the commit, raises. -/
def billTask (rate : ℚ) (db : Database) (task : Task) : Option (Database × Nat) :=
  match task.startedAt, task.finishedAt with
  | some started, some finished =>
      let duration := wholeSeconds started finished
      let gpuCount := task.gpuIndices.length
      if duration = 0 ∨ gpuCount = 0 then
        some (db.updateTask task.id markBilled markBilled_id, 1)
      else
        match cost rate duration gpuCount with
        | none => none
        | some cost =>
            let charge (users : Table User.id) : Option (Database × Nat) :=
              if fitsColumn cost then
                some ({ db.updateTask task.id markBilled markBilled_id with
                  users
                  billingRecords := db.billingRecords ++ [record db task duration finished cost] }, 1)
              else none
            match db.users.get task.userId with
            | none => charge db.users
            | some user =>
                if user.credits < cost then some (db, 0)
                else
                  match Decimal.quantize 2 (Decimal.context (user.credits - cost)) with
                  | none => none
                  | some credits =>
                      charge (db.users.update user.id (withCredits credits) (withCredits_id credits))
  | _, _ => some (db, 0)

def billable (task : Task) : Bool :=
  task.status = .success && !task.billed && task.startedAt.isSome && task.finishedAt.isSome

theorem billable_status {task : Task} (selected : billable task = true) : task.status = .success := by
  simp only [billable, Bool.and_eq_true, decide_eq_true_eq] at selected
  exact selected.1.1.1

def billTasks (rate : ℚ) : List Task → Database × Nat → Option (Database × Nat)
  | [], done => some done
  | task :: rest, (db, count) =>
      (billTask rate db task).bind fun (db', increment) => billTasks rate rest (db', count + increment)

/-- `calculate_task_billing`, or `none` where it raises and nothing is stored. -/
def calculateTaskBilling (rate : ℚ) (db : Database) : Option (Database × Nat) :=
  billTasks rate (db.tasks.rows.filter billable) (db, 0)

/-! ## What one run does to one task -/

/-- The fate of a billable task: whether it is billed, and the records for it. -/
inductive Outcome (rate : ℚ) (task : Task) : Bool → List BillingRecord → Prop
  | skipped : Outcome rate task false []
  | waived {started finished : Time} (begun : task.startedAt = some started)
      (ended : task.finishedAt = some finished)
      (nothing : wholeSeconds started finished = 0 ∨ task.gpuIndices.length = 0) :
      Outcome rate task true []
  | charged {started finished : Time} (begun : task.startedAt = some started)
      (ended : task.finishedAt = some finished) (used : task.gpuIndices.length ≠ 0)
      {charge : ℚ} (priced : cost rate (wholeSeconds started finished) task.gpuIndices.length = some charge)
      (fits : fitsColumn charge = true) (db : Database) (lasting : wholeSeconds started finished ≠ 0) :
      Outcome rate task true [record db task (wholeSeconds started finished) finished charge]

/-- One step of the loop changes the row of its own task, as the outcome says. -/
theorem billTask_spec {rate : ℚ} {db db' : Database} {task : Task} {count : Nat}
    (done : billTask rate db task = some (db', count)) :
    ∃ billed records, Outcome rate task billed records ∧
      db'.billingRecords = db.billingRecords ++ records ∧ db'.gpus = db.gpus ∧ db'.nodes = db.nodes ∧
      ∀ t, db'.tasks.get t =
        if t = task.id ∧ billed = true then (db.tasks.get t).map markBilled else db.tasks.get t := by
  have rewritten : ∀ t, (db.updateTask task.id markBilled markBilled_id).tasks.get t =
      if t = task.id ∧ true = true then (db.tasks.get t).map markBilled else db.tasks.get t := by
    intro t
    rw [Database.updateTask_get]
    simp only [and_true]
  unfold billTask at done
  split at done
  · rename_i started finished begun ended
    simp only at done
    split at done
    · rename_i nothing
      cases done
      exact ⟨true, [], .waived begun ended nothing, (List.append_nil _).symm, rfl, rfl, rewritten⟩
    · rename_i something
      have used : task.gpuIndices.length ≠ 0 := fun none => something (.inr none)
      have lasting : wholeSeconds started finished ≠ 0 := fun zero => something (.inl zero)
      split at done
      · cases done
      · rename_i charge priced
        split at done
        · split at done
          · rename_i fits
            cases done
            exact ⟨true, _, .charged begun ended used priced fits db lasting, rfl, rfl, rfl, rewritten⟩
          · cases done
        · split at done
          · cases done
            refine ⟨false, [], .skipped, (List.append_nil _).symm, rfl, rfl, fun t => ?_⟩
            rw [if_neg (fun h => Bool.false_ne_true h.2)]
          · split at done
            · cases done
            · split at done
              · rename_i fits
                cases done
                exact ⟨true, _, .charged begun ended used priced fits db lasting, rfl, rfl, rfl, rewritten⟩
              · cases done
  · cases done
    refine ⟨false, [], .skipped, (List.append_nil _).symm, rfl, rfl, fun t => ?_⟩
    rw [if_neg (fun h => Bool.false_ne_true h.2)]

theorem Outcome.own {rate : ℚ} {task : Task} {billed : Bool} {records : List BillingRecord}
    (outcome : Outcome rate task billed records) {row : BillingRecord} (inside : row ∈ records) :
    row.taskId = some task.id ∧ row.resourceType = "gpu_time" := by
  cases outcome with
  | skipped => cases inside
  | waived => cases inside
  | charged =>
      rw [List.mem_singleton] at inside
      subst inside
      exact ⟨rfl, rfl⟩

/-- The records that a run inserted for one task. -/
def recordsOf (t : TaskId) (records : List BillingRecord) : List BillingRecord :=
  records.filter fun row => row.taskId = some t

theorem Outcome.recordsOf_eq {rate : ℚ} {task : Task} {billed : Bool} {records : List BillingRecord}
    (outcome : Outcome rate task billed records) (t : TaskId) :
    recordsOf t records = if t = task.id then records else [] := by
  split
  · rename_i same
    apply List.filter_eq_self.mpr
    intro row inside
    rw [(outcome.own inside).1, same]
    exact decide_eq_true rfl
  · rename_i other
    apply List.filter_eq_nil_iff.mpr
    intro row inside
    rw [(outcome.own inside).1]
    simp [Ne.symm other]

/-- What a run does to the row and the records of the task `t`. -/
inductive Fate (rate : ℚ) (tasks : List Task) (t : TaskId) (old new : Option Task)
    (records : List BillingRecord) : Prop
  | untouched (outside : ∀ task ∈ tasks, task.id ≠ t) (same : new = old) (none : records = [])
  | processed (task : Task) (inside : task ∈ tasks) (here : task.id = t) (billed : Bool)
      (outcome : Outcome rate task billed records)
      (row : new = if billed = true then old.map markBilled else old)

theorem billTasks_spec {rate : ℚ} {tasks : List Task} {db db' : Database} {count count' : Nat}
    (distinct : (tasks.map (·.id)).Nodup)
    (done : billTasks rate tasks (db, count) = some (db', count')) :
    ∃ records, db'.billingRecords = db.billingRecords ++ records ∧ db'.gpus = db.gpus ∧
      db'.nodes = db.nodes ∧
      ∀ t, Fate rate tasks t (db.tasks.get t) (db'.tasks.get t) (recordsOf t records) := by
  induction tasks generalizing db count with
  | nil =>
      cases done
      exact ⟨[], (List.append_nil _).symm, rfl, rfl, fun t => .untouched (by simp) rfl rfl⟩
  | cons task rest ih =>
      rw [billTasks] at done
      obtain ⟨⟨middle, increment⟩, first, others⟩ := Option.bind_eq_some_iff.mp done
      obtain ⟨billed, own, outcome, ownRecords, ownGpus, ownNodes, ownRow⟩ := billTask_spec first
      rw [List.map_cons, List.nodup_cons] at distinct
      obtain ⟨records, restRecords, restGpus, restNodes, fates⟩ := ih distinct.2 others
      refine ⟨own ++ records, ?_, restGpus.trans ownGpus, restNodes.trans ownNodes, fun t => ?_⟩
      · rw [restRecords, ownRecords, List.append_assoc]
      · have fate := fates t
        have filtered : recordsOf t (own ++ records) = recordsOf t own ++ recordsOf t records :=
          List.filter_append _ _
        rw [filtered, outcome.recordsOf_eq]
        by_cases same : t = task.id
        · rw [if_pos same]
          cases fate with
          | untouched outside unchanged none =>
              rw [none, List.append_nil]
              refine .processed task List.mem_cons_self same.symm billed outcome ?_
              rw [unchanged, ownRow]
              simp only [same, true_and]
          | processed other inside here =>
              exact absurd (List.mem_map.mpr ⟨other, inside, here.trans same⟩) distinct.1
        · have kept : middle.tasks.get t = db.tasks.get t := by
            rw [ownRow, if_neg (fun h => same h.1)]
          rw [if_neg same, List.nil_append]
          rw [kept] at fate
          cases fate with
          | untouched outside unchanged none =>
              refine .untouched (fun other member => ?_) unchanged none
              rcases List.mem_cons.mp member with rfl | member
              · exact Ne.symm same
              · exact outside other member
          | processed other inside here billed outcome row =>
              exact .processed other (List.mem_cons_of_mem _ inside) here billed outcome row

/-- A run treats the tasks it selects one by one and leaves all others alone. -/
theorem calculateTaskBilling_spec {rate : ℚ} {db db' : Database} {count : Nat}
    (done : calculateTaskBilling rate db = some (db', count)) :
    ∃ records, db'.billingRecords = db.billingRecords ++ records ∧ db'.gpus = db.gpus ∧
      db'.nodes = db.nodes ∧
      ∀ t, Fate rate (db.tasks.rows.filter billable) t (db.tasks.get t) (db'.tasks.get t)
        (recordsOf t records) := by
  apply billTasks_spec _ done
  exact db.tasks.unique.sublist (List.filter_sublist.map _)

theorem billTask_runningContainers {rate : ℚ} {db db' : Database} {task : Task} {count : Nat}
    (done : billTask rate db task = some (db', count)) : db'.runningContainers = db.runningContainers := by
  unfold billTask at done
  split at done
  · simp only at done
    split at done
    · cases done
      rfl
    · split at done
      · cases done
      · split at done
        · split at done <;> cases done
          rfl
        · split at done
          · cases done
            rfl
          · split at done
            · cases done
            · split at done <;> cases done
              rfl
  · cases done
    rfl

theorem calculateTaskBilling_runningContainers {rate : ℚ} {db db' : Database} {count : Nat}
    (done : calculateTaskBilling rate db = some (db', count)) :
    db'.runningContainers = db.runningContainers := by
  unfold calculateTaskBilling at done
  generalize db.tasks.rows.filter billable = tasks at done
  generalize 0 = before at done
  induction tasks generalizing db before with
  | nil =>
      cases done
      rfl
  | cons task rest ih =>
      rw [billTasks] at done
      obtain ⟨⟨middle, increment⟩, first, others⟩ := Option.bind_eq_some_iff.mp done
      exact (ih _ others).trans (billTask_runningContainers first)

/-- Billing writes tasks, users and records. -/
theorem billTask_frame {rate : ℚ} {db db' : Database} {task : Task} {count : Nat}
    (done : billTask rate db task = some (db', count)) :
    db' = { db with tasks := db'.tasks, users := db'.users, billingRecords := db'.billingRecords } := by
  unfold billTask at done
  split at done
  · simp only at done
    split at done
    · cases done
      rfl
    · split at done
      · cases done
      · split at done
        · split at done <;> cases done
          rfl
        · split at done
          · cases done
            rfl
          · split at done
            · cases done
            · split at done <;> cases done
              rfl
  · cases done
    rfl

theorem calculateTaskBilling_frame {rate : ℚ} {db db' : Database} {count : Nat}
    (done : calculateTaskBilling rate db = some (db', count)) :
    db' = { db with tasks := db'.tasks, users := db'.users, billingRecords := db'.billingRecords } := by
  unfold calculateTaskBilling at done
  generalize db.tasks.rows.filter billable = tasks at done
  generalize 0 = before at done
  induction tasks generalizing db before with
  | nil =>
      cases done
      rfl
  | cons task rest ih =>
      rw [billTasks] at done
      obtain ⟨⟨middle, increment⟩, first, others⟩ := Option.bind_eq_some_iff.mp done
      refine (ih _ others).trans ?_
      rw [billTask_frame first]

/-! ## What one task costs its user -/

/-- The price of a billable task, if it has one. -/
def price (rate : ℚ) (task : Task) : Option ℚ :=
  match task.startedAt, task.finishedAt with
  | some started, some finished =>
      if wholeSeconds started finished = 0 ∨ task.gpuIndices.length = 0 then none
      else cost rate (wholeSeconds started finished) task.gpuIndices.length
  | _, _ => none

/-- What the loop body does to the users and the records. -/
inductive Charge (rate : ℚ) (db db' : Database) (task : Task) : Prop
  | free (unpriced : price rate task = none) (users : db'.users = db.users)
      (records : db'.billingRecords = db.billingRecords)
  | short {price' : ℚ} (priced : price rate task = some price') {user : User}
      (found : db.users.get task.userId = some user) (lacking : user.credits < price')
      (users : db'.users = db.users) (records : db'.billingRecords = db.billingRecords)
  | unowned {price' : ℚ} (priced : price rate task = some price')
      (missing : db.users.get task.userId = none) (users : db'.users = db.users) (row : BillingRecord)
      (costs : row.costCredits = price') (mine : row.userId = task.userId)
      (records : db'.billingRecords = db.billingRecords ++ [row])
  | charged {price' : ℚ} (priced : price rate task = some price') (fits : fitsColumn price' = true)
      {user : User} (found : db.users.get task.userId = some user) (enough : price' ≤ user.credits)
      {credits : ℚ} (left : Decimal.quantize 2 (Decimal.context (user.credits - price')) = some credits)
      (users : db'.users = db.users.update user.id (withCredits credits) (withCredits_id credits))
      (row : BillingRecord) (costs : row.costCredits = price') (mine : row.userId = task.userId)
      (records : db'.billingRecords = db.billingRecords ++ [row])

theorem billTask_charge {rate : ℚ} {db db' : Database} {task : Task} {count : Nat}
    (done : billTask rate db task = some (db', count)) : Charge rate db db' task := by
  unfold billTask at done
  split at done
  · rename_i started finished begun ended
    simp only at done
    split at done
    · rename_i nothing
      cases done
      exact .free (by simp only [price, begun, ended, if_pos nothing]) rfl rfl
    · rename_i something
      have priced : price rate task = cost rate (wholeSeconds started finished) task.gpuIndices.length := by
        simp only [price, begun, ended, if_neg something]
      split at done
      · cases done
      · rename_i charge costs
        rw [costs] at priced
        split at done
        · rename_i missing
          split at done
          · cases done
            exact .unowned priced missing rfl _ rfl rfl rfl
          · cases done
        · rename_i user found
          split at done
          · rename_i lacking
            cases done
            exact .short priced found lacking rfl rfl
          · rename_i enough
            split at done
            · cases done
            · rename_i credits left
              split at done
              · rename_i fits
                cases done
                exact .charged priced fits found (not_lt.mp enough) left rfl _ rfl rfl rfl
              · cases done
  · rename_i undated
    cases done
    refine .free ?_ rfl rfl
    unfold price
    split
    · rename_i started finished begun ended
      exact absurd ended (undated started finished begun)
    · rfl

/-! ## record_api_call -/

/-- The arguments of `record_api_call`, and the row of `api_calls` it makes of them. -/
structure ApiCall where
  userId : Option UserId
  apiKey : Option String
  modelName : Option String
  endpoint : String
  tokensInput : Int
  tokensOutput : Int
  latencyMs : Option Int := none
  statusCode : Option Int := none
  deriving Repr, DecidableEq

/-- `api_input_rate_per_1k_tokens` and `api_output_rate_per_1k_tokens`. -/
structure ApiRates where
  input : ℚ
  output : ℚ

/-- `total_cost` before it is quantized. -/
def apiAmount (rates : ApiRates) (tokensInput tokensOutput : Int) : ℚ :=
  Decimal.context (Decimal.context (Decimal.context (tokensInput / 1000) * rates.input) +
    Decimal.context (Decimal.context (tokensOutput / 1000) * rates.output))

def apiCost (rates : ApiRates) (call : ApiCall) : Option ℚ :=
  Decimal.quantize 4 (apiAmount rates call.tokensInput call.tokensOutput)

def apiRecord (now : Time) (userId : UserId) (call : ApiCall) (cost : ℚ) : BillingRecord where
  userId := userId
  taskId := none
  resourceType := "api_call"
  gpuModel := call.modelName
  durationSeconds := 0
  costCredits := cost
  createdAt := now

/-- `record_api_call`: the row it adds to `api_calls` and the database, or `none` where it
    raises.  The row refers to its user, so a user id that is not stored is refused. -/
def recordApiCall (rates : ApiRates) (now : Time) (call : ApiCall) (db : Database) :
    Option (ApiCall × Database) :=
  match apiCost rates call with
  | none => none
  | some totalCost =>
      match call.userId with
      | none => some (call, db)
      | some userId =>
          match db.users.get userId with
          | none => none
          | some user =>
              if userId ≠ "" ∧ 0 < totalCost then
                if user.credits < totalCost then some (call, db)
                else
                  match Decimal.quantize 2 (Decimal.context (user.credits - totalCost)) with
                  | none => none
                  | some credits =>
                      if fitsColumn totalCost then
                        some (call, { db with
                          users := db.users.update user.id (withCredits credits) (withCredits_id credits)
                          billingRecords := db.billingRecords ++ [apiRecord now userId call totalCost] })
                      else none
              else some (call, db)

/-- What an accepted call does to the users and the records. -/
inductive ApiCharge (now : Time) (call : ApiCall) (charge : ℚ) (db : Database) : Database → Prop
  | anonymous (unnamed : call.userId = none) : ApiCharge now call charge db db
  | free {user : User} (named : call.userId = some user.id) (found : db.users.get user.id = some user)
      (nothing : ¬ (user.id ≠ "" ∧ 0 < charge)) : ApiCharge now call charge db db
  | short {user : User} (named : call.userId = some user.id) (found : db.users.get user.id = some user)
      (due : user.id ≠ "" ∧ 0 < charge) (lacking : user.credits < charge) : ApiCharge now call charge db db
  | charged {user : User} (named : call.userId = some user.id) (found : db.users.get user.id = some user)
      (due : user.id ≠ "" ∧ 0 < charge) (enough : charge ≤ user.credits) {credits : ℚ}
      (left : Decimal.quantize 2 (Decimal.context (user.credits - charge)) = some credits) :
      ApiCharge now call charge db { db with
        users := db.users.update user.id (withCredits credits) (withCredits_id credits)
        billingRecords := db.billingRecords ++ [apiRecord now user.id call charge] }

theorem recordApiCall_charge {rates : ApiRates} {now : Time} {call call' : ApiCall} {db db' : Database}
    (done : recordApiCall rates now call db = some (call', db')) :
    call' = call ∧ ∃ charge, apiCost rates call = some charge ∧ ApiCharge now call charge db db' := by
  unfold recordApiCall at done
  split at done
  · cases done
  · rename_i charge priced
    split at done
    · rename_i unnamed
      cases done
      exact ⟨rfl, charge, priced, .anonymous unnamed⟩
    · rename_i userId named
      split at done
      · cases done
      · rename_i user found
        obtain rfl := Table.key_of_get found
        split at done
        · rename_i due
          split at done
          · rename_i lacking
            cases done
            exact ⟨rfl, charge, priced, .short named found due lacking⟩
          · rename_i enough
            split at done
            · cases done
            · rename_i credits left
              split at done
              · cases done
                exact ⟨rfl, charge, priced, .charged named found due (not_lt.mp enough) left⟩
              · cases done
        · rename_i nothing
          cases done
          exact ⟨rfl, charge, priced, .free named found nothing⟩

/-! ## get_billing_summary -/

structure BillingSummary where
  totalCredits : ℚ
  usedCredits : ℚ
  remaining : ℚ
  deriving Repr, DecidableEq

/-- `SELECT sum(cost_credits)` of the user's records. -/
def usedBy (userId : UserId) (records : List BillingRecord) : ℚ :=
  ((records.filter fun row => row.userId = userId).map (·.costCredits)).sum

def getBillingSummary (db : Database) (user : User) : Option BillingSummary := do
  let usedCredits ← Decimal.quantize 4 (usedBy user.id db.billingRecords)
  let remaining ← Decimal.quantize 2 user.credits
  let totalCredits ← Decimal.quantize 2 (Decimal.context (remaining + usedCredits))
  return { totalCredits, usedCredits, remaining }

end SuitApi.BillingService
