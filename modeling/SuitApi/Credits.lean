import Mathlib.Data.NNRat.Defs
import SuitApi.BillingService
import SuitApi.Library.Runs

/-! # Credits and billing records

A charge is recorded with four decimals and taken off a balance with two.  What
is left of the balance is rounded half-up, so the user pays the charge rounded
half-down, and the two books agree exactly where these rounding errors cancel.
-/

namespace SuitApi.Credits

open BillingService

/-- A step of billing; the rates of the settings are not negative. -/
inductive Op where
  | billing (rate : ℚ≥0)
  | apiCall (input output : ℚ≥0) (now : Time) (call : ApiCall)

/-- The database after the step, if it is accepted. -/
def apply : Op → Database → Option Database
  | .billing rate, db => (calculateTaskBilling rate db).map Prod.fst
  | .apiCall input output now call, db => (recordApiCall ⟨input, output⟩ now call db).map Prod.snd

def exec (op : Op) (db : Database) : Database := (apply op db).getD db

/-! ## The charges of a step -/

/-- The charges that a balance covers, one after the other. -/
def covered : ℚ → List ℚ → List ℚ
  | _, [] => []
  | balance, charge :: rest =>
      if balance < charge then covered balance rest
      else charge :: covered (balance - Decimal.halfDown 2 charge) rest

/-- The prices of the user's tasks. -/
def prices (rate : ℚ) (tasks : List Task) (userId : UserId) : List ℚ :=
  (tasks.filter fun task => task.userId = userId).filterMap (price rate)

/-- The charges the step makes to the user. -/
def charges (db : Database) (user : User) : Op → List ℚ
  | .billing rate => covered user.credits (prices rate (db.tasks.rows.filter billable) user.id)
  | .apiCall input output _ call =>
      if call.userId = some user.id ∧ user.id ≠ "" then
        covered user.credits ((apiCost ⟨input, output⟩ call).toList.filter fun cost => 0 < cost)
      else []

/-- What the balance loses. -/
def debit (charges : List ℚ) : ℚ := (charges.map (Decimal.halfDown 2)).sum

theorem covered_append (balance : ℚ) (first second : List ℚ) :
    covered balance (first ++ second) =
      covered balance first ++ covered (balance - debit (covered balance first)) second := by
  induction first generalizing balance with
  | nil => simp [covered, debit]
  | cons charge rest ih =>
      simp only [List.cons_append, covered]
      split
      · exact ih balance
      · rw [ih, List.cons_append]
        simp only [debit, List.map_cons, List.sum_cons, sub_add_eq_sub_sub]

theorem debit_append (first second : List ℚ) : debit (first ++ second) = debit first + debit second := by
  simp [debit]

/-! ## The columns -/

/-- A value of the column `Numeric(12, 2)`. -/
structure Balance (credits : ℚ) : Prop where
  whole : Decimal.Whole 2 credits
  fits : |credits| < 10 ^ 10

structure Columns (db : Database) : Prop where
  credits : ∀ id user, db.users.get id = some user → Balance user.credits
  costs : ∀ row ∈ db.billingRecords, Decimal.Whole 4 row.costCredits

/-- A charge has four decimals and is not negative. -/
structure Amount (charge : ℚ) : Prop where
  whole : Decimal.Whole 4 charge
  nonneg : 0 ≤ charge

theorem amount_of_quantize {q charge : ℚ} (nonneg : 0 ≤ q) (done : Decimal.quantize 4 q = some charge) :
    Amount charge := by
  obtain rfl := Decimal.quantize_eq_some done
  exact ⟨Decimal.halfUp_whole 4 q, Decimal.halfUp_nonneg nonneg⟩

theorem price_amount {rate : ℚ≥0} {task : Task} {charge : ℚ} (priced : price rate task = some charge) :
    Amount charge := by
  unfold price at priced
  split at priced
  · rename_i started finished _ _
    split at priced
    · cases priced
    · have duration : (0 : ℚ) ≤ wholeSeconds started finished := by
        exact_mod_cast le_max_right _ _
      have rates : (0 : ℚ) ≤ task.gpuIndices.length * rate := mul_nonneg (Nat.cast_nonneg _) rate.2
      apply amount_of_quantize _ priced
      apply Decimal.context_nonneg
      exact mul_nonneg (Decimal.context_nonneg (by positivity)) (Decimal.context_nonneg rates)
  · cases priced

theorem apiCost_whole {rates : ApiRates} {call : ApiCall} {charge : ℚ} (priced : apiCost rates call = some charge) :
    Decimal.Whole 4 charge := by
  obtain rfl := Decimal.quantize_eq_some priced
  exact Decimal.halfUp_whole 4 _

theorem Balance.after {balance charge : ℚ} (h : Balance balance) (amount : Amount charge)
    (enough : charge ≤ balance) : Balance (balance - Decimal.halfDown 2 charge) := by
  have taken : 0 ≤ Decimal.halfDown 2 charge := Decimal.halfDown_nonneg amount.nonneg
  have remains := Decimal.halfDown_le h.whole enough
  have fits := abs_lt.mp h.fits
  refine ⟨h.whole.sub (Decimal.halfDown_whole 2 charge), ?_⟩
  rw [abs_lt]
  constructor <;> linarith

/-- What the balance keeps of a charge that it covers. -/
theorem Balance.left {balance charge credits : ℚ} (h : Balance balance) (amount : Amount charge)
    (enough : charge ≤ balance)
    (left : Decimal.quantize 2 (Decimal.context (balance - charge)) = some credits) :
    credits = balance - Decimal.halfDown 2 charge := by
  have fits := abs_lt.mp h.fits
  have small : |balance - charge| < 10 ^ 10 := by
    have nonneg := amount.nonneg
    rw [abs_lt]
    constructor <;> linarith
  have short : Decimal.Representable (balance - charge) := by
    apply ((h.whole.mono (by norm_num)).sub amount.whole).representable
    linarith
  rw [Decimal.quantize_eq_some left, Decimal.context_eq_self short, Decimal.halfUp_sub h.whole enough]

/-! ## What a step charges -/

/-- The user is charged exactly this, in the balance and in the records. -/
structure Paid (db' : Database) (inserted : List BillingRecord) (user : User) (charges : List ℚ) : Prop where
  balance : db'.users.get user.id = some (withCredits (user.credits - debit charges) user)
  records : (inserted.filter fun row => row.userId = user.id).map (·.costCredits) = charges

/-- The step inserts these records and charges every user what `owes` says. -/
structure Bills (db db' : Database) (inserted : List BillingRecord) (owes : User → List ℚ) : Prop where
  columns : Columns db'
  records : db'.billingRecords = db.billingRecords ++ inserted
  paid : ∀ user, db.users.get user.id = some user → Paid db' inserted user (owes user)

/-- A step that charges nobody. -/
theorem bills_nothing {db db' : Database} (columns : Columns db) (users : db'.users = db.users)
    (records : db'.billingRecords = db.billingRecords) {owes : User → List ℚ}
    (free : ∀ user, db.users.get user.id = some user → owes user = []) : Bills db db' [] owes where
  columns := ⟨by rw [users]; exact columns.credits, by rw [records]; exact columns.costs⟩
  records := by rw [records, List.append_nil]
  paid user found := by
    rw [free user found]
    refine ⟨?_, rfl⟩
    rw [users, found]
    simp [debit, withCredits]

/-- A step that charges one user once. -/
theorem bills_once {db db' : Database} (columns : Columns db) {user : User}
    (found : db.users.get user.id = some user) {charge credits : ℚ} (amount : Amount charge)
    (enough : charge ≤ user.credits)
    (left : Decimal.quantize 2 (Decimal.context (user.credits - charge)) = some credits)
    (users : db'.users = db.users.update user.id (withCredits credits) (withCredits_id credits))
    {row : BillingRecord} (costs : row.costCredits = charge) (mine : row.userId = user.id)
    (records : db'.billingRecords = db.billingRecords ++ [row]) {owes : User → List ℚ}
    (only : ∀ other, db.users.get other.id = some other →
      owes other = if other.id = user.id then [charge] else []) : Bills db db' [row] owes where
  columns := by
    have balance := columns.credits user.id user found
    constructor
    · intro id other here
      rw [users, Table.get_update] at here
      split at here
      · rename_i same
        rw [same, found, Option.map_some, Option.some.injEq] at here
        rw [← here, withCredits, balance.left amount enough left]
        exact balance.after amount enough
      · exact columns.credits id other here
    · intro record inside
      rw [records, List.mem_append, List.mem_singleton] at inside
      rcases inside with old | rfl
      · exact columns.costs record old
      · rw [costs]
        exact amount.whole
  records := records
  paid other here := by
    rw [only other here]
    have balance := columns.credits user.id user found
    by_cases same : other.id = user.id
    · have equal : other = user := by
        rw [same, found] at here
        exact (Option.some.inj here).symm
      subst equal
      rw [if_pos rfl]
      constructor
      · rw [users, Table.get_update, if_pos rfl, found, Option.map_some, balance.left amount enough left]
        simp [debit]
      · simp [mine, costs]
    · rw [if_neg same]
      constructor
      · rw [users, Table.get_update, if_neg same, here]
        simp [debit, withCredits]
      · simp [mine, Ne.symm same]

theorem prices_singleton (rate : ℚ) (task : Task) (userId : UserId) :
    prices rate [task] userId = if task.userId = userId then (price rate task).toList else [] := by
  unfold prices
  by_cases same : task.userId = userId
  · cases priced : price rate task <;> simp [same, priced]
  · simp [same]

theorem billTask_bills {rate : ℚ≥0} {db db' : Database} {task : Task} {count : Nat} (columns : Columns db)
    (done : billTask rate db task = some (db', count)) :
    ∃ inserted, Bills db db' inserted fun user => covered user.credits (prices rate [task] user.id) := by
  simp only [prices_singleton]
  cases billTask_charge done with
  | free unpriced users records =>
      refine ⟨[], bills_nothing columns users records fun user _ => ?_⟩
      simp [unpriced, covered]
  | short priced found lacking users records =>
      refine ⟨[], bills_nothing columns users records fun user here => ?_⟩
      split
      · rename_i same
        rw [← same, found, Option.some.injEq] at here
        subst here
        rw [priced, Option.toList_some, covered, if_pos lacking, covered]
      · rfl
  | unowned priced missing users row costs mine records =>
      refine ⟨[row], ?_, records, fun user here => ?_⟩
      · constructor
        · rw [users]
          exact columns.credits
        · intro record inside
          rw [records, List.mem_append, List.mem_singleton] at inside
          rcases inside with old | rfl
          · exact columns.costs record old
          · rw [costs]
            exact (price_amount priced).whole
      · have other : task.userId ≠ user.id := by
          intro same
          rw [same, here] at missing
          cases missing
        rw [if_neg other, covered]
        constructor
        · rw [users, here]
          simp [debit, withCredits]
        · simp [mine, other]
  | charged priced fits found enough left users row costs mine records =>
      rename_i charge user credits
      have here := Table.key_of_get found
      rw [← here] at found mine
      refine ⟨[row], bills_once columns found (price_amount priced) enough left users costs mine records ?_⟩
      intro other stored
      rw [← here]
      by_cases same : other.id = user.id
      · rw [same, found, Option.some.injEq] at stored
        subst stored
        rw [if_pos rfl, if_pos rfl, priced, Option.toList_some, covered, if_neg (not_lt.mpr enough), covered]
      · rw [if_neg (Ne.symm same), if_neg same, covered]

/-- Two steps after each other; the second charges what the first has left. -/
theorem Bills.trans {db middle db' : Database} {first second : List BillingRecord} {owes owes' : User → List ℚ}
    (h : Bills db middle first owes) (h' : Bills middle db' second owes') :
    Bills db db' (first ++ second) fun user =>
      owes user ++ owes' (withCredits (user.credits - debit (owes user)) user) where
  columns := h'.columns
  records := by rw [h'.records, h.records, List.append_assoc]
  paid user found := by
    have paid := h.paid user found
    have paid' := h'.paid (withCredits (user.credits - debit (owes user)) user) paid.balance
    constructor
    · refine paid'.balance.trans ?_
      simp [withCredits, debit_append, sub_add_eq_sub_sub]
    · rw [List.filter_append, List.map_append, paid.records]
      exact congrArg _ paid'.records

theorem billTasks_bills {rate : ℚ≥0} {tasks : List Task} {db db' : Database} {count count' : Nat}
    (columns : Columns db) (done : billTasks rate tasks (db, count) = some (db', count')) :
    ∃ inserted, Bills db db' inserted fun user => covered user.credits (prices rate tasks user.id) := by
  induction tasks generalizing db count with
  | nil =>
      cases done
      exact ⟨[], bills_nothing columns rfl rfl fun user _ => rfl⟩
  | cons task rest ih =>
      rw [billTasks] at done
      obtain ⟨⟨middle, increment⟩, first, others⟩ := Option.bind_eq_some_iff.mp done
      obtain ⟨own, bills⟩ := billTask_bills columns first
      obtain ⟨inserted, rest'⟩ := ih bills.columns others
      have both := bills.trans rest'
      refine ⟨own ++ inserted, both.columns, both.records, fun user found => ?_⟩
      have split : prices rate (task :: rest) user.id =
          prices rate [task] user.id ++ prices rate rest user.id := by
        simp only [prices, ← List.filterMap_append, ← List.filter_append, List.singleton_append]
      rw [split, covered_append]
      exact both.paid user found

theorem recordApiCall_bills {input output : ℚ≥0} {now : Time} {call call' : ApiCall} {db db' : Database}
    (columns : Columns db) (done : recordApiCall ⟨input, output⟩ now call db = some (call', db')) :
    ∃ inserted, Bills db db' inserted fun user => charges db user (.apiCall input output now call) := by
  simp only [charges]
  obtain ⟨_, charge, priced, charged⟩ := recordApiCall_charge done
  rw [priced]
  have only : ∀ user, call.userId = some user.id → db.users.get user.id = some user → ∀ other,
      db.users.get other.id = some other → call.userId = some other.id → other = user := by
    intro user named found other stored same
    rw [named, Option.some.injEq] at same
    rw [← same, found] at stored
    exact (Option.some.inj stored).symm
  cases charged with
  | anonymous unnamed =>
      refine ⟨[], bills_nothing columns rfl rfl fun user _ => ?_⟩
      simp [unnamed]
  | free named found nothing =>
      refine ⟨[], bills_nothing columns rfl rfl fun other stored => ?_⟩
      split
      · rename_i mine
        obtain rfl := only _ named found other stored mine.1
        have zero : ¬ 0 < charge := fun positive => nothing ⟨mine.2, positive⟩
        simp [zero, covered]
      · rfl
  | short named found due lacking =>
      refine ⟨[], bills_nothing columns rfl rfl fun other stored => ?_⟩
      split
      · rename_i mine
        obtain rfl := only _ named found other stored mine.1
        simp [due.2, covered, lacking]
      · rfl
  | charged named found due enough left =>
      rename_i user credits
      have amount : Amount charge := ⟨apiCost_whole priced, due.2.le⟩
      refine ⟨_, bills_once columns found amount enough left rfl rfl rfl rfl ?_⟩
      intro other stored
      by_cases same : other.id = user.id
      · obtain rfl := only user named found other stored (by rw [named, same])
        simp [named, due.1, due.2, covered, enough]
      · rw [if_neg same, if_neg]
        rintro ⟨mine, _⟩
        exact same (congrArg User.id (only user named found other stored mine))

theorem apply_bills {op : Op} {db db' : Database} (columns : Columns db) (done : apply op db = some db') :
    ∃ inserted, Bills db db' inserted fun user => charges db user op := by
  cases op with
  | billing rate =>
      obtain ⟨⟨_, count⟩, run, rfl⟩ := Option.map_eq_some_iff.mp done
      exact billTasks_bills columns run
  | apiCall input output now call =>
      obtain ⟨⟨call', _⟩, run, rfl⟩ := Option.map_eq_some_iff.mp done
      exact recordApiCall_bills columns run

/-! ## The two books -/

/-- Every user loses what the records of the step say, and the reported total stays. -/
def Conserves (db : Database) (op : Op) : Prop :=
  ∃ inserted, (exec op db).billingRecords = db.billingRecords ++ inserted ∧
    ∀ user, db.users.get user.id = some user → ∃ user', (exec op db).users.get user.id = some user' ∧
      user.credits - user'.credits = usedBy user.id inserted ∧
      ∀ summary summary', getBillingSummary db user = some summary →
        getBillingSummary (exec op db) user' = some summary' → summary'.totalCredits = summary.totalCredits

/-- What a charge is in excess of the debit. -/
def excess (charge : ℚ) : ℚ := charge - Decimal.halfDown 2 charge

/-- If the step is accepted, its charges to each user exceed their debits by nothing. -/
def ErrorsCancel (db : Database) (op : Op) : Prop :=
  (apply op db).isSome = true → ∀ user, db.users.get user.id = some user →
    ((charges db user op).map excess).sum = 0

theorem sum_excess (charges : List ℚ) : (charges.map excess).sum = charges.sum - debit charges := by
  induction charges with
  | nil => simp [debit]
  | cons charge rest ih =>
      have split : debit (charge :: rest) = Decimal.halfDown 2 charge + debit rest := rfl
      rw [List.map_cons, List.sum_cons, List.sum_cons, ih, split, excess]
      ring

theorem usedBy_append (userId : UserId) (first second : List BillingRecord) :
    usedBy userId (first ++ second) = usedBy userId first + usedBy userId second := by
  simp [usedBy]

theorem usedBy_whole {userId : UserId} {records : List BillingRecord}
    (costs : ∀ row ∈ records, Decimal.Whole 4 row.costCredits) : Decimal.Whole 4 (usedBy userId records) := by
  induction records with
  | nil => exact ⟨0, by simp [usedBy]⟩
  | cons row rest ih =>
      have tail := ih fun row inside => costs row (List.mem_cons_of_mem _ inside)
      rw [← List.singleton_append, usedBy_append]
      refine Decimal.Whole.add ?_ tail
      by_cases mine : row.userId = userId
      · simpa [usedBy, mine] using costs row List.mem_cons_self
      · exact ⟨0, by simp [usedBy, mine]⟩

/-- The total is computed from the balance and the records only through their sum. -/
theorem summary_total {db : Database} {user : User} {summary : BillingSummary} (columns : Columns db)
    (balance : Balance user.credits) (reported : getBillingSummary db user = some summary) :
    Decimal.quantize 2 (Decimal.context (user.credits + usedBy user.id db.billingRecords)) =
      some summary.totalCredits := by
  unfold getBillingSummary at reported
  obtain ⟨used, usedEq, reported⟩ := Option.bind_eq_some_iff.mp reported
  obtain ⟨remaining, remainingEq, reported⟩ := Option.bind_eq_some_iff.mp reported
  obtain ⟨total, totalEq, reported⟩ := Option.bind_eq_some_iff.mp reported
  cases reported
  rw [← totalEq, Decimal.quantize_eq_some usedEq, Decimal.quantize_eq_some remainingEq,
    Decimal.halfUp_eq_self balance.whole, Decimal.halfUp_eq_self (usedBy_whole columns.costs)]

theorem exec_columns (op : Op) {db : Database} (columns : Columns db) : Columns (exec op db) := by
  unfold exec
  cases done : apply op db with
  | none => exact columns
  | some db' =>
      obtain ⟨inserted, bills⟩ := apply_bills columns done
      exact bills.columns

theorem conserves_iff {db : Database} (columns : Columns db) (op : Op) :
    Conserves db op ↔ ErrorsCancel db op := by
  cases done : apply op db with
  | none =>
      have same : exec op db = db := by rw [exec, done, Option.getD_none]
      constructor
      · intro _ accepted
        rw [done] at accepted
        cases accepted
      · intro _
        unfold Conserves
        rw [same]
        refine ⟨[], (List.append_nil _).symm, fun user found => ⟨user, found, by simp [usedBy], ?_⟩⟩
        intro summary summary' reported reported'
        rw [reported, Option.some.injEq] at reported'
        rw [reported']
  | some db' =>
      have after : exec op db = db' := by rw [exec, done, Option.getD_some]
      obtain ⟨inserted, bills⟩ := apply_bills columns done
      have used : ∀ user, db.users.get user.id = some user →
          usedBy user.id inserted = (charges db user op).sum := by
        intro user found
        rw [usedBy, (bills.paid user found).records]
      unfold Conserves
      rw [after]
      constructor
      · rintro ⟨inserted', records, conserved⟩ _ user found
        rw [bills.records, List.append_cancel_left_eq] at records
        subst records
        obtain ⟨user', found', decrease, _⟩ := conserved user found
        rw [(bills.paid user found).balance, Option.some.injEq] at found'
        rw [← found', used user found] at decrease
        rw [sum_excess, ← decrease]
        simp [withCredits]
      · intro cancel
        refine ⟨inserted, bills.records, fun user found => ?_⟩
        have exact_ := cancel (by rw [done]; rfl) user found
        rw [sum_excess, sub_eq_zero] at exact_
        refine ⟨_, (bills.paid user found).balance, ?_, ?_⟩
        · rw [used user found, exact_]
          simp [withCredits]
        · intro summary summary' reported reported'
          have total := summary_total columns (columns.credits _ user found) reported
          have total' := summary_total bills.columns (bills.columns.credits _ _ (bills.paid user found).balance)
            reported'
          have sums : user.credits - debit (charges db user op) + usedBy user.id db'.billingRecords =
              user.credits + usedBy user.id db.billingRecords := by
            rw [bills.records, usedBy_append, used user found, exact_]
            ring
          simp only [withCredits, sums, total, Option.some.injEq] at total'
          exact total'.symm

/-- Along every run of billing steps, each user's credits and records agree, if and only
    if in every accepted step the rounding errors of a user's charges cancel. -/
theorem credits_conserved_iff (db : Database) (columns : Columns db) (ops : List Op) :
    Runs.Along exec Conserves ops db ↔ Runs.Along exec ErrorsCancel ops db :=
  Runs.along_congr (I := Columns) (fun _ op columns _ => exec_columns op columns)
    (fun _ op columns => conserves_iff columns op) columns

/-- Whole cents leave no rounding errors. -/
theorem errorsCancel_of_whole {db : Database} {op : Op}
    (whole : ∀ user, db.users.get user.id = some user → ∀ charge ∈ charges db user op, Decimal.Whole 2 charge) :
    ErrorsCancel db op := by
  intro _ user found
  apply List.sum_eq_zero
  intro error inside
  obtain ⟨charge, member, rfl⟩ := List.mem_map.mp inside
  exact sub_eq_zero.mpr (Decimal.halfDown_eq_self_iff.mpr (whole user found charge member)).symm

/-! ## Nine and thirty-six seconds on one GPU -/

/-- A user with a hundred credits, whose task ran for a number of seconds on one GPU. -/
def sample (seconds : Int) : Database where
  users := .singleton { id := "u", credits := 100 }
  tasks := .singleton
    { id := "t", userId := "u", status := .success, assignedGpuIndices := some [0], startedAt := some 0
      finishedAt := some (seconds * 1000000) }

theorem sample_user {seconds : Int} {user : User} (found : (sample seconds).users.get user.id = some user) :
    user = { id := "u", credits := 100 } :=
  List.mem_singleton.mp (Table.mem_of_get found)

theorem sample_columns (seconds : Int) : Columns (sample seconds) where
  credits id user found := by
    obtain rfl : user = { id := "u", credits := 100 } := List.mem_singleton.mp (Table.mem_of_get found)
    exact ⟨⟨10000, by norm_num⟩, by norm_num⟩
  costs row inside := by cases inside

theorem thirty_six_seconds : Runs.Along exec Conserves [.billing 1] (sample 36) := by
  apply (credits_conserved_iff (sample 36) (sample_columns 36) _).mpr
  refine ⟨errorsCancel_of_whole ?_, trivial⟩
  intro user found charge inside
  obtain rfl := sample_user found
  have only : charges (sample 36) { id := "u", credits := 100 } (.billing 1) = [1 / 100] := by decide +kernel
  rw [only, List.mem_singleton] at inside
  exact ⟨1, by rw [inside]; norm_num⟩

/-- Nine seconds cost 0.0025 credits, and the balance stays at 100.00. -/
theorem nine_seconds : ¬ ∀ ops : List Op, Runs.Along exec Conserves ops (sample 9) := by
  intro all
  obtain ⟨conserves, _⟩ := all [.billing 1]
  have cancel := (conserves_iff (sample_columns 9) (.billing 1)).mp conserves (by decide +kernel)
    { id := "u", credits := 100 } rfl
  have only : charges (sample 9) { id := "u", credits := 100 } (.billing 1) = [1 / 400] := by decide +kernel
  have lost : ((charges (sample 9) { id := "u", credits := 100 } (.billing 1)).map excess).sum ≠ 0 := by
    rw [only]
    decide +kernel
  exact lost cancel

end SuitApi.Credits
