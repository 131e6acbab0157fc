import SuitApi.Credits

/-! # Balances under billing

A charge has four decimals and a balance two.  A charge is made only where the
balance covers it, and the rounding of what is left neither passes the old balance
nor goes below zero; so it is along every run, between any two loop bodies of a
batch.
-/

namespace SuitApi.Balances

open BillingService Credits

/-- A balance that is a whole number of cents, not below zero. -/
structure Purse (credits : ℚ) : Prop where
  nonneg : 0 ≤ credits
  whole : Decimal.Whole 2 credits

def Purses (db : Database) : Prop := ∀ id user, db.users.get id = some user → Purse user.credits

/-! ## The moments of a step -/

/-- The database after every loop body of `calculate_task_billing`. -/
def bodies (rate : ℚ) : List Task → Database → List Database
  | [], _ => []
  | task :: rest, db =>
      match billTask rate db task with
      | none => []
      | some (db', _) => db' :: bodies rate rest db'

/-- The databases that a step goes through; a refused step leaves none. -/
def moments (db : Database) (op : Op) : List Database :=
  match apply op db with
  | none => []
  | some db' =>
      match op with
      | .billing rate => bodies rate (db.tasks.rows.filter billable) db
      | .apiCall _ _ _ _ => [db']

theorem billTasks_bodies {rate : ℚ} {tasks : List Task} {db db' : Database} {count count' : Nat}
    (done : billTasks rate tasks (db, count) = some (db', count')) :
    db' = (db :: bodies rate tasks db).getLast (List.cons_ne_nil _ _) := by
  induction tasks generalizing db count with
  | nil =>
      cases done
      rfl
  | cons task rest ih =>
      rw [billTasks] at done
      obtain ⟨⟨middle, increment⟩, first, others⟩ := Option.bind_eq_some_iff.mp done
      simp only [bodies, first]
      rw [List.getLast_cons (List.cons_ne_nil _ _)]
      exact ih others

/-- The last moment of a step is what it leaves. -/
theorem exec_moments (db : Database) (op : Op) :
    exec op db = (db :: moments db op).getLast (List.cons_ne_nil _ _) := by
  unfold exec moments
  cases done : apply op db with
  | none => rfl
  | some db' =>
      cases op with
      | billing rate =>
          obtain ⟨⟨_, count⟩, run, rfl⟩ := Option.map_eq_some_iff.mp done
          exact billTasks_bodies run
      | apiCall input output now call => rfl

/-! ## One moment -/

/-- What one moment does to the users and the records: nobody that is stored is charged,
    or one user is, for a charge that the balance covers. -/
inductive Moment (before after : Database) : Prop
  | free (users : after.users = before.users) (inserted : List BillingRecord)
      (records : after.billingRecords = before.billingRecords ++ inserted)
      (unowned : ∀ row ∈ inserted, before.users.get row.userId = none)
  | charged {user : User} (found : before.users.get user.id = some user) {charge credits : ℚ}
      (nonneg : 0 ≤ charge) (enough : charge ≤ user.credits)
      (left : Decimal.quantize 2 (Decimal.context (user.credits - charge)) = some credits)
      (users : after.users = before.users.update user.id (withCredits credits) (withCredits_id credits))
      (row : BillingRecord) (costs : row.costCredits = charge) (mine : row.userId = user.id)
      (records : after.billingRecords = before.billingRecords ++ [row])

theorem billTask_moment {rate : ℚ≥0} {db db' : Database} {task : Task} {count : Nat}
    (done : billTask rate db task = some (db', count)) : Moment db db' := by
  cases billTask_charge done with
  | free unpriced users records => exact .free users [] (by rw [records, List.append_nil]) (by simp)
  | short priced found lacking users records => exact .free users [] (by rw [records, List.append_nil]) (by simp)
  | unowned priced missing users row costs mine records =>
      apply Moment.free users [row] records
      intro other inside
      rw [List.mem_singleton] at inside
      rw [inside, mine, missing]
  | charged priced fits found enough left users row costs mine records =>
      have here := Table.key_of_get found
      rw [← here] at found mine
      exact .charged found (price_amount priced).nonneg enough left users row costs mine records

theorem recordApiCall_moment {rates : ApiRates} {now : Time} {call call' : ApiCall} {db db' : Database}
    (done : recordApiCall rates now call db = some (call', db')) : Moment db db' := by
  obtain ⟨_, charge, _, charged⟩ := recordApiCall_charge done
  cases charged with
  | anonymous | free | short => exact .free rfl [] (List.append_nil _).symm (by simp)
  | charged named found due enough left => exact .charged found due.2.le enough left rfl _ rfl rfl rfl

/-- A charged balance stays whole and at or above zero, and does not grow. -/
theorem Purse.after {balance charge credits : ℚ} (purse : Purse balance) (nonneg : 0 ≤ charge)
    (enough : charge ≤ balance)
    (left : Decimal.quantize 2 (Decimal.context (balance - charge)) = some credits) :
    Purse credits ∧ credits ≤ balance := by
  have remains : 0 ≤ balance - charge := sub_nonneg.mpr enough
  have rounded : 0 ≤ Decimal.context (balance - charge) := Decimal.context_nonneg remains
  have fits := Decimal.quantize_fits left
  obtain rfl := Decimal.quantize_eq_some left
  refine ⟨⟨Decimal.halfUp_nonneg rounded, Decimal.halfUp_whole 2 _⟩, ?_⟩
  by_cases short : |balance| * 10 ^ 2 < 10 ^ 28
  · apply Decimal.halfUp_le purse.whole rounded
    exact Decimal.context_le (purse.whole.representable short) remains (by linarith)
  · -- A balance of more digits than the context has is larger than anything `quantize` returns.
    rw [abs_of_nonneg (Decimal.halfUp_nonneg rounded)] at fits
    rw [abs_of_nonneg purse.nonneg] at short
    linarith

/-- What the two books owe a user in one moment. -/
structure Covered (before after : Database) : Prop where
  /-- Every user stays, with a balance that is as sound and not larger. -/
  balances : ∀ id user, before.users.get id = some user →
    ∃ credits, after.users.get id = some (withCredits credits user) ∧ Purse credits ∧ credits ≤ user.credits
  /-- Every new record of a user is covered by the balance just before. -/
  records : ∃ inserted, after.billingRecords = before.billingRecords ++ inserted ∧
    ∀ row ∈ inserted, ∀ user, before.users.get row.userId = some user → row.costCredits ≤ user.credits

theorem Moment.covered {before after : Database} (moment : Moment before after) (purses : Purses before) :
    Covered before after := by
  cases moment with
  | free users inserted records unowned =>
      constructor
      · intro id user found
        exact ⟨user.credits, by rw [users, found]; rfl, purses id user found, le_rfl⟩
      · refine ⟨inserted, records, ?_⟩
        intro row inside user found
        rw [unowned row inside] at found
        cases found
  | charged found nonneg enough left users row costs mine records =>
      rename_i payer charge credits
      constructor
      · intro id user stored
        by_cases same : id = payer.id
        · subst same
          rw [found, Option.some.injEq] at stored
          subst stored
          obtain ⟨purse, less⟩ := (purses _ _ found).after nonneg enough left
          exact ⟨credits, by rw [users, Table.get_update, if_pos rfl, found, Option.map_some], purse, less⟩
        · exact ⟨user.credits, by rw [users, Table.get_update, if_neg same, stored]; rfl,
            purses id user stored, le_rfl⟩
      · refine ⟨[row], records, ?_⟩
        intro other inside user stored
        rw [List.mem_singleton] at inside
        subst inside
        rw [mine, found, Option.some.injEq] at stored
        rw [costs, ← stored]
        exact enough

theorem Moment.users_back {before after : Database} (moment : Moment before after) {id : UserId} {user' : User}
    (stored : after.users.get id = some user') : ∃ user, before.users.get id = some user := by
  cases moment with
  | free users =>
      rw [users] at stored
      exact ⟨user', stored⟩
  | charged found nonneg enough left users =>
      rw [users, Table.get_update] at stored
      split at stored
      · obtain ⟨user, here, _⟩ := Option.map_eq_some_iff.mp stored
        exact ⟨user, here⟩
      · exact ⟨user', stored⟩

theorem Moment.purses {before after : Database} (moment : Moment before after) (purses : Purses before) :
    Purses after := by
  intro id user' stored
  obtain ⟨user, found⟩ := moment.users_back stored
  obtain ⟨credits, here, purse, _⟩ := (moment.covered purses).balances id user found
  rw [stored, Option.some.injEq] at here
  rw [here]
  exact purse

/-! ## A batch and a run -/

theorem bodies_covered (rate : ℚ≥0) {tasks : List Task} {db : Database} (purses : Purses db) :
    (db :: bodies rate tasks db).IsChain Covered ∧ ∀ moment ∈ bodies rate tasks db, Purses moment := by
  induction tasks generalizing db with
  | nil => simp [bodies]
  | cons task rest ih =>
      cases body : billTask rate db task with
      | none => simp [bodies, body]
      | some pair =>
          obtain ⟨db', count⟩ := pair
          have moment := billTask_moment body
          obtain ⟨chain, sound⟩ := ih (moment.purses purses)
          simp only [bodies, body]
          constructor
          · exact .cons_cons (moment.covered purses) chain
          · intro other inside
            rcases List.mem_cons.mp inside with rfl | later
            · exact moment.purses purses
            · exact sound other later

theorem moments_covered {db : Database} (op : Op) (purses : Purses db) :
    (db :: moments db op).IsChain Covered ∧ ∀ moment ∈ moments db op, Purses moment := by
  unfold moments
  cases done : apply op db with
  | none => simp
  | some db' =>
      cases op with
      | billing rate => exact bodies_covered rate purses
      | apiCall input output now call =>
          obtain ⟨⟨_, _⟩, run, rfl⟩ := Option.map_eq_some_iff.mp done
          have moment := recordApiCall_moment run
          simp only [List.mem_singleton, forall_eq]
          exact ⟨.cons_cons (moment.covered purses) (.singleton _), moment.purses purses⟩

theorem exec_purses {db : Database} (op : Op) (purses : Purses db) : Purses (exec op db) := by
  rw [exec_moments]
  obtain ⟨_, sound⟩ := moments_covered op purses
  intro id user found
  rcases List.mem_cons.mp (List.getLast_mem (List.cons_ne_nil db (moments db op))) with start | inside
  · rw [start] at found
    exact purses id user found
  · exact sound _ inside id user found

/-- From moment to moment of the step, up to the state it leaves, balances are sound, do
    not grow, and cover what is charged. -/
def Covers (db : Database) (op : Op) : Prop :=
  (db :: moments db op).IsChain Covered ∧ exec op db = (db :: moments db op).getLast (List.cons_ne_nil _ _)

/-- In every run of billing steps from sound balances, every balance stays a whole number
    of cents, not below zero, never grows, and covers every record inserted for its user. -/
theorem charges_covered {db : Database} (purses : Purses db) (ops : List Op) :
    Runs.Along exec Covers ops db ∧ Purses (Runs.run exec ops db) := by
  have step : ∀ db op, Purses db → Purses (exec op db) := fun _ op purses => exec_purses op purses
  constructor
  · apply Runs.along_of_invariant step _ ops purses
    intro db op purses
    exact ⟨(moments_covered op purses).1, exec_moments db op⟩
  · exact Runs.run_invariant step ops purses

/-- A user with a hundred credits and a task of 36 seconds. -/
theorem sample_covered : Runs.Along exec Covers [.billing 1] (sample 36) ∧
    Purses (Runs.run exec [.billing 1] (sample 36)) := by
  apply charges_covered
  intro id user found
  obtain rfl : user = { id := "u", credits := 100 } := List.mem_singleton.mp (Table.mem_of_get found)
  exact ⟨by norm_num, 10000, by norm_num⟩

end SuitApi.Balances
