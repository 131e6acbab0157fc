import SuitApi.Credits
import SuitApi.Library.Overlap
import SuitApi.Library.Runs

/-! # Billing runs side by side

A billing run reads the unbilled tasks and their users, computes in memory, and
commits flags, records and absolute balances at once.  The periodic task may be
executed by several workers, so a run may read while others have not committed.
-/

namespace SuitApi.BillingRace

open BillingService Overlap

/-! ## The phases of a run -/

/-- A run that has read and not yet committed. -/
structure BillingRun where
  rate : ℚ
  read : Database

/-- What the run makes of the rows it has read; where it raises, it changes nothing. -/
def BillingRun.computed (run : BillingRun) : Database :=
  match calculateTaskBilling run.rate run.read with
  | some (db, _) => db
  | none => run.read

/-- The records the run inserts. -/
def BillingRun.records (run : BillingRun) : List BillingRecord :=
  run.computed.billingRecords.drop run.read.billingRecords.length

def creditsOf (db : Database) (userId : UserId) : ℚ := (db.users.get userId).elim 0 (·.credits)

/-- What the run deducts from the user for its records. -/
def BillingRun.deduction (run : BillingRun) (userId : UserId) : ℚ :=
  creditsOf run.read userId - creditsOf run.computed userId

def billedIn (db : Database) (t : TaskId) : Bool := (db.tasks.get t).any (·.billed)

/-- `billed`, written where the run has changed it. -/
def commitTask (run : BillingRun) (row : Task) : Task :=
  { row with billed := column (billedIn run.read row.id) (billedIn run.computed row.id) row.billed }

theorem commitTask_id (run : BillingRun) (row : Task) : (commitTask run row).id = row.id := rfl

/-- `credits`, written where the run has changed it: the balance it has computed. -/
def commitUser (run : BillingRun) (user : User) : User :=
  withCredits (column (creditsOf run.read user.id) (creditsOf run.computed user.id) user.credits) user

theorem commitUser_id (run : BillingRun) (user : User) : (commitUser run user).id = user.id := rfl

def commit (run : BillingRun) (db : Database) : Database :=
  { db with
    tasks := db.tasks.updateWhere (fun _ => true) (commitTask run) (commitTask_id run)
    users := db.users.updateWhere (fun _ => true) (commitUser run) (commitUser_id run)
    billingRecords := db.billingRecords ++ run.records }

structure System where
  db : Database
  runs : List BillingRun := []
  /-- The runs that have committed, in order. -/
  committed : List BillingRun := []

/-- Tasks that can be billed, or have been, stay as they are. -/
def Keeps (db : Database) (tasks : Table Task.id) : Prop :=
  (∀ row ∈ db.tasks.rows, (billable row || row.billed) = true → tasks.get row.id = some row) ∧
    ∀ row ∈ tasks.rows, row.billed = true → db.tasks.get row.id = some row

instance (db : Database) (tasks : Table Task.id) : Decidable (Keeps db tasks) :=
  inferInstanceAs (Decidable (_ ∧ _))

inductive Op where
  | read (rate : ℚ)
  | commit (i : Nat)
  /-- Other services create tasks and bring them to their end. -/
  | others (tasks : Table Task.id)

def exec : Op → System → System
  | .read rate, s => { s with runs := s.runs ++ [⟨rate, s.db⟩] }
  | .commit i, s =>
      match s.runs[i]? with
      | some run =>
          { db := commit run s.db, runs := s.runs.eraseIdx i, committed := s.committed ++ [run] }
      | none => s
  | .others tasks, s => if Keeps s.db tasks then { s with db := { s.db with tasks } } else s

/-! ## What one run does to one task -/

/-- The row asks for a charge. -/
def Due (row : Task) : Prop :=
  ∀ started finished, row.startedAt = some started → row.finishedAt = some finished →
    wholeSeconds started finished ≠ 0 ∧ row.gpuIndices.length ≠ 0

inductive RunFate (run : BillingRun) (t : TaskId) : Prop
  | untouched (none : recordsOf t run.records = [])
      (same : run.computed.tasks.get t = run.read.tasks.get t)
  | waived (row : Task) (found : run.read.tasks.get t = some row) (selected : billable row = true)
      (nothing : ¬ Due row) (none : recordsOf t run.records = [])
      (marked : run.computed.tasks.get t = some (markBilled row))
  | charged (row : Task) (found : run.read.tasks.get t = some row) (selected : billable row = true)
      (due : Due row) (record : BillingRecord) (one : recordsOf t run.records = [record])
      (marked : run.computed.tasks.get t = some (markBilled row))

theorem run_fate (run : BillingRun) (t : TaskId) : RunFate run t := by
  cases done : calculateTaskBilling run.rate run.read with
  | none =>
      have same : run.computed = run.read := by rw [BillingRun.computed, done]
      apply RunFate.untouched
      · rw [BillingRun.records, same, List.drop_length]
        rfl
      · rw [same]
  | some result =>
      obtain ⟨db, count⟩ := result
      have computed : run.computed = db := by rw [BillingRun.computed, done]
      obtain ⟨records, inserted, _, _, fates⟩ := calculateTaskBilling_spec done
      have own : run.records = records := by
        rw [BillingRun.records, computed, inserted, List.drop_left]
      rw [← computed, ← own] at fates
      cases fates t with
      | untouched outside same none => exact .untouched none same
      | processed row inside here billed outcome rewritten =>
          obtain ⟨member, selected⟩ := List.mem_filter.mp inside
          have found : run.read.tasks.get t = some row := here ▸ Table.get_of_mem member
          rw [found] at rewritten
          generalize own' : recordsOf t run.records = mine at outcome
          cases outcome with
          | skipped => exact .untouched own' (rewritten.trans found.symm)
          | waived begun ended nothing =>
              refine .waived row found selected (fun due => ?_) own' rewritten
              obtain ⟨lasting, used⟩ := due _ _ begun ended
              exact nothing.elim lasting used
          | charged begun ended used _ _ _ lasting =>
              refine .charged row found selected ?_ _ own' rewritten
              intro started finished begun' ended'
              rw [begun] at begun'
              rw [ended] at ended'
              cases begun'
              cases ended'
              exact ⟨lasting, used⟩

/-! ## The rows after a commit -/

theorem commit_task (run : BillingRun) (db : Database) (t : TaskId) :
    (commit run db).tasks.get t = (db.tasks.get t).map (commitTask run) :=
  Table.get_updateWhere _ _ _ (commitTask_id run) t

theorem billedIn_of_get {db : Database} {t : TaskId} {row : Task} (found : db.tasks.get t = some row) :
    billedIn db t = row.billed := by
  rw [billedIn, found, Option.any_some]

theorem unbilled_of_billable {row : Task} (selected : billable row = true) : row.billed = false := by
  simp only [billable, Bool.and_eq_true, Bool.not_eq_true'] at selected
  exact selected.1.1.2

/-- A run that marks a task makes the committed row billed. -/
theorem commitTask_marked {run : BillingRun} {row read : Task} (found : run.read.tasks.get row.id = some read)
    (unbilled : read.billed = false) (marked : run.computed.tasks.get row.id = some (markBilled read)) :
    commitTask run row = markBilled row := by
  rw [commitTask, billedIn_of_get found, billedIn_of_get marked, unbilled]
  rfl

theorem commitTask_same {run : BillingRun} {row : Task}
    (same : run.computed.tasks.get row.id = run.read.tasks.get row.id) : commitTask run row = row := by
  have flags : billedIn run.computed row.id = billedIn run.read row.id := by rw [billedIn, billedIn, same]
  rw [commitTask, flags, column_unchanged]

/-- A commit leaves a row as it is or marks it. -/
theorem commitTask_cases (run : BillingRun) (row : Task) :
    commitTask run row = row ∨ commitTask run row = markBilled row := by
  cases run_fate run row.id with
  | untouched none same => exact .inl (commitTask_same same)
  | waived read found selected nothing none marked =>
      exact .inr (commitTask_marked found (unbilled_of_billable selected) marked)
  | charged read found selected due record one marked =>
      exact .inr (commitTask_marked found (unbilled_of_billable selected) marked)

theorem commit_keeps_billed (run : BillingRun) {db : Database} {t : TaskId} (billed : billedIn db t = true) :
    billedIn (commit run db) t = true := by
  unfold billedIn at billed ⊢
  rw [commit_task]
  cases found : db.tasks.get t with
  | none =>
      rw [found] at billed
      cases billed
  | some row =>
      rw [found, Option.any_some] at billed
      rw [Option.map_some, Option.any_some]
      rcases commitTask_cases run row with same | marked
      · rw [same, billed]
      · rw [marked]
        rfl

/-- A run with no other beside it stores what it has computed. -/
theorem commit_alone (run : BillingRun) (t : TaskId) :
    (commit run run.read).tasks.get t = run.computed.tasks.get t := by
  rw [commit_task]
  cases found : run.read.tasks.get t with
  | none =>
      rw [Option.map_none]
      cases run_fate run t with
      | untouched none same => rw [same, found]
      | waived row found' => rw [found] at found'; cases found'
      | charged row found' => rw [found] at found'; cases found'
  | some row =>
      have key : row.id = t := Table.key_of_get found
      subst key
      rw [Option.map_some]
      cases run_fate run row.id with
      | untouched none same => rw [commitTask_same same, same, found]
      | waived read found' selected nothing none marked =>
          rw [commitTask_marked found' (unbilled_of_billable selected) marked, marked]
          rw [found] at found'
          cases found'
          rfl
      | charged read found' selected due record one marked =>
          rw [commitTask_marked found' (unbilled_of_billable selected) marked, marked]
          rw [found] at found'
          cases found'
          rfl

/-- The run deducts the charges of the records it inserts for the user, each one
    rounded to the cents of the balance. -/
theorem deduction_eq_debit (run : BillingRun) (nonneg : 0 ≤ run.rate) (columns : Credits.Columns run.read)
    {user : User} (found : run.read.users.get user.id = some user) :
    run.deduction user.id =
      Credits.debit ((run.records.filter fun row => row.userId = user.id).map (·.costCredits)) := by
  cases done : calculateTaskBilling run.rate run.read with
  | none =>
      have same : run.computed = run.read := by rw [BillingRun.computed, done]
      rw [BillingRun.deduction, BillingRun.records, same, List.drop_length, sub_self]
      rfl
  | some result =>
      obtain ⟨db, count⟩ := result
      have computed : run.computed = db := by rw [BillingRun.computed, done]
      lift run.rate to ℚ≥0 using nonneg with rate
      obtain ⟨inserted, bills⟩ := Credits.billTasks_bills columns done
      have paid := bills.paid user found
      have own : run.records = inserted := by
        rw [BillingRun.records, computed, bills.records, List.drop_left]
      rw [BillingRun.deduction, own, paid.records, computed, creditsOf, creditsOf, found, paid.balance]
      simp [withCredits]

theorem recordsOf_append (t : TaskId) (first second : List BillingRecord) :
    recordsOf t (first ++ second) = recordsOf t first ++ recordsOf t second := List.filter_append _ _

/-! ## Exactly once -/

/-- Since `start`, every task has got at most one record, and every user has lost what
    the committed runs have deducted for theirs. -/
structure Once (start : Database) (s : System) : Prop where
  records : ∀ t, (recordsOf t (s.db.billingRecords.drop start.billingRecords.length)).length ≤ 1
  credits : ∀ id user, s.db.users.get id = some user →
    creditsOf start id - user.credits = (s.committed.map (·.deduction id)).sum

def inserted (s : System) : List BillingRecord := s.committed.flatMap (·.records)

/-- A task that an open run has read as billable is still so, or it has been billed, and
    charged if it asked for a charge. -/
def Tracks (s : System) (run : BillingRun) : Prop :=
  ∀ t row, run.read.tasks.get t = some row → billable row = true →
    s.db.tasks.get t = some row ∨
      billedIn s.db t = true ∧ (Due row → recordsOf t (inserted s) ≠ [])

structure Inv (start : Database) (s : System) : Prop where
  once : Once start s
  appended : s.db.billingRecords = start.billingRecords ++ inserted s
  charged : ∀ t, recordsOf t (inserted s) ≠ [] → billedIn s.db t = true
  tracks : ∀ run ∈ s.runs, Tracks s run

theorem Inv.records {start : Database} {s : System} (h : Inv start s) :
    s.db.billingRecords.drop start.billingRecords.length = inserted s := by
  rw [h.appended, List.drop_left]

theorem inv_start (start : Database) : Inv start { db := start } where
  once := by
    constructor
    · intro t
      rw [List.drop_length]
      exact Nat.zero_le 1
    · intro id user found
      simp [creditsOf, found]
  appended := (List.append_nil _).symm
  charged t some := absurd rfl some
  tracks run inside := by cases inside

theorem inserted_commit (s : System) (run : BillingRun) (db : Database) (runs : List BillingRun) :
    inserted { db, runs, committed := s.committed ++ [run] } = inserted s ++ run.records := by
  rw [inserted, List.flatMap_append, List.flatMap_singleton, inserted]

/-- A run that charges a task has read it as billable. -/
theorem charged_of_records {run : BillingRun} {t : TaskId} (some_ : recordsOf t run.records ≠ []) :
    ∃ row, run.read.tasks.get t = some row ∧ billable row = true ∧ Due row ∧
      (recordsOf t run.records).length = 1 ∧ run.computed.tasks.get t = some (markBilled row) := by
  cases run_fate run t with
  | untouched none same => exact absurd none some_
  | waived row found selected nothing none marked => exact absurd none some_
  | charged row found selected due record one marked =>
      exact ⟨row, found, selected, due, by rw [one]; rfl, marked⟩

theorem tracks_commit {start : Database} {s : System} (h : Inv start s) {run other : BillingRun}
    (committing : run ∈ s.runs) (open_ : other ∈ s.runs) (runs : List BillingRun) :
    Tracks { db := commit run s.db, runs, committed := s.committed ++ [run] } other := by
  intro t row found selected
  rw [inserted_commit]
  rcases h.tracks other open_ t row found selected with here | ⟨billed, charged⟩
  · have key : row.id = t := Table.key_of_get here
    have unbilled := unbilled_of_billable selected
    have after : (commit run s.db).tasks.get t = some (commitTask run row) := by
      rw [commit_task, here, Option.map_some]
    subst key
    cases run_fate run row.id with
    | untouched none same =>
        rw [commitTask_same same] at after
        exact .inl after
    | waived read found' selected' nothing none marked =>
        right
        rw [commitTask_marked found' (unbilled_of_billable selected') marked] at after
        refine ⟨by rw [billedIn_of_get after]; rfl, fun due => ?_⟩
        rcases h.tracks run committing row.id read found' selected' with same | ⟨billed, _⟩
        · rw [here] at same
          cases same
          exact absurd due nothing
        · rw [billedIn_of_get here, unbilled] at billed
          cases billed
    | charged read found' selected' due record one marked =>
        right
        rw [commitTask_marked found' (unbilled_of_billable selected') marked] at after
        refine ⟨by rw [billedIn_of_get after]; rfl, fun _ => ?_⟩
        rw [recordsOf_append, one]
        exact List.append_ne_nil_of_right_ne_nil _ (List.cons_ne_nil _ _)
  · refine .inr ⟨commit_keeps_billed run billed, fun due => ?_⟩
    rw [recordsOf_append]
    exact List.append_ne_nil_of_left_ne_nil (charged due) _

theorem charged_commit {start : Database} {s : System} (h : Inv start s) {run : BillingRun}
    (committing : run ∈ s.runs) {t : TaskId} (some_ : recordsOf t (inserted s ++ run.records) ≠ []) :
    billedIn (commit run s.db) t = true := by
  rw [recordsOf_append] at some_
  by_cases before : recordsOf t (inserted s) = []
  · rw [before, List.nil_append] at some_
    obtain ⟨row, found, selected, _, _, marked⟩ := charged_of_records some_
    rcases h.tracks run committing t row found selected with here | ⟨billed, _⟩
    · have key : row.id = t := Table.key_of_get here
      subst key
      have after : (commit run s.db).tasks.get row.id = some (commitTask run row) := by
        rw [commit_task, here, Option.map_some]
      rw [billedIn_of_get after, commitTask_marked found (unbilled_of_billable selected) marked]
      rfl
    · exact commit_keeps_billed run billed
  · exact commit_keeps_billed run (h.charged t before)

theorem Keeps.billed {db : Database} {tasks : Table Task.id} (kept : Keeps db tasks) {t : TaskId}
    (billed : billedIn db t = true) : billedIn { db with tasks } t = true := by
  cases found : db.tasks.get t with
  | none =>
      rw [billedIn, found] at billed
      cases billed
  | some row =>
      rw [billedIn_of_get found] at billed
      have key : row.id = t := Table.key_of_get found
      have here : tasks.get row.id = some row :=
        kept.1 row (Table.mem_of_get found) (by rw [billed, Bool.or_true])
      rw [key] at here
      refine (billedIn_of_get ?_).trans billed
      exact here

theorem inv_step {start : Database} (s : System) (op : Op) (h : Inv start s)
    (once : Once start (exec op s)) : Inv start (exec op s) := by
  cases op with
  | read rate =>
      refine ⟨once, h.appended, h.charged, fun run inside => ?_⟩
      rcases List.mem_append.mp inside with inside | inside
      · exact h.tracks run inside
      · rw [List.mem_singleton] at inside
        subst inside
        exact fun t row found _ => .inl found
  | others tasks =>
      rw [exec] at once ⊢
      split
      · rename_i kept
        rw [if_pos kept] at once
        refine ⟨once, h.appended, fun t some_ => kept.billed (h.charged t some_), ?_⟩
        intro run inside t row found selected
        rcases h.tracks run inside t row found selected with here | ⟨billed, charged⟩
        · left
          have key : row.id = t := Table.key_of_get here
          rw [← key]
          exact kept.1 row (Table.mem_of_get here) (by rw [selected, Bool.true_or])
        · exact .inr ⟨kept.billed billed, charged⟩
      · exact h
  | commit i =>
      rw [exec] at once ⊢
      cases found : s.runs[i]? with
      | none => exact h
      | some run =>
          rw [found] at once
          have inside : run ∈ s.runs := List.mem_of_getElem? found
          refine ⟨once, ?_, ?_, ?_⟩
          · rw [inserted_commit, ← List.append_assoc, ← h.appended]
            rfl
          · intro t some_
            rw [inserted_commit] at some_
            exact charged_commit h inside some_
          · intro other member
            exact tracks_commit h inside ((List.eraseIdx_sublist _ _).subset member) _

end SuitApi.BillingRace
