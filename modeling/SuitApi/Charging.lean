import SuitApi.Lifecycle

/-! # What a finished task is charged

The billing run charges for the GPUs that the task row lists when it runs.  The
row lists the GPUs of the launch until the finish notification clears the list,
so whether a GPU run is charged depends on which of the two comes first.
-/

namespace SuitApi.Charging

open Platform BillingService

/-! ## The GPUs a launched task lists -/

/-- The task has been launched and lists these GPUs. -/
def Listing (t : TaskId) (indices : List Int) (w : World) : Prop :=
  ∃ task, w.row t = some task ∧ (task.status ≠ .pending ∧ task.status ≠ .queued) ∧
    task.gpuIndices = indices

/-- A finish notification for `t` is among the steps. -/
def Released (t : TaskId) (ops : List Op) : Prop := t ≠ "" ∧ Op.finished t ∈ ops

theorem listing_kept {t : TaskId} {indices : List Int} {w : World} {op : Op}
    (listing : Listing t indices w) (other : ¬ (t ≠ "" ∧ op = .finished t)) :
    Listing t indices (exec op w) := by
  obtain ⟨task, found, left, rfl⟩ := listing
  obtain ⟨launched, step, _⟩ := exec_row op w t
  rw [World.row] at found
  rw [found] at step
  obtain ⟨_, task', here, left'⟩ := Lifecycle.left_step step left
  refine ⟨task', here, left', ?_⟩
  rw [here] at step
  cases step with
  | kept => rfl
  | submitted => rfl
  | cancelled => rfl
  | calledBack now payload =>
      rw [Task.gpuIndices, (TaskService.calledBack_assignment now payload task).2]
      rfl
  | started env queued => exact absurd queued left.2
  | failed env queued => rfl
  | cleared =>
      by_cases named : t = ""
      · subst named
        rw [exec, if_pos rfl, found] at here
        rw [← Option.some.inj here]
      · exact absurd ⟨named, rfl⟩ other
  | lost => rfl
  | billed => rfl

theorem listing_cleared {t : TaskId} {indices : List Int} {w : World} (listing : Listing t indices w)
    (named : t ≠ "") : Listing t [] (exec (.finished t) w) := by
  obtain ⟨task, found, left, _⟩ := listing
  refine ⟨Scheduler.clearGpuIndices task, ?_, left, rfl⟩
  simp only [exec, if_neg named, World.row, Scheduler.finishTask_tasks, if_true]
  rw [World.row] at found
  rw [found, Option.map_some]

theorem listing_empty {t : TaskId} {w : World} {ops : List Op} (listing : Listing t [] w) :
    Listing t [] (Runs.run exec ops w) := by
  apply Runs.run_invariant _ ops listing
  intro w op before
  by_cases finish : t ≠ "" ∧ op = .finished t
  · obtain ⟨named, rfl⟩ := finish
    exact listing_cleared before named
  · exact listing_kept before finish

/-- After any steps the task still lists the GPUs of its launch, unless a finish
    notification was among them. -/
theorem listing_run {t : TaskId} {indices : List Int} {w : World} (ops : List Op)
    (listing : Listing t indices w) :
    (¬ Released t ops → Listing t indices (Runs.run exec ops w)) ∧
      (Released t ops → Listing t [] (Runs.run exec ops w)) := by
  induction ops generalizing w with
  | nil => exact ⟨fun _ => listing, fun released => by cases released.2⟩
  | cons op rest ih =>
      by_cases finish : t ≠ "" ∧ op = .finished t
      · obtain ⟨named, rfl⟩ := finish
        constructor
        · exact fun kept => absurd ⟨named, List.mem_cons_self⟩ kept
        · intro _
          rw [Runs.run_cons]
          exact listing_empty (listing_cleared listing named)
      · have ahead := ih (listing_kept listing finish)
        constructor
        · intro kept
          apply ahead.1
          exact fun released => kept ⟨released.1, List.mem_cons_of_mem _ released.2⟩
        · intro released
          apply ahead.2
          rcases List.mem_cons.mp released.2 with here | later
          · exact absurd ⟨released.1, here.symm⟩ finish
          · exact ⟨released.1, later⟩

theorem listing_launch {env : Scheduler.Env} {w : World} {task : Task} {a : Allocation} {run : AgentRun}
    (launched : (Scheduler.scheduleOne env w.toStore).launched = some (task, a, run))
    (accepted : (Scheduler.accepted run).isOk = true) :
    Listing task.id a.gpuIndices (exec (.schedule env) w) := by
  obtain ⟨id, result, left⟩ := Scheduler.scheduleOne_started launched accepted
  refine ⟨Scheduler.markRunning a id env.now result task, ?_, ⟨nofun, nofun⟩, rfl⟩
  simp only [exec, schedule, World.row]
  rw [left.tasks, if_pos rfl]

/-! ## The charge -/

/-- The exact price of the run. -/
def owed (rate : ℚ) (duration : Int) (gpuCount : Nat) : ℚ := duration / 3600 * (gpuCount * rate)

/-- The 28 digits of the decimal context suffice to round this price: either every
    operation is exact, or the price is 10⁻²⁰ away from all half-way points. -/
def Priceable (rate : ℚ) (duration : Int) (gpuCount : Nat) : Prop :=
  (Decimal.Representable (duration / 3600) ∧ Decimal.Representable (gpuCount * rate) ∧
      Decimal.Representable (owed rate duration gpuCount)) ∨
    Decimal.Settled (1 / 10 ^ 16) (owed rate duration gpuCount * 10 ^ 4)

theorem roundHalfUp_lt {q : ℚ} {n : ℤ} (bound : |Decimal.roundHalfUp q| < n) : |q| < n := by
  have near := abs_le.mp (Decimal.roundHalfUp_near q)
  have inside := abs_lt.mp bound
  have lower : (-n : ℚ) + 1 ≤ Decimal.roundHalfUp q := by exact_mod_cast inside.1
  have upper : (Decimal.roundHalfUp q : ℚ) ≤ n - 1 := by
    have := inside.2
    exact_mod_cast Int.le_sub_one_of_lt this
  rw [abs_lt]
  constructor <;> linarith

theorem cost_eq_owed {rate : ℚ} {duration : Int} {gpuCount : Nat} {charge : ℚ}
    (priced : cost rate duration gpuCount = some charge) (fits : fitsColumn charge = true)
    (priceable : Priceable rate duration gpuCount) :
    charge = Decimal.halfUp 4 (owed rate duration gpuCount) := by
  rw [Decimal.quantize_eq_some priced]
  rcases priceable with ⟨divides, multiplies, exact_⟩ | settled
  · rw [amount, Decimal.context_mul_eq divides multiplies exact_, owed]
  · have near := Decimal.context_mul_near (duration / 3600) (gpuCount * rate)
    rw [← amount, ← owed] at near
    rw [Decimal.quantize_eq_some priced] at fits
    have small : |amount rate duration gpuCount| < 10 ^ 6 := by
      have bound : |Decimal.roundHalfUp (amount rate duration gpuCount * 10 ^ 4)| < (10 ^ 10 : ℤ) := by
        have column := of_decide_eq_true fits
        rw [Decimal.halfUp, abs_div, abs_of_pos (by norm_num : (0 : ℚ) < 10 ^ 4),
          div_lt_iff₀ (by norm_num)] at column
        have : ((|Decimal.roundHalfUp (amount rate duration gpuCount * 10 ^ 4)| : ℤ) : ℚ) <
            ((10 ^ 10 : ℤ) : ℚ) := by
          push_cast
          linarith
        exact_mod_cast this
      have wide := roundHalfUp_lt bound
      rw [abs_mul, abs_of_pos (by norm_num : (0 : ℚ) < 10 ^ 4)] at wide
      push_cast at wide
      linarith
    have size : |owed rate duration gpuCount| < 2 * 10 ^ 6 := by
      have step : |owed rate duration gpuCount| ≤
          |amount rate duration gpuCount| + |owed rate duration gpuCount| * 4 / 10 ^ 27 := by
        have apart := abs_sub_abs_le_abs_sub (owed rate duration gpuCount) (amount rate duration gpuCount)
        rw [abs_sub_comm] at apart
        linarith
      linarith [abs_nonneg (owed rate duration gpuCount)]
    have close : |amount rate duration gpuCount * 10 ^ 4 - owed rate duration gpuCount * 10 ^ 4| <
        1 / 10 ^ 16 := by
      rw [← sub_mul, abs_mul, abs_of_pos (by norm_num : (0 : ℚ) < 10 ^ 4)]
      linarith
    rw [Decimal.halfUp, Decimal.halfUp, Decimal.roundHalfUp_eq_of_settled settled close]

/-- Without exactness a half-way price may be carried below the half: four
    seconds at 0.855 cost 0.00095 exactly. -/
example : cost (855 / 1000) 4 1 = some (9 / 10000) := by decide +kernel

/-- A gpu_time record with this cost was inserted for the task. -/
def Charged (db db' : Database) (t : TaskId) (cost : ℚ) : Prop :=
  ∃ records, db'.billingRecords = db.billingRecords ++ records ∧
    ∃ row ∈ records, row.taskId = some t ∧ row.resourceType = "gpu_time" ∧ row.costCredits = cost

/-- What a billing run that bills an unbilled task does, by what its row lists. -/
theorem billed_outcome {rate : ℚ} {db db' : Database} {count : Nat} {t : TaskId} {row row' : Task}
    {started finished : Time} (done : calculateTaskBilling rate db = some (db', count))
    (found : db.tasks.get t = some row) (unbilled : row.billed = false)
    (begun : row.startedAt = some started) (ended : row.finishedAt = some finished)
    (lasting : 1 ≤ wholeSeconds started finished)
    (found' : db'.tasks.get t = some row') (billed : row'.billed = true) :
    ∃ records, db'.billingRecords = db.billingRecords ++ records ∧
      (row.gpuIndices = [] ∧ recordsOf t records = [] ∨
        row.gpuIndices ≠ [] ∧ ∃ charge,
          cost rate (wholeSeconds started finished) row.gpuIndices.length = some charge ∧
          fitsColumn charge = true ∧ ∃ entry ∈ records, entry.taskId = some t ∧
            entry.resourceType = "gpu_time" ∧ entry.costCredits = charge) := by
  obtain ⟨records, inserted, _, _, fates⟩ := calculateTaskBilling_spec done
  refine ⟨records, inserted, ?_⟩
  have fate := fates t
  rw [found, found'] at fate
  cases fate with
  | untouched outside same =>
      cases same
      rw [unbilled] at billed
      cases billed
  | processed task inside here flag outcome rewritten =>
      have same : task = row := by
        have taken := Table.get_of_mem (List.mem_of_mem_filter inside)
        rw [here, found] at taken
        exact (Option.some.inj taken).symm
      subst same
      cases flag with
      | false =>
          cases rewritten
          rw [unbilled] at billed
          cases billed
      | true =>
          generalize same : recordsOf t records = own at outcome
          cases outcome with
          | waived begun' ended' nothing =>
              rw [begun] at begun'
              rw [ended] at ended'
              cases begun'
              cases ended'
              rcases nothing with short | unused
              · omega
              · exact .inl ⟨List.eq_nil_of_length_eq_zero unused, rfl⟩
          | charged begun' ended' used priced fits db lasting' =>
              rename_i charge
              rw [begun] at begun'
              rw [ended] at ended'
              cases begun'
              cases ended'
              have listed : task.gpuIndices ≠ [] := fun none => used (List.length_eq_zero_iff.mpr none)
              refine .inr ⟨listed, _, priced, fits, ?_⟩
              have entry := List.mem_singleton_self
                (record db task (wholeSeconds started finished) finished charge)
              rw [← same] at entry
              exact ⟨_, List.mem_of_mem_filter entry, by rw [← here]; rfl, rfl, rfl⟩

/-- A billing run that bills a task launched on GPUs charges the exact price when
    no finish notification came first, and charges nothing when one did. -/
theorem gpu_run_charged {w : World} {env : Scheduler.Env} {task : Task} {a : Allocation} {run : AgentRun}
    (launched : (Scheduler.scheduleOne env w.toStore).launched = some (task, a, run))
    (accepted : (Scheduler.accepted run).isOk = true) (used : a.gpuIndices ≠ []) (ops : List Op)
    {rate : ℚ} {row row' : Task} {started finished : Time} {db' : Database} {count : Nat}
    (found : (Runs.run exec (.schedule env :: ops) w).row task.id = some row)
    (unbilled : row.billed = false) (begun : row.startedAt = some started)
    (ended : row.finishedAt = some finished) (lasting : 1 ≤ wholeSeconds started finished)
    (done : calculateTaskBilling rate (Runs.run exec (.schedule env :: ops) w).db = some (db', count))
    (found' : db'.tasks.get task.id = some row') (billed : row'.billed = true) :
    let duration := wholeSeconds started finished
    let charged := Charged (Runs.run exec (.schedule env :: ops) w).db db' task.id
      (Decimal.halfUp 4 (owed rate duration a.gpuIndices.length))
    (¬ Released task.id ops ∧ Priceable rate duration a.gpuIndices.length → charged) ∧
      (charged → ¬ Released task.id ops) := by
  intro duration charged
  have listing := listing_run ops (listing_launch launched accepted)
  obtain ⟨records, inserted, outcome⟩ :=
    billed_outcome done found unbilled begun ended lasting found' billed
  rw [World.row] at found
  constructor
  · rintro ⟨kept, priceable⟩
    obtain ⟨row'', here, _, lists⟩ := listing.1 kept
    rw [World.row, ← Runs.run_cons, found] at here
    cases here
    rcases outcome with ⟨unused, _⟩ | ⟨_, charge, priced, fits, entry, inside, own, kind, price⟩
    · rw [lists] at unused
      exact absurd unused used
    · rw [lists] at priced
      exact ⟨records, inserted, entry, inside, own, kind, price.trans (cost_eq_owed priced fits priceable)⟩
  · rintro ⟨records', inserted', entry, inside, own, _⟩ released
    obtain ⟨row'', here, _, lists⟩ := listing.2 released
    rw [World.row, ← Runs.run_cons, found] at here
    cases here
    rcases outcome with ⟨_, none⟩ | ⟨listed, _⟩
    · rw [inserted, List.append_cancel_left_eq] at inserted'
      subst inserted'
      have member : entry ∈ recordsOf task.id records :=
        List.mem_filter.mpr ⟨inside, decide_eq_true own⟩
      rw [none] at member
      cases member
    · exact listed lists

/-! ## An hour on one GPU -/

/-- The task has been submitted on a platform with one idle GPU. -/
def submittedTask : World :=
  Runs.run exec [Sample.beat 0 [], .create "t" 0 Sample.user Sample.payload,
    .submit .none "" Sample.user "t"] {}

def anHour : List Op := [Sample.callback 3600000000 .success "t"]

theorem hour_charged :
    ∃ db' count, calculateTaskBilling 1
        (Runs.run exec (.schedule (Sample.env "c" 0) :: anHour) submittedTask).db = some (db', count) ∧
      Charged (Runs.run exec (.schedule (Sample.env "c" 0) :: anHour) submittedTask).db db' "t"
        (Decimal.halfUp 4 (owed 1 3600 1)) := by
  have bills : ((calculateTaskBilling 1
      (Runs.run exec (.schedule (Sample.env "c" 0) :: anHour) submittedTask).db).bind fun done =>
        (done.1.tasks.get "t").map (·.billed)) = some true := by decide +kernel
  obtain ⟨⟨db', count⟩, done, rest⟩ := Option.bind_eq_some_iff.mp bills
  obtain ⟨row', found', billed⟩ := Option.map_eq_some_iff.mp rest
  have unreleased : ¬ Released "t" anHour := by
    rintro ⟨_, inside⟩
    cases List.mem_singleton.mp inside
  have priceable : Priceable 1 3600 1 := by
    refine .inl ⟨⟨1, 0, by norm_num, by norm_num⟩, ⟨1, 0, by norm_num, by norm_num⟩, 1, 0, by norm_num, ?_⟩
    norm_num [owed]
  have launched : (Scheduler.scheduleOne (Sample.env "c" 0) submittedTask.toStore).launched =
      some (_, _, _) := rfl
  exact ⟨db', count, done, (gpu_run_charged launched rfl (by decide) anHour rfl rfl rfl rfl (by decide)
    done found' billed).1 ⟨unreleased, priceable⟩⟩

/-- The same hour with the finish notification before the billing run: the task
    is billed and nothing is charged. -/
theorem finish_before_billing :
    ∃ db' count, calculateTaskBilling 1 (Runs.run exec (.schedule (Sample.env "c" 0) ::
        (anHour ++ [.finished "t"])) submittedTask).db = some (db', count) ∧
      (db'.tasks.get "t").map (·.billed) = some true ∧
      ¬ Charged (Runs.run exec (.schedule (Sample.env "c" 0) ::
        (anHour ++ [.finished "t"])) submittedTask).db db' "t" (Decimal.halfUp 4 (owed 1 3600 1)) := by
  refine ⟨_, _, rfl, rfl, ?_⟩
  rintro ⟨records, inserted, row, inside, _⟩
  have none : ([] : List BillingRecord) = [] ++ records := inserted
  cases none
  cases inside

end SuitApi.Charging
