import SuitApi.Library.Runs
import SuitApi.TaskService

/-! # Final callbacks that arrive more than once

`handle_callback` commits before it publishes.  When the publish fails it answers
503 although the row is written, and the agent sends the callback again.
-/

namespace SuitApi.Redelivery

open TaskService

/-- One arrival of the callback: the clock it reads, and whether Redis fails its
    publish. -/
structure Delivery where
  now : Time
  publishFails : Bool := false
  deriving Repr, DecidableEq

/-- `handle_callback` with its publish. -/
def process (payload : TaskCallbackRequest) (t : TaskId) (delivery : Delivery) (db : Database) :
    Except AppException Unit × Database :=
  match handleCallback delivery.now payload t db with
  | (.error refusal, db') => (.error refusal, db')
  | (.ok _, db') =>
      if publishesFinished payload && delivery.publishFails then
        (.error (.make 503 "redis publish unavailable"), db')
      else (.ok (), db')

def exec (payload : TaskCallbackRequest) (t : TaskId) (delivery : Delivery) (db : Database) : Database :=
  (process payload t delivery db).2

theorem exec_eq (payload : TaskCallbackRequest) (t : TaskId) (delivery : Delivery) (db : Database) :
    exec payload t delivery db = (handleCallback delivery.now payload t db).2 := by
  unfold exec process
  split
  · rename_i handled
    rw [handled]
  · rename_i handled
    rw [handled]
    split <;> rfl

/-! ## The row after several deliveries -/

theorem exec_row {payload : TaskCallbackRequest} {t : TaskId} {task : Task} {db : Database}
    (found : db.tasks.get t = some task) (delivery : Delivery) :
    (exec payload t delivery db).tasks.get t = some (calledBack delivery.now payload task) := by
  rw [exec_eq, handleCallback_tasks, if_pos rfl, found, Option.map_some]

theorem withContainer_again (payload : TaskCallbackRequest) (task : Task) :
    (truthyText payload.containerId).or (withContainer payload task) = withContainer payload task := by
  unfold withContainer
  cases truthyText payload.containerId <;> rfl

/-- A final callback overwrites what an earlier one wrote, its time included. -/
theorem calledBack_again {payload : TaskCallbackRequest} (final : payload.status ≠ .running)
    (first second : Time) (task : Task) :
    calledBack second payload (calledBack first payload task) = calledBack second payload task := by
  have container := withContainer_again payload task
  cases status : payload.status with
  | running => exact absurd status final
  | success =>
      simp only [withContainer] at container
      simp [calledBack, status, withContainer, container]
  | failed =>
      simp only [withContainer] at container
      simp [calledBack, status, withContainer, container]

theorem calledBack_finishedAt {payload : TaskCallbackRequest} (final : payload.status ≠ .running) (now : Time)
    (task : Task) : (calledBack now payload task).finishedAt = some now := by
  cases status : payload.status with
  | running => exact absurd status final
  | success => simp [calledBack, status]
  | failed => simp [calledBack, status]

/-- Any number of deliveries leaves what the last one alone would have left. -/
theorem run_row {payload : TaskCallbackRequest} (final : payload.status ≠ .running) {t : TaskId}
    (first : Delivery) (later : List Delivery) {task : Task} {db : Database}
    (found : db.tasks.get t = some task) :
    (Runs.run (exec payload t) (first :: later) db).tasks.get t =
      some (calledBack ((first :: later).getLast (List.cons_ne_nil _ _)).now payload task) := by
  induction later generalizing first task db with
  | nil => exact exec_row found first
  | cons second rest ih =>
      have middle : (exec payload t first db).tasks.get t = some (calledBack first.now payload task) :=
        exec_row found first
      have written := ih second middle
      rw [calledBack_again final] at written
      rw [List.getLast_cons (List.cons_ne_nil second rest)]
      exact written

/-- Processed at later and later times, a final callback leaves the row of its first
    processing exactly when that was its only one. -/
theorem redelivered_same_row_iff {payload : TaskCallbackRequest} (final : payload.status ≠ .running) {t : TaskId}
    {task : Task} {db : Database} (found : db.tasks.get t = some task) (first : Delivery)
    (later : List Delivery) (increasing : (first :: later).Pairwise fun a b => a.now < b.now) :
    (Runs.run (exec payload t) (first :: later) db).tasks.get t = (exec payload t first db).tasks.get t ↔
      later = [] := by
  constructor
  · intro same
    rw [run_row final first later found, exec_row found, Option.some.injEq] at same
    have times := congrArg Task.finishedAt same
    simp only [calledBack_finishedAt final, Option.some.injEq] at times
    cases later with
    | nil => rfl
    | cons second rest =>
        rw [List.getLast_cons (List.cons_ne_nil second rest)] at times
        have after := (List.pairwise_cons.mp increasing).1 _ (List.getLast_mem (List.cons_ne_nil second rest))
        exact absurd times (Int.ne_of_gt after)
  · intro once
    rw [once, Runs.run_cons, Runs.run_nil]

/-! ## A retry after a failed publish -/

/-- A task that runs since the epoch. -/
def sampleTask : Task where
  id := "t"
  userId := "u"
  status := .running
  assignedNodeId := some "n1"
  assignedGpuIndices := some [0]
  containerId := some "c"
  startedAt := some 0

def sample : Database where
  tasks := .singleton sampleTask

def succeeded : TaskCallbackRequest := { status := .success, exitCode := some 0 }

theorem redelivered_same_row_once :
    (Runs.run (exec succeeded "t") [⟨60000000, true⟩] sample).tasks.get "t" =
      (exec succeeded "t" ⟨60000000, true⟩ sample).tasks.get "t" := by
  have found : sample.tasks.get "t" = some sampleTask := rfl
  exact (redelivered_same_row_iff (by decide) found ⟨60000000, true⟩ [] (List.pairwise_singleton _ _)).mpr rfl

/-- The task has run for one minute; the retry makes it two. -/
theorem retry_moves_finished_at : ¬ ∀ (payload : TaskCallbackRequest) (t : TaskId) (task : Task) (db : Database)
    (first : Delivery) (later : List Delivery), payload.status ≠ .running → db.tasks.get t = some task →
      task.status = .running → (first :: later).Pairwise (fun a b => a.now < b.now) →
      (Runs.run (exec payload t) (first :: later) db).tasks.get t = (exec payload t first db).tasks.get t := by
  intro all
  have same := all succeeded "t" _ sample ⟨60000000, true⟩ [⟨120000000, false⟩] (by decide) rfl rfl (by decide)
  have times := congrArg (Option.map Task.finishedAt) same
  exact absurd times (by decide)

end SuitApi.Redelivery
