import Mathlib.Data.List.Basic
import SuitApi.Library.Runs

/-! # Logs that forget

A log grows by batches, and with each batch it drops the old entries that are not to be
kept.  A query that selects some of the entries cannot tell the log from the whole record
exactly when no entry that it selects was ever dropped.
-/

namespace Retention

variable {α : Type}

structure Log (α : Type) where
  rows : List α := []
  record : List α := []

/-- A batch, and which of the entries before it are kept. -/
structure Batch (α : Type) where
  new : List α
  keeps : α → Bool

def step (batch : Batch α) (log : Log α) : Log α where
  rows := log.rows.filter batch.keeps ++ batch.new
  record := log.record ++ batch.new

/-- The step drops nothing that the query selects. -/
def Spares (selects : α → Bool) (log : Log α) (batch : Batch α) : Prop :=
  ∀ entry ∈ log.rows, selects entry = true → batch.keeps entry = true

/-- The query selects the same entries from the log and from the record. -/
def Complete (selects : α → Bool) (log : Log α) : Prop :=
  log.rows.filter selects = log.record.filter selects

variable {selects : α → Bool} {log : Log α}

theorem step_sublist (batch : Batch α) (sub : log.rows.Sublist log.record) :
    (step batch log).rows.Sublist (step batch log).record :=
  (List.filter_sublist.trans sub).append_right batch.new

/-- Entries are only ever missing, so counting them tells whether some are. -/
theorem complete_iff_countP (sub : log.rows.Sublist log.record) :
    Complete selects log ↔ log.record.countP selects ≤ log.rows.countP selects := by
  have shorter := sub.filter selects
  rw [List.countP_eq_length_filter, List.countP_eq_length_filter]
  constructor
  · intro same
    exact Nat.le_of_eq (congrArg List.length same.symm)
  · exact shorter.eq_of_length_le

theorem spares_iff_countP (batch : Batch α) :
    Spares selects log batch ↔ log.rows.countP selects ≤ (log.rows.filter batch.keeps).countP selects := by
  rw [List.countP_filter, List.countP_eq_length_filter, List.countP_eq_length_filter]
  have sub : (log.rows.filter fun entry => selects entry && batch.keeps entry).Sublist (log.rows.filter selects) :=
    List.monotone_filter_right _ fun entry both => (Bool.and_eq_true_iff.mp both).1
  constructor
  · intro spares
    apply Nat.le_of_eq
    apply congrArg List.length
    apply List.filter_congr
    intro entry inside
    cases selected : selects entry with
    | false => rfl
    | true => simp [spares entry inside selected]
  · intro long entry inside selected
    have kept : entry ∈ log.rows.filter fun entry => selects entry && batch.keeps entry := by
      rw [sub.eq_of_length_le long]
      exact List.mem_filter.mpr ⟨inside, selected⟩
    exact (Bool.and_eq_true_iff.mp (List.mem_filter.mp kept).2).2

theorem complete_step (batch : Batch α) (sub : log.rows.Sublist log.record) :
    Complete selects (step batch log) ↔ Complete selects log ∧ Spares selects log batch := by
  rw [complete_iff_countP (step_sublist batch sub), complete_iff_countP sub, spares_iff_countP]
  have fewer : (log.rows.filter batch.keeps).countP selects ≤ log.rows.countP selects :=
    List.filter_sublist.countP_le
  have before : log.rows.countP selects ≤ log.record.countP selects := sub.countP_le
  simp only [step, List.countP_append]
  omega

/-- In a system whose steps are steps of a log, a query misses nothing after a run exactly when
    no step of it dropped what the query selects. -/
theorem complete_run {σ β : Type} {exec : β → σ → σ} {view : σ → Log α} {batch : β → σ → Batch α}
    (views : ∀ b s, view (exec b s) = step (batch b s) (view s)) (labels : List β) {s : σ}
    (sub : (view s).rows.Sublist (view s).record) :
    Complete selects (view (Runs.run exec labels s)) ↔ Complete selects (view s) ∧
      Runs.Along exec (fun s b => Spares selects (view s) (batch b s)) labels s := by
  induction labels generalizing s with
  | nil => simp [Runs.Along]
  | cons b rest ih =>
      have sub' : (view (exec b s)).rows.Sublist (view (exec b s)).record := by
        rw [views]
        exact step_sublist _ sub
      rw [Runs.run_cons, ih sub', views, complete_step _ sub, Runs.Along, and_assoc]

end Retention
