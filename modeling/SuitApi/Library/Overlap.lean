import Mathlib.Logic.Basic

/-! # Transactions side by side

A transaction reads the store once and commits once.  What it commits is a
function of the store it has read and of the store it finds when it commits; it
takes no lock in between.
-/

namespace Overlap

/-! ## Columns -/

/-- The value of a column after the commit of a transaction that writes the columns
    it has changed. -/
def column {α : Type} [DecidableEq α] (read mine current : α) : α := if mine = read then current else mine

section

variable {α : Type} [DecidableEq α]

@[simp] theorem column_unchanged (read current : α) : column read read current = current := if_pos rfl

@[simp] theorem column_alone (read mine : α) : column read mine read = mine := by
  unfold column
  split
  · rename_i same
    exact same.symm
  · rfl

@[simp] theorem column_alike (read mine : α) : column read mine mine = mine := ite_self _

theorem column_changed {read mine : α} (changed : mine ≠ read) (current : α) :
    column read mine current = mine := if_neg changed

/-- Two transactions set a column, or leave it (`none`).  Where both set it, the value
    of the one that commits later stands. -/
def LaterStands (read : α) (first second : Option α) : Prop :=
  ∀ u v, first = some u → second = some v → u = v ∨ v ≠ read

/-- Where both set it, the value of the one that commits earlier stands. -/
def EarlierStands (read : α) (first second : Option α) : Prop :=
  ∀ u v, first = some u → second = some v → u = v ∨ v = read

theorem column_later_iff (read : α) (first second : Option α) :
    column read (second.getD read) (first.getD read) = second.getD (first.getD read) ↔
      LaterStands read first second := by
  cases first with
  | none => simp [LaterStands]
  | some u =>
      cases second with
      | none => simp [LaterStands]
      | some v =>
          simp only [LaterStands, Option.getD_some, Option.some.injEq]
          by_cases same : v = read
          · simp [same]
          · simp [column_changed same, same]

theorem column_earlier_iff (read : α) (first second : Option α) :
    column read (second.getD read) (first.getD read) = first.getD (second.getD read) ↔
      EarlierStands read first second := by
  cases first with
  | none => simp [EarlierStands]
  | some u =>
      cases second with
      | none => simp [EarlierStands]
      | some v =>
          simp only [EarlierStands, Option.getD_some, Option.some.injEq]
          by_cases same : v = read
          · simp [same]
          · simpa [column_changed same, same] using eq_comm

end

/-! ## Commits -/

variable {σ : Type}

/-- The store a transaction leaves, given the store it read and the store it finds. -/
abbrev Commit (σ : Type) := σ → σ → σ

/-- A transaction with no other beside it. -/
def alone (commit : Commit σ) (s : σ) : σ := commit s s

end Overlap
