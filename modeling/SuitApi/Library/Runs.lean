import Mathlib.Data.List.Basic

/-! # Runs of a deterministic step function

A system is a step function `exec : α → σ → σ`; whatever the environment
decides (a reply, a clock, a schedule) travels inside the label `α`.  A run is a
list of labels.  `Along` states a condition of every step taken, in the state in
which it is taken, so that conditional safety is an ordinary induction.
-/

namespace Runs

variable {σ α : Type} (exec : α → σ → σ)

/-- Execute the labels from left to right. -/
def run : List α → σ → σ
  | [], s => s
  | a :: rest, s => run rest (exec a s)

@[simp] theorem run_nil (s : σ) : run exec [] s = s := rfl

@[simp] theorem run_cons (a : α) (rest : List α) (s : σ) :
    run exec (a :: rest) s = run exec rest (exec a s) := rfl

theorem run_append (first second : List α) (s : σ) :
    run exec (first ++ second) s = run exec second (run exec first s) := by
  induction first generalizing s with
  | nil => rfl
  | cons a rest ih => exact ih (exec a s)

/-- Every label of the run satisfies `P` in the state where it is executed. -/
def Along (P : σ → α → Prop) : List α → σ → Prop
  | [], _ => True
  | a :: rest, s => P s a ∧ Along P rest (exec a s)

instance Along.decidable (P : σ → α → Prop) [∀ s a, Decidable (P s a)] :
    ∀ (labels : List α) (s : σ), Decidable (Along exec P labels s)
  | [], _ => inferInstanceAs (Decidable True)
  | a :: rest, s =>
      have := Along.decidable P rest (exec a s)
      inferInstanceAs (Decidable (P s a ∧ Along exec P rest (exec a s)))

variable {exec}

theorem along_append {P : σ → α → Prop} {first second : List α} {s : σ} :
    Along exec P (first ++ second) s ↔
      Along exec P first s ∧ Along exec P second (run exec first s) := by
  induction first generalizing s with
  | nil => simp only [List.nil_append, Along, run_nil, true_and]
  | cons a rest ih => simp only [List.cons_append, Along, run_cons, ih, and_assoc]

theorem along_and {P Q : σ → α → Prop} {labels : List α} {s : σ} :
    Along exec (fun s a => P s a ∧ Q s a) labels s ↔ Along exec P labels s ∧ Along exec Q labels s := by
  induction labels generalizing s with
  | nil => simp only [Along, and_self]
  | cons a rest ih =>
      simp only [Along, ih]
      constructor
      · intro ⟨⟨here, here'⟩, later, later'⟩
        exact ⟨⟨here, later⟩, here', later'⟩
      · intro ⟨⟨here, later⟩, here', later'⟩
        exact ⟨⟨here, here'⟩, later, later'⟩

/-- The condition of the step taken after any prefix of the run. -/
theorem Along.here {P : σ → α → Prop} {first second : List α} {a : α} {s : σ}
    (h : Along exec P (first ++ a :: second) s) : P (run exec first s) a :=
  (along_append.mp h).2.1

/-- An invariant preserved by the steps that satisfy `P` lasts as long as all of
    them do. -/
theorem Along.invariant {P : σ → α → Prop} {I : σ → Prop}
    (step : ∀ s a, I s → P s a → I (exec a s)) {labels : List α} {s : σ}
    (h : Along exec P labels s) (start : I s) : I (run exec labels s) := by
  induction labels generalizing s with
  | nil => exact start
  | cons a rest ih => exact ih h.2 (step s a start h.1)

/-- Under an invariant, a property of single steps holds along the whole run. -/
theorem Along.strengthen {P Q : σ → α → Prop} {I : σ → Prop}
    (step : ∀ s a, I s → P s a → I (exec a s)) (each : ∀ s a, I s → P s a → Q s a)
    {labels : List α} {s : σ} (h : Along exec P labels s) (start : I s) :
    Along exec Q labels s := by
  induction labels generalizing s with
  | nil => trivial
  | cons a rest ih => exact ⟨each s a start h.1, ih h.2 (step s a start h.1)⟩

/-- Two step conditions that are equivalent under an invariant are equivalent along
    every run, if the steps that meet them keep the invariant. -/
theorem along_congr {P Q : σ → α → Prop} {I : σ → Prop}
    (step : ∀ s a, I s → P s a → I (exec a s)) (same : ∀ s a, I s → (P s a ↔ Q s a))
    {labels : List α} {s : σ} (start : I s) : Along exec P labels s ↔ Along exec Q labels s := by
  induction labels generalizing s with
  | nil => exact Iff.rfl
  | cons a rest ih =>
      constructor
      · intro h
        exact ⟨(same s a start).mp h.1, (ih (step s a start h.1)).mp h.2⟩
      · intro h
        have here := (same s a start).mpr h.1
        exact ⟨here, (ih (step s a start here)).mpr h.2⟩

theorem run_invariant {I : σ → Prop} (step : ∀ s a, I s → I (exec a s)) (labels : List α) {s : σ}
    (start : I s) : I (run exec labels s) := by
  induction labels generalizing s with
  | nil => exact start
  | cons a rest ih => exact ih (step s a start)

/-- What every step does in a state of the invariant, every step of a run does. -/
theorem along_of_invariant {Q : σ → α → Prop} {I : σ → Prop} (step : ∀ s a, I s → I (exec a s))
    (each : ∀ s a, I s → Q s a) (labels : List α) {s : σ} (start : I s) : Along exec Q labels s := by
  induction labels generalizing s with
  | nil => trivial
  | cons a rest ih => exact ⟨each s a start, ih (step s a start)⟩

/-- A measure that falls until the system is quiet makes it quiet after as many steps. -/
theorem run_settles {I Quiet : σ → Prop} (measure : σ → Nat) (step : ∀ s a, I s → I (exec a s))
    (done : ∀ s, I s → measure s = 0 → Quiet s) (falls : ∀ s a, I s → Quiet s ∨ measure (exec a s) < measure s)
    (stays : ∀ s a, I s → Quiet s → Quiet (exec a s)) (labels : List α) {s : σ} (start : I s)
    (long : measure s ≤ labels.length) : Quiet (run exec labels s) := by
  induction labels generalizing s with
  | nil => exact done s start (Nat.le_zero.mp long)
  | cons a rest ih =>
      rcases falls s a start with quiet | less
      · have kept := run_invariant (I := fun s => I s ∧ Quiet s)
          (fun s a both => ⟨step s a both.1, stays s a both.1 both.2⟩) (a :: rest) ⟨start, quiet⟩
        exact kept.2
      · rw [List.length_cons] at long
        exact ih (step s a start) (by omega)

/-! ## Outputs -/

section Outputs

variable {τ β : Type} {view : σ → τ}

variable (exec) in
/-- What the steps of a run put out. -/
def trace (out : α → σ → β) : List α → σ → List β
  | [], _ => []
  | a :: rest, s => out a s :: trace out rest (exec a s)

/-- Steps that simulate steps of another system, under an invariant, make runs that simulate
    its runs. -/
theorem run_view {exec' : β → τ → τ} {I : σ → Prop} (label : α → β)
    (step : ∀ s a, I s → I (exec a s)) (views : ∀ s a, I s → view (exec a s) = exec' (label a) (view s))
    (labels : List α) {s : σ} (start : I s) :
    view (run exec labels s) = run exec' (labels.map label) (view s) := by
  induction labels generalizing s with
  | nil => rfl
  | cons a rest ih =>
      rw [run_cons, List.map_cons, run_cons, ← views s a start]
      exact ih (step s a start)

/-- What each step of the run keeps, the run keeps. -/
theorem Along.unchanged {P : σ → α → Prop} {I : σ → Prop} (step : ∀ s a, I s → P s a → I (exec a s))
    (keeps : ∀ s a, I s → P s a → view (exec a s) = view s) {labels : List α} {s : σ}
    (h : Along exec P labels s) (start : I s) : view (run exec labels s) = view s := by
  induction labels generalizing s with
  | nil => rfl
  | cons a rest ih => exact (ih h.2 (step s a start h.1)).trans (keeps s a start h.1)

end Outputs

end Runs
