import SuitApi.Library.Runs
import Mathlib.Order.Defs.PartialOrder

/-! # Failure detectors

A detector keeps the stamp of the last beat that it heard of a process.  A check suspects
the process if that stamp is below the limit of the check, and only a beat makes it trusted
again.
-/

namespace Detector

variable {σ α T : Type}

inductive Signal (T : Type) where
  | beat (stamp : T)
  | check (limit : T)

/-- What the detector holds of a process that it has heard of. -/
structure Opinion (T : Type) where
  last : T
  trusted : Bool

def Trusted (opinion : Option (Opinion T)) : Prop := ∃ stamp, opinion = some ⟨stamp, true⟩

section

variable [LE T] {exec : α → σ → σ}

/-- No other beat, and no check that the stamp fails. -/
def Spares (stamp : T) : Option (Signal T) → Prop
  | none => True
  | some (.beat _) => False
  | some (.check limit) => limit ≤ stamp

/-- The run ends with a beat of this stamp and steps that spare it. -/
def Vouched (exec : α → σ → σ) (signal : α → σ → Option (Signal T)) (stamp : T) (labels : List α) (s : σ) : Prop :=
  ∃ before a after, labels = before ++ a :: after ∧ signal a (Runs.run exec before s) = some (.beat stamp) ∧
    Runs.Along exec (fun s a => Spares stamp (signal a s)) after (exec a (Runs.run exec before s))

theorem vouched_cons {signal : α → σ → Option (Signal T)} {stamp : T} {a : α} {rest : List α} {s : σ} :
    Vouched exec signal stamp (a :: rest) s ↔
      (signal a s = some (.beat stamp) ∧ Runs.Along exec (fun s a => Spares stamp (signal a s)) rest (exec a s)) ∨
        Vouched exec signal stamp rest (exec a s) := by
  constructor
  · intro ⟨before, b, after, same, beat, spared⟩
    cases before with
    | nil =>
        cases same
        exact .inl ⟨beat, spared⟩
    | cons first before =>
        cases same
        exact .inr ⟨before, b, after, rfl, beat, spared⟩
  · intro cases
    rcases cases with ⟨beat, spared⟩ | ⟨before, b, after, rfl, beat, spared⟩
    · exact ⟨[], a, rest, rfl, beat, spared⟩
    · exact ⟨a :: before, b, after, rfl, beat, spared⟩

end

section

variable [LE T] [DecidableLE T] {exec : α → σ → σ}

def hear : Option (Signal T) → Option (Opinion T) → Option (Opinion T)
  | none, opinion => opinion
  | some (.beat stamp), _ => some ⟨stamp, true⟩
  | some (.check limit), opinion => opinion.map fun o => ⟨o.last, o.trusted && decide (limit ≤ o.last)⟩

/-- Where trust comes from: the signal itself, or the stamp that it spares. -/
theorem hear_eq_trusted {signal : Option (Signal T)} {opinion : Option (Opinion T)} {stamp : T} :
    hear signal opinion = some ⟨stamp, true⟩ ↔
      signal = some (.beat stamp) ∨ (opinion = some ⟨stamp, true⟩ ∧ Spares stamp signal) := by
  cases signal with
  | none => simp [hear, Spares]
  | some signal =>
      cases signal with
      | beat other => simp [hear, Spares]
      | check limit =>
          cases opinion with
          | none => simp [hear]
          | some o =>
              obtain ⟨last, trusted⟩ := o
              simp only [hear, Option.map_some, Option.some.injEq, Opinion.mk.injEq, Bool.and_eq_true,
                decide_eq_true_eq, reduceCtorEq, false_or, Spares]
              constructor
              · intro ⟨same, held, passed⟩
                exact ⟨⟨same, held⟩, same ▸ passed⟩
              · intro ⟨⟨same, held⟩, passed⟩
                exact ⟨same, held, same ▸ passed⟩

/-- Under the invariant, the view of the system is a detector's opinion about the signals
    that its steps give. -/
structure Watches (exec : α → σ → σ) (I : σ → Prop) (signal : α → σ → Option (Signal T))
    (view : σ → Option (Opinion T)) : Prop where
  kept : ∀ s a, I s → I (exec a s)
  heard : ∀ s a, I s → view (exec a s) = hear (signal a s) (view s)

/-- A run ends in trust if a beat vouches for it, or if it started in trust and spared it. -/
theorem Watches.opinion_iff {I : σ → Prop} {signal : α → σ → Option (Signal T)} {view : σ → Option (Opinion T)}
    (w : Watches exec I signal view) {stamp : T} (labels : List α) {s : σ} (start : I s) :
    view (Runs.run exec labels s) = some ⟨stamp, true⟩ ↔
      Vouched exec signal stamp labels s ∨
        (view s = some ⟨stamp, true⟩ ∧ Runs.Along exec (fun s a => Spares stamp (signal a s)) labels s) := by
  induction labels generalizing s with
  | nil => simp [Vouched, Runs.Along]
  | cons a rest ih =>
      rw [Runs.run_cons, ih (w.kept s a start), w.heard s a start, hear_eq_trusted, vouched_cons, Runs.Along]
      grind

/-- Of a process that it has not heard of before, a detector trusts exactly those that a beat
    vouches for. -/
theorem Watches.trusted_iff {I : σ → Prop} {signal : α → σ → Option (Signal T)} {view : σ → Option (Opinion T)}
    (w : Watches exec I signal view) (labels : List α) {s : σ} (start : I s) (unheard : view s = none) :
    Trusted (view (Runs.run exec labels s)) ↔ ∃ stamp, Vouched exec signal stamp labels s := by
  apply exists_congr
  intro stamp
  rw [w.opinion_iff labels start, unheard]
  simp

end

end Detector
