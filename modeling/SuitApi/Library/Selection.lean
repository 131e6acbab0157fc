import Mathlib.Data.List.Sort
import Mathlib.Data.Prod.Lex

/-! # Selection by a key

A list is sorted by a key of its elements, and the first element, or the first few,
are taken.
-/

namespace Selection

variable {α κ : Type} [LinearOrder κ] {key : α → κ} {r : α → α → Prop} [DecidableRel r]

/-- Sorting by a relation that compares keys sorts the keys. -/
theorem pairwise_insertionSort (sorts : ∀ a b, r a b ↔ key a ≤ key b) (l : List α) :
    (l.insertionSort r).Pairwise fun a b => key a ≤ key b := by
  have total : Std.Total r := ⟨fun a b => by simpa only [sorts] using le_total (key a) (key b)⟩
  have trans : IsTrans α r := ⟨fun a b c first second => by
    rw [sorts] at *
    exact first.trans second⟩
  exact (List.pairwise_insertionSort r l).imp fun here => (sorts _ _).mp here

/-- The first element of the sorted list has the least key. -/
theorem least (sorts : ∀ a b, r a b ↔ key a ≤ key b) {l : List α} {x : α}
    (first : (l.insertionSort r).head? = some x) : x ∈ l ∧ ∀ y ∈ l, key x ≤ key y := by
  have sorted := pairwise_insertionSort sorts l
  have inside : ∀ y, y ∈ l.insertionSort r ↔ y ∈ l := fun y => List.mem_insertionSort r
  cases whole : l.insertionSort r with
  | nil =>
      rw [whole] at first
      cases first
  | cons head rest =>
      simp only [whole, List.head?_cons, Option.some.injEq] at first
      subst first
      rw [whole] at sorted
      simp only [whole] at inside
      constructor
      · exact (inside head).mp List.mem_cons_self
      · intro y member
        rcases List.mem_cons.mp ((inside y).mpr member) with rfl | later
        · exact le_rfl
        · exact (List.pairwise_cons.mp sorted).1 y later

/-- With distinct keys it does not matter whether a list is sorted or filtered first. -/
theorem filter_insertionSort (sorts : ∀ a b, r a b ↔ key a ≤ key b) {l : List α} (distinct : (l.map key).Nodup)
    (p : α → Bool) : (l.insertionSort r).filter p = (l.filter p).insertionSort r := by
  have first := (pairwise_insertionSort sorts l).filter p
  have second := pairwise_insertionSort sorts (l.filter p)
  apply List.Perm.eq_of_pairwise _ first second
  · exact ((List.perm_insertionSort r l).filter p).trans (List.perm_insertionSort r _).symm
  · intro a b left right below above
    have left' := (List.mem_insertionSort r).mp (List.mem_of_mem_filter left)
    have right' := List.mem_of_mem_filter ((List.mem_insertionSort r).mp right)
    exact List.inj_on_of_nodup_map distinct left' right' (le_antisymm below above)

/-- The keys of the sorted list grow strictly, if they are distinct. -/
theorem map_insertionSort_lt (sorts : ∀ a b, r a b ↔ key a ≤ key b) {l : List α} (distinct : (l.map key).Nodup) :
    ((l.insertionSort r).map key).Pairwise (· < ·) := by
  have sorted := List.pairwise_map.mpr (pairwise_insertionSort sorts l)
  have different : ((l.insertionSort r).map key).Nodup :=
    ((List.perm_insertionSort r l).map key).nodup_iff.mpr distinct
  exact (sorted.and different).imp fun here => lt_of_le_of_ne here.1 here.2

/-- A comparison component by component is the lexicographic order. -/
theorem toLex_le_iff {β γ δ : Type} [LinearOrder β] [LinearOrder γ] [LinearOrder δ] {a b : β × γ × δ} :
    toLex (a.1, toLex a.2) ≤ toLex (b.1, toLex b.2) ↔
      a.1 < b.1 ∨ a.1 = b.1 ∧ (a.2.1 < b.2.1 ∨ a.2.1 = b.2.1 ∧ a.2.2 ≤ b.2.2) := by
  rw [Prod.Lex.toLex_le_toLex, Prod.Lex.toLex_le_toLex]

end Selection
