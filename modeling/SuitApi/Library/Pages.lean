import Mathlib.Data.List.Nodup
import Mathlib.Data.List.Perm.Basic
import SuitApi.Library.Selection

/-! # Reading a sorted listing page by page

Each page is cut from an answer of its own, and the answers may order rows of equal key
as they like.  Together the pages hold every row once exactly when no page ends between
two rows of equal key.
-/

namespace Pages

variable {α κ : Type} [LinearOrder κ]

/-- A list that a query for the rows, sorted by the key, may return. -/
structure Answer (key : α → κ) (rows l : List α) : Prop where
  perm : l.Perm rows
  sorted : l.Pairwise fun a b => key a ≤ key b

/-- The page with number `i`, counted from 0. -/
def page (size : Nat) (l : List α) (i : Nat) : List α := (l.drop (i * size)).take size

/-- The number of pages. -/
def pages (size total : Nat) : Nat := (total + size - 1) / size

/-- The number of rows that come before all rows of key `k`. -/
def before (key : α → κ) (rows : List α) (k : κ) : Nat := rows.countP fun row => key row < k

/-- The number of rows that come before some row of larger key than `k`. -/
def upto (key : α → κ) (rows : List α) (k : κ) : Nat := rows.countP fun row => key row ≤ k

/-- A cut after `j` rows parts rows of equal key. -/
def Parts (key : α → κ) (rows : List α) (j : Nat) : Prop :=
  ∃ row ∈ rows, before key rows (key row) < j ∧ j < upto key rows (key row)

variable {key : α → κ} {rows l : List α}

theorem Parts.inside {j : Nat} (parts : Parts key rows j) : 0 < j ∧ j < rows.length := by
  obtain ⟨row, _, less, more⟩ := parts
  exact ⟨Nat.pos_of_ne_zero (Nat.ne_zero_of_lt less), more.trans_le List.countP_le_length⟩

/-! ## The places of the rows -/

/-- If what satisfies `p` stands in front, counting it tells where. -/
theorem lt_countP_iff {p : α → Bool} (front : l.Pairwise fun a b => p b = true → p a = true) {i : Nat}
    (inside : i < l.length) : i < l.countP p ↔ p (l.get ⟨i, inside⟩) = true := by
  induction l generalizing i with
  | nil => exact absurd inside (Nat.not_lt_zero i)
  | cons row rest ih =>
      obtain ⟨first, later⟩ := List.pairwise_cons.mp front
      by_cases here : p row = true
      · rw [List.countP_cons_of_pos here]
        cases i with
        | zero => exact iff_of_true (Nat.succ_pos _) here
        | succ i =>
            rw [Nat.succ_lt_succ_iff]
            exact ih later (Nat.lt_of_succ_lt_succ inside)
      · have none : rest.countP p = 0 := by
          rw [List.countP_eq_zero]
          exact fun other member found => here (first other member found)
        rw [List.countP_cons_of_neg here, none]
        refine iff_of_false (Nat.not_lt_zero i) ?_
        cases i with
        | zero => exact here
        | succ i => exact fun found => here (first _ (List.get_mem _ _) found)

theorem Answer.lt_before_iff (answer : Answer key rows l) {k : κ} {i : Nat} (inside : i < l.length) :
    i < before key rows k ↔ key (l.get ⟨i, inside⟩) < k := by
  rw [before, ← answer.perm.countP_eq, lt_countP_iff _ inside, decide_eq_true_eq]
  exact answer.sorted.imp fun order less => decide_eq_true (order.trans_lt (of_decide_eq_true less))

theorem Answer.lt_upto_iff (answer : Answer key rows l) {k : κ} {i : Nat} (inside : i < l.length) :
    i < upto key rows k ↔ key (l.get ⟨i, inside⟩) ≤ k := by
  rw [upto, ← answer.perm.countP_eq, lt_countP_iff _ inside, decide_eq_true_eq]
  exact answer.sorted.imp fun order less => decide_eq_true (order.trans (of_decide_eq_true less))

/-- Which rows stand in front of a cut that parts no group does not depend on the answer. -/
theorem Answer.mem_take (answer : Answer key rows l) {j : Nat} (whole : ¬ Parts key rows j) {row : α} :
    row ∈ l.take j ↔ row ∈ rows ∧ upto key rows (key row) ≤ j := by
  constructor
  · intro member
    obtain ⟨i, small, rfl⟩ := List.mem_iff_getElem.mp member
    rw [List.length_take] at small
    have inside : i < l.length := by omega
    have stored := answer.perm.mem_iff.mp (List.get_mem l ⟨i, inside⟩)
    have front : before key rows (key (l.get ⟨i, inside⟩)) ≤ i :=
      not_lt.mp (mt (answer.lt_before_iff inside).mp (lt_irrefl _))
    rw [List.getElem_take]
    refine ⟨stored, not_lt.mp fun more => whole ⟨_, stored, ?_, more⟩⟩
    exact front.trans_lt (by omega)
  · rintro ⟨stored, few⟩
    obtain ⟨i, inside, rfl⟩ := List.mem_iff_getElem.mp (answer.perm.mem_iff.mpr stored)
    have place := (answer.lt_upto_iff inside).mpr le_rfl
    exact List.mem_take_iff_getElem.mpr ⟨i, lt_min (place.trans_le few) inside, rfl⟩

/-! ## Pages of several answers -/

section

variable {size : Nat}

theorem Answer.take_perm {l' : List α} (answer : Answer key rows l) (answer' : Answer key rows l')
    (distinct : rows.Nodup) {j : Nat} (whole : ¬ Parts key rows j) : (l.take j).Perm (l'.take j) := by
  have first : (l.take j).Nodup := (answer.perm.nodup_iff.mpr distinct).sublist (List.take_sublist j l)
  have second : (l'.take j).Nodup := (answer'.perm.nodup_iff.mpr distinct).sublist (List.take_sublist j l')
  apply (List.perm_ext_iff_of_nodup first second).mpr
  intro row
  rw [answer.mem_take whole, answer'.mem_take whole]

theorem take_page (l : List α) (i : Nat) : l.take ((i + 1) * size) = l.take (i * size) ++ page size l i := by
  rw [Nat.succ_mul, List.take_add, page]

theorem Answer.page_perm {l' : List α} (answer : Answer key rows l) (answer' : Answer key rows l')
    (distinct : rows.Nodup) (whole : ∀ i, ¬ Parts key rows (i * size)) (i : Nat) :
    (page size l i).Perm (page size l' i) := by
  have front := answer.take_perm answer' distinct (whole i)
  have both := answer.take_perm answer' distinct (whole (i + 1))
  rw [take_page, take_page] at both
  exact (List.perm_append_left_iff _).mp (both.trans (front.symm.append_right _))

/-- The pages of one answer are its rows in order. -/
theorem flatMap_page (l : List α) (n : Nat) : (List.range n).flatMap (page size l) = l.take (n * size) := by
  induction n with
  | zero => simp
  | succ n ih => rw [List.range_succ, List.flatMap_append, ih, List.flatMap_singleton, take_page]

theorem length_le_pages (positive : 0 < size) (total : Nat) : total ≤ pages size total * size := by
  have split := Nat.div_add_mod (total + size - 1) size
  have small := Nat.mod_lt (total + size - 1) positive
  rw [pages, Nat.mul_comm]
  omega

/-- A page beyond the last one is empty. -/
theorem Answer.page_beyond (answer : Answer key rows l) (positive : 0 < size) {i : Nat}
    (beyond : pages size rows.length ≤ i) : page size l i = [] := by
  have far := (length_le_pages positive rows.length).trans (Nat.mul_le_mul_right size beyond)
  rw [page, List.drop_of_length_le (by rw [answer.perm.length_eq]; exact far), List.take_nil]

/-- Where no page ends inside a group of equal key, the pages hold every row once. -/
theorem flatMap_page_perm (distinct : rows.Nodup) (positive : 0 < size) (whole : ∀ i, ¬ Parts key rows (i * size))
    {answers : Nat → List α} (all : ∀ i, Answer key rows (answers i)) :
    ((List.range (pages size rows.length)).flatMap fun i => page size (answers i) i).Perm rows := by
  have same : ((List.range (pages size rows.length)).flatMap fun i => page size (answers i) i).Perm
      ((List.range (pages size rows.length)).flatMap (page size (answers 0))) :=
    List.Perm.flatMap_left _ fun i _ => (all i).page_perm (all 0) distinct whole i
  refine same.trans ?_
  rw [flatMap_page, List.take_of_length_le]
  · exact (all 0).perm
  · rw [(all 0).perm.length_eq]
    exact length_le_pages positive rows.length

/-! ## An answer that loses a row -/

theorem exists_answer (key : α → κ) (rows : List α) : ∃ l, Answer key rows l :=
  ⟨rows.insertionSort fun a b => key a ≤ key b, List.perm_insertionSort _ _,
    Selection.pairwise_insertionSort (fun _ _ => Iff.rfl) rows⟩

/-- Two neighbours of equal key may be answered the other way round. -/
theorem Answer.swap {front back : List α} {x y : α} (answer : Answer key rows (front ++ x :: y :: back))
    (tied : key y ≤ key x) : Answer key rows (front ++ y :: x :: back) where
  perm := ((List.Perm.swap x y back).append_left front).trans answer.perm
  sorted := by
    have sorted := answer.sorted
    simp only [List.pairwise_append, List.pairwise_cons, List.mem_cons, forall_eq_or_imp] at sorted ⊢
    obtain ⟨one, ⟨⟨_, two⟩, three, four⟩, five⟩ := sorted
    refine ⟨one, ⟨⟨tied, three⟩, two, four⟩, fun a member => ?_⟩
    exact ⟨(five a member).2.1, (five a member).1, (five a member).2.2⟩

/-- At a cut that parts a group, the rows on both sides have equal key. -/
theorem Answer.split (answer : Answer key rows l) {j : Nat} (parts : Parts key rows j) :
    ∃ front x y back, l = front ++ x :: y :: back ∧ front.length + 1 = j ∧ key y ≤ key x := by
  have inside : j < l.length := by
    rw [answer.perm.length_eq]
    exact parts.inside.2
  obtain ⟨row, stored, less, more⟩ := parts
  obtain ⟨i, rfl⟩ := Nat.exists_eq_add_one_of_ne_zero (Nat.ne_zero_of_lt less)
  have inside' : i < l.length := Nat.lt_of_succ_lt inside
  have below := (answer.lt_upto_iff inside).mp more
  have above := mt (answer.lt_before_iff inside').mpr (not_lt.mpr (Nat.le_of_lt_succ less))
  refine ⟨l.take i, l[i], l[i + 1], l.drop (i + 2), ?_, ?_, below.trans (not_lt.mp above)⟩
  · rw [← List.drop_eq_getElem_cons, ← List.drop_eq_getElem_cons, List.take_append_drop]
  · rw [List.length_take_of_le inside'.le]

theorem mem_page (positive : 0 < size) {n : Nat} {row : α} (found : l[n]? = some row) :
    row ∈ page size l (n / size) := by
  apply List.mem_of_getElem? (i := n % size)
  rw [page, List.getElem?_take_of_lt (Nat.mod_lt n positive), List.getElem?_drop, Nat.mul_comm, Nat.div_add_mod]
  exact found

/-- Then some answers give two pages the same row. -/
theorem exists_twice (positive : 0 < size) {i : Nat} (parts : Parts key rows (i * size)) :
    ∃ answers : Nat → List α, (∀ n, Answer key rows (answers n)) ∧
      ¬ ((List.range (pages size rows.length)).flatMap fun n => page size (answers n) n).Nodup := by
  obtain ⟨l, answer⟩ := exists_answer key rows
  obtain ⟨front, x, y, back, rfl, place, tied⟩ := answer.split parts
  refine ⟨fun n => if n = i then front ++ y :: x :: back else front ++ x :: y :: back, ?_, ?_⟩
  · intro n
    simp only
    split
    · exact answer.swap tied
    · exact answer
  · intro apart
    have last : i < pages size rows.length := by
      have enough := parts.inside.2.trans_le (length_le_pages positive rows.length)
      exact Nat.lt_of_mul_lt_mul_right enough
    obtain ⟨k, rfl⟩ := Nat.exists_eq_add_one_of_ne_zero (show i ≠ 0 by rintro rfl; omega)
    -- the row in front of the cut stands at the end of one page and at the start of the next
    have here : x ∈ page size (front ++ x :: y :: back) k := by
      have found : (front ++ x :: y :: back)[front.length]? = some x := by simp
      have number : front.length / size = k := by
        rw [Nat.succ_mul] at place
        apply Nat.div_eq_of_lt_le
        · omega
        · rw [Nat.succ_mul]
          omega
      rw [← number]
      exact mem_page positive found
    have again : x ∈ page size (front ++ y :: x :: back) (k + 1) := by
      have found : (front ++ y :: x :: back)[(k + 1) * size]? = some x := by
        rw [← place]
        simp
      rw [← Nat.mul_div_cancel (k + 1) positive]
      exact mem_page positive found
    have pair := List.pairwise_iff_getElem.mp (List.nodup_flatMap.mp apart).2 k (k + 1)
      (by simpa using Nat.lt_of_succ_lt last) (by simpa using last) (Nat.lt_succ_self k)
    simp only [Function.onFun, List.getElem_range, if_neg (Nat.ne_of_lt (Nat.lt_succ_self k)), if_true] at pair
    exact pair here again

end

/-- Rows of different keys are never parted. -/
theorem not_parts (distinct : (rows.map key).Nodup) (j : Nat) : ¬ Parts key rows j := by
  intro parts
  obtain ⟨l, answer⟩ := exists_answer key rows
  obtain ⟨front, x, y, back, rfl, _, tied⟩ := answer.split parts
  have sorted := (List.pairwise_append.mp answer.sorted).2.1
  have order := (List.pairwise_cons.mp sorted).1 y List.mem_cons_self
  have apart := (answer.perm.map key).nodup_iff.mpr distinct
  rw [List.map_append, List.map_cons, List.map_cons] at apart
  have pair := (List.nodup_append.mp apart).2.1
  rw [le_antisymm order tied] at pair
  simp at pair

end Pages
