import Mathlib.Data.List.Rotate

/-! # Taking turns

A counter that runs through the places of a list, modulo its length, visits them in
rotation.  Over a full round it visits every place once, wherever it starts; over any
number of turns the visits of two places differ by at most one.
-/

namespace Rotation

variable {α : Type}

/-- The elements visited by `count` turns of a counter that stands at `start`. -/
def turns (xs : List α) (start : Nat) : Nat → List α
  | 0 => []
  | count + 1 => xs[start % xs.length]?.toList ++ turns xs (start + 1) count

theorem turns_append (xs : List α) (start first second : Nat) :
    turns xs start (first + second) = turns xs start first ++ turns xs (start + first) second := by
  induction first generalizing start with
  | zero => rw [Nat.zero_add, Nat.add_zero, turns, List.nil_append]
  | succ first ih =>
      rw [Nat.succ_add, turns, turns, ih, List.append_assoc, Nat.add_assoc, Nat.add_comm 1 first]

section

variable {xs : List α}

theorem place_lt (nonempty : xs ≠ []) (start : Nat) : start % xs.length < xs.length :=
  Nat.mod_lt start (List.length_pos_iff.mpr nonempty)

theorem turns_succ (nonempty : xs ≠ []) (start count : Nat) :
    turns xs start (count + 1) =
      xs.get ⟨start % xs.length, place_lt nonempty start⟩ :: turns xs (start + 1) count := by
  rw [turns, List.getElem?_eq_getElem (place_lt nonempty start)]
  rfl

theorem length_turns (nonempty : xs ≠ []) (start count : Nat) : (turns xs start count).length = count := by
  induction count generalizing start with
  | zero => rfl
  | succ count ih => rw [turns_succ nonempty, List.length_cons, ih]

theorem getElem?_turns (nonempty : xs ≠ []) (start : Nat) {count k : Nat} (inside : k < count) :
    (turns xs start count)[k]? = xs[(start + k) % xs.length]? := by
  induction count generalizing start k with
  | zero => omega
  | succ count ih =>
      rw [turns_succ nonempty]
      cases k with
      | zero =>
          rw [List.getElem?_cons_zero, Nat.add_zero, List.getElem?_eq_getElem (place_lt nonempty start)]
          rfl
      | succ k =>
          rw [List.getElem?_cons_succ, ih (start + 1) (by omega), Nat.add_assoc, Nat.add_comm 1 k]

/-- A full round is the list itself, begun where the counter stands. -/
theorem turns_round (nonempty : xs ≠ []) (start : Nat) : turns xs start xs.length = xs.rotate start := by
  apply List.ext_getElem?
  intro k
  by_cases inside : k < xs.length
  · rw [getElem?_turns nonempty start inside, List.getElem?_rotate inside, Nat.add_comm]
  · have far := Nat.le_of_not_lt inside
    rw [List.getElem?_eq_none (by rw [length_turns nonempty]; exact far),
      List.getElem?_eq_none (by rw [List.length_rotate]; exact far)]

theorem turns_round_perm (nonempty : xs ≠ []) (start : Nat) : (turns xs start xs.length).Perm xs := by
  rw [turns_round nonempty]
  exact List.rotate_perm xs start

/-- What comes up in consecutive turns are turns of the same counter. -/
theorem eq_turns_of_infix (nonempty : xs ≠ []) {start count : Nat} {window : List α}
    (part : window <:+: turns xs start count) : ∃ start', window = turns xs start' window.length := by
  obtain ⟨before, after, whole⟩ := part
  have lengths := congrArg List.length whole
  rw [length_turns nonempty, List.length_append, List.length_append] at lengths
  rw [← lengths, turns_append, turns_append] at whole
  have front := List.append_inj_left whole (by simp [length_turns nonempty])
  have middle := List.append_inj_right front (by simp [length_turns nonempty])
  exact ⟨start + before.length, middle⟩

theorem window_perm (nonempty : xs ≠ []) {start count : Nat} {window : List α}
    (part : window <:+: turns xs start count) (round : window.length = xs.length) : window.Perm xs := by
  obtain ⟨start', here⟩ := eq_turns_of_infix nonempty part
  rw [here, round]
  exact turns_round_perm nonempty start'

variable [DecidableEq α]

theorem count_rounds (nonempty : xs ≠ []) (distinct : xs.Nodup) {a : α} (inside : a ∈ xs)
    (start rounds rest : Nat) :
    (turns xs start (xs.length * rounds + rest)).count a =
      rounds + (turns xs (start + xs.length * rounds) rest).count a := by
  induction rounds generalizing start with
  | zero => simp
  | succ rounds ih =>
      have split : xs.length * (rounds + 1) + rest = xs.length + (xs.length * rounds + rest) := by
        rw [Nat.mul_succ]
        omega
      have place : start + xs.length + xs.length * rounds = start + xs.length * (rounds + 1) := by
        rw [Nat.mul_succ]
        omega
      rw [split, turns_append, List.count_append, (turns_round_perm nonempty start).count_eq,
        List.count_eq_one_of_mem distinct inside, ih, place]
      omega

theorem count_part (nonempty : xs ≠ []) (distinct : xs.Nodup) (a : α) (start : Nat) {count : Nat}
    (part : count ≤ xs.length) : (turns xs start count).count a ≤ 1 := by
  obtain ⟨more, whole⟩ := Nat.exists_eq_add_of_le part
  have round := turns_round_perm nonempty start
  rw [whole, turns_append] at round
  have apart : (turns xs start count).Nodup := (List.nodup_append.mp (round.nodup_iff.mpr distinct)).1
  exact List.nodup_iff_count_le_one.mp apart a

/-- Every element comes up as often as any other, give or take one. -/
theorem count_turns (nonempty : xs ≠ []) (distinct : xs.Nodup) {a : α} (inside : a ∈ xs) (start count : Nat) :
    (turns xs start count).count a = count / xs.length ∨
      (turns xs start count).count a = (count + xs.length - 1) / xs.length := by
  have positive := List.length_pos_iff.mpr nonempty
  have small := Nat.mod_lt count positive
  have counted := count_rounds nonempty distinct inside start (count / xs.length) (count % xs.length)
  rw [Nat.div_add_mod] at counted
  have few := count_part nonempty distinct a (start + xs.length * (count / xs.length)) small.le
  rw [counted]
  by_cases more : (turns xs (start + xs.length * (count / xs.length)) (count % xs.length)).count a = 0
  · exact .inl (by omega)
  · right
    have some_ : count % xs.length ≠ 0 := by
      intro none
      rw [none, turns] at more
      exact more rfl
    have ceiling : (count + xs.length - 1) / xs.length = count / xs.length + 1 := by
      have whole := Nat.div_add_mod count xs.length
      apply Nat.div_eq_of_lt_le
      · rw [Nat.succ_mul, Nat.mul_comm]
        omega
      · rw [Nat.succ_mul, Nat.succ_mul, Nat.mul_comm]
        omega
    omega

end

end Rotation
