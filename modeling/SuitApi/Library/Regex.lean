import Mathlib.Data.List.TakeWhile

/-! # Regular expressions made of greedy runs

An expression is a sequence of repeated character classes.  The ways to match are listed
in the order in which a backtracking matcher tries them; the match is the first one.  A
run never has to give characters back where the rest matches every suffix of what it
matches.
-/

namespace Regex

/-- A character class repeated greedily, perhaps as a group, or `$`. -/
inductive Piece where
  | run (cls : Char → Bool) (least : Nat) (most : Option Nat) (grouped : Bool)
  | ending

/-- The length of the longest run at the front of a text. -/
def longest (cls : Char → Bool) (most : Option Nat) (text : List Char) : Nat :=
  most.elim (text.takeWhile cls).length (min (text.takeWhile cls).length)

/-- The lengths that a run may have, the longest first. -/
def lengths (least longest : Nat) : List Nat := (List.range' least (longest + 1 - least)).reverse

/-- The groups of each way to match at the front of a text. -/
def ways : List Piece → List Char → List (List (List Char))
  | [], _ => [[]]
  | .run cls least most grouped :: later, text =>
      (lengths least (longest cls most text)).flatMap fun n =>
        (ways later (text.drop n)).map fun groups => if grouped then text.take n :: groups else groups
  | .ending :: later, text => if text = [] ∨ text = ['\n'] then ways later text else []

/-- The groups of `re.match`, or `none` where it finds nothing. -/
def firstMatch (pattern : List Piece) (text : List Char) : Option (List (List Char)) := (ways pattern text).head?

def Matches (pattern : List Piece) (text : List Char) : Prop := ways pattern text ≠ []

variable {cls : Char → Bool} {least : Nat} {most : Option Nat} {grouped : Bool} {later : List Piece}
  {text : List Char}

theorem longest_le (cls : Char → Bool) (most : Option Nat) (text : List Char) :
    longest cls most text ≤ (text.takeWhile cls).length := by
  cases most with
  | none => exact le_rfl
  | some bound => exact Nat.min_le_left _ _

/-- Without its first characters a text has a run that is shorter by no more than these. -/
theorem longest_le_drop (cls : Char → Bool) (most : Option Nat) (text : List Char) (k : Nat) :
    longest cls most text ≤ k + longest cls most (text.drop k) := by
  have plain : (text.takeWhile cls).length ≤ k + ((text.drop k).takeWhile cls).length := by
    induction k generalizing text with
    | zero => simp
    | succ k ih =>
        cases text with
        | nil => simp
        | cons c rest =>
            have step := ih rest
            rw [List.drop_succ_cons]
            by_cases inside : cls c = true
            · rw [List.takeWhile_cons_of_pos inside, List.length_cons]
              omega
            · rw [List.takeWhile_cons_of_neg inside]
              exact Nat.zero_le _
  cases most with
  | none => exact plain
  | some bound =>
      simp only [longest, Option.elim_some]
      omega

theorem drop_longest (cls : Char → Bool) (text : List Char) :
    text.drop (longest cls none text) = text.dropWhile cls := by
  induction text with
  | nil => rfl
  | cons c rest ih =>
      by_cases inside : cls c = true
      · rw [List.dropWhile_cons_of_pos inside, ← ih]
        simp only [longest, Option.elim_none, List.takeWhile_cons_of_pos inside, List.length_cons,
          List.drop_succ_cons]
      · rw [List.dropWhile_cons_of_neg inside]
        simp only [longest, Option.elim_none, List.takeWhile_cons_of_neg inside, List.length_nil, List.drop_zero]

theorem take_longest (cls : Char → Bool) (text : List Char) :
    text.take (longest cls none text) = text.takeWhile cls :=
  List.prefix_iff_eq_take.mp (List.takeWhile_prefix cls) |>.symm

theorem mem_lengths {least longest n : Nat} : n ∈ lengths least longest ↔ least ≤ n ∧ n ≤ longest := by
  rw [lengths, List.mem_reverse, List.mem_range'_1]
  omega

theorem lengths_eq_cons {least longest : Nat} (enough : least ≤ longest) :
    ∃ others, lengths least longest = longest :: others := by
  obtain ⟨more, rfl⟩ := Nat.exists_eq_add_of_le enough
  refine ⟨(List.range' least more).reverse, ?_⟩
  rw [lengths, show least + more + 1 - least = more + 1 by omega, List.range'_1_concat, List.reverse_append]
  rfl

theorem matches_run_iff :
    Matches (.run cls least most grouped :: later) text ↔
      ∃ n, least ≤ n ∧ n ≤ longest cls most text ∧ Matches later (text.drop n) := by
  simp only [Matches, ways, ne_eq, List.flatMap_eq_nil_iff, List.map_eq_nil_iff, mem_lengths, not_forall, and_imp,
    exists_prop]

theorem firstMatch_run_short (short : longest cls most text < least) :
    firstMatch (.run cls least most grouped :: later) text = none := by
  have none : lengths least (longest cls most text) = [] := by
    rw [lengths, show longest cls most text + 1 - least = 0 by omega]
    rfl
  rw [firstMatch, ways, none]
  rfl

/-- If giving characters back helps nothing, the longest run is the one of the match. -/
theorem firstMatch_run (enough : least ≤ longest cls most text)
    (greedy : ∀ n, least ≤ n → n ≤ longest cls most text → Matches later (text.drop n) →
      Matches later (text.drop (longest cls most text))) :
    firstMatch (.run cls least most grouped :: later) text =
      (firstMatch later (text.drop (longest cls most text))).map fun groups =>
        if grouped then text.take (longest cls most text) :: groups else groups := by
  obtain ⟨others, split⟩ := lengths_eq_cons enough
  by_cases matched : Matches later (text.drop (longest cls most text))
  · obtain ⟨groups, more, found⟩ := List.exists_cons_of_ne_nil matched
    rw [firstMatch, firstMatch, ways, split, List.flatMap_cons, found]
    rfl
  · have nothing : ¬ Matches (.run cls least most grouped :: later) text := by
      intro found
      obtain ⟨n, more, less, rest⟩ := matches_run_iff.mp found
      exact matched (greedy n more less rest)
    rw [Matches, ne_eq, not_not] at matched nothing
    rw [firstMatch, firstMatch, matched, nothing]
    rfl

/-! ## Expressions that match every suffix of what they match -/

def Suffixed (pattern : List Piece) : Prop :=
  ∀ text shorter, shorter <:+ text → Matches pattern text → Matches pattern shorter

theorem suffixed_nil : Suffixed [] := fun _ _ _ _ => List.cons_ne_nil _ _

theorem matches_ending_iff :
    Matches (.ending :: later) text ↔ (text = [] ∨ text = ['\n']) ∧ Matches later text := by
  rw [Matches, ways]
  split
  · rename_i last
    exact (and_iff_right last).symm
  · rename_i last
    exact iff_of_false (fun some => some rfl) fun both => last both.1

theorem Suffixed.ending (suffixed : Suffixed later) : Suffixed (.ending :: later) := by
  intro text shorter suffix found
  obtain ⟨last, found⟩ := matches_ending_iff.mp found
  refine matches_ending_iff.mpr ⟨?_, suffixed text shorter suffix found⟩
  rcases last with rfl | rfl
  · exact .inl (List.suffix_nil.mp suffix)
  · rcases List.suffix_cons_iff.mp suffix with whole | less
    · exact .inr whole
    · exact .inl (List.suffix_nil.mp less)

/-- A run that may be empty keeps the property. -/
theorem Suffixed.run (suffixed : Suffixed later) : Suffixed (.run cls 0 most grouped :: later) := by
  intro text shorter suffix found
  obtain ⟨n, _, less, found⟩ := matches_run_iff.mp found
  obtain ⟨k, rfl⟩ : ∃ k, shorter = text.drop k := ⟨_, List.suffix_iff_eq_drop.mp suffix⟩
  apply matches_run_iff.mpr
  by_cases front : n ≤ k
  · -- the run was dropped as a whole
    obtain ⟨more, rfl⟩ := Nat.exists_eq_add_of_le front
    refine ⟨0, le_rfl, Nat.zero_le _, suffixed _ _ ?_ found⟩
    rw [List.drop_zero, ← List.drop_drop]
    exact List.drop_suffix _ _
  · obtain ⟨left, rfl⟩ := Nat.exists_eq_add_of_le (not_le.mp front).le
    refine ⟨left, Nat.zero_le _, ?_, ?_⟩
    · have bound := less.trans (longest_le_drop cls most text k)
      omega
    · rw [List.drop_drop]
      exact found

/-- Before such an expression a run keeps all it can take. -/
theorem Suffixed.firstMatch_run (suffixed : Suffixed later) (enough : least ≤ longest cls most text) :
    firstMatch (.run cls least most grouped :: later) text =
      (firstMatch later (text.drop (longest cls most text))).map fun groups =>
        if grouped then text.take (longest cls most text) :: groups else groups :=
  Regex.firstMatch_run enough fun _ _ less found =>
    suffixed _ _ (List.drop_suffix_drop_left text less) found

/-- So does a run before characters of another class. -/
theorem firstMatch_run_apart {cls' : Char → Bool} {least' : Nat} {most' : Option Nat} {grouped' : Bool}
    (apart : ∀ c, cls c = true → cls' c = false) (needed : 0 < least') :
    firstMatch (.run cls 0 none grouped :: .run cls' least' most' grouped' :: later) text =
      (firstMatch (.run cls' least' most' grouped' :: later) (text.dropWhile cls)).map fun groups =>
        if grouped then text.takeWhile cls :: groups else groups := by
  rw [Regex.firstMatch_run (Nat.zero_le _), drop_longest, take_longest]
  intro n _ less found
  rcases less.lt_or_eq with before | rfl
  · -- the next character is still one of the run
    have front : n < (text.takeWhile cls).length := before
    have inside := front.trans_le (List.takeWhile_prefix cls).length_le
    have here : cls text[n] = true := by
      rw [← (List.takeWhile_prefix cls).getElem front]
      exact List.mem_takeWhile_imp (List.getElem_mem front)
    obtain ⟨m, more, few, _⟩ := matches_run_iff.mp found
    have bound := few.trans (longest_le cls' most' _)
    have other : ¬ cls' text[n] = true := by
      rw [apart _ here]
      decide
    rw [List.drop_eq_getElem_cons inside, List.takeWhile_cons_of_neg other, List.length_nil] at bound
    omega
  · exact found

end Regex
