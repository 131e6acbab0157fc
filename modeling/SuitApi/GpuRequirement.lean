import SuitApi.Library.Json
import SuitApi.Library.Regex
import SuitApi.ModelService

/-! # Reading a GPU requirement

The expression of `_parse_gpu_requirement` with all the ways in which it can match.  No
way but the first one is ever taken, so it reads back what was written.
-/

namespace SuitApi

namespace GpuRequirement

open Regex ModelService

/-- `\d`. -/
def isDecimal (c : Char) : Bool := (digitOf c).isSome

/-- What `(.*)` takes the rest of a line with. -/
def modelPieces : List Piece := [.run (· ≠ '\n') 0 none true, .run isPySpace 0 none false, .ending]

/-- `\s*(\d+)\s*x?\s*(.*)\s*$`. -/
def requirementPattern : List Piece :=
  .run isPySpace 0 none false :: .run isDecimal 1 none true :: .run isPySpace 0 none false ::
    .run (· = 'x') 0 (some 1) false :: .run isPySpace 0 none false :: modelPieces

/-- `int(digits)`, or `none` where it raises ValueError. -/
def intOfDigits (digits : List Char) : Option Nat :=
  if digits.length ≤ Json.maxStrDigits then some (digitsNumber digits) else none

/-- `_parse_gpu_requirement`, or `none` where it raises. -/
def parseGpuRequirement (gpuRequirement : Option String) : Option (Nat × Option String) :=
  match truthyText gpuRequirement with
  | none => some (1, none)
  | some text =>
      match firstMatch requirementPattern text.toList with
      | some [digits, line] =>
          (intOfDigits digits).map fun count => (max count 1, truthyText (some (String.ofList (strip line))))
      | _ => some (1, some text)

/-! ## The match -/

section

variable {p : Char → Bool} {l l' : List Char}

theorem takeWhile_append_stop (all : ∀ c ∈ l, p c = true) (stop : ∀ c ∈ l'.head?, p c = false) :
    (l ++ l').takeWhile p = l := by
  rw [List.takeWhile_append_of_pos all]
  cases l' with
  | nil => simp
  | cons c rest => rw [List.takeWhile_cons_of_neg (by rw [stop c rfl]; decide), List.append_nil]

theorem dropWhile_append_stop (all : ∀ c ∈ l, p c = true) (stop : ∀ c ∈ l'.head?, p c = false) :
    (l ++ l').dropWhile p = l' := by
  rw [List.dropWhile_append_of_pos all]
  cases l' with
  | nil => rfl
  | cons c rest => rw [List.dropWhile_cons_of_neg (by rw [stop c rfl]; decide)]

end

theorem space_ne_decimal {c : Char} (space : isPySpace c = true) : isDecimal c = false := by
  have listed : c.toNat ∈ [0x09, 0x0a, 0x0b, 0x0c, 0x0d, 0x1c, 0x1d, 0x1e, 0x1f, 0x20, 0x85, 0xa0, 0x1680, 0x2000,
      0x2001, 0x2002, 0x2003, 0x2004, 0x2005, 0x2006, 0x2007, 0x2008, 0x2009, 0x200a, 0x2028, 0x2029, 0x202f,
      0x205f, 0x3000] := by
    simp only [isPySpace, Bool.or_eq_true, Bool.and_eq_true, decide_eq_true_eq, List.mem_cons, List.not_mem_nil,
      or_false] at space ⊢
    omega
  have none : ∀ n ∈ [0x09, 0x0a, 0x0b, 0x0c, 0x0d, 0x1c, 0x1d, 0x1e, 0x1f, 0x20, 0x85, 0xa0, 0x1680, 0x2000,
      0x2001, 0x2002, 0x2003, 0x2004, 0x2005, 0x2006, 0x2007, 0x2008, 0x2009, 0x200a, 0x2028, 0x2029, 0x202f,
      0x205f, 0x3000], (digitZeros.find? fun base => base ≤ n && n < base + 10) = none := by decide
  rw [isDecimal, digitOf, none c.toNat listed]
  rfl

theorem suffixed_model : Suffixed modelPieces := suffixed_nil.ending.run.run

theorem suffixed_behind_digits : Suffixed (.run isPySpace 0 none false :: .run (· = 'x') 0 (some 1) false ::
    .run isPySpace 0 none false :: modelPieces) := suffixed_model.run.run.run

theorem drop_x (text : List Char) :
    text.drop (longest (· = 'x') (some 1) text) = if text.head? = some 'x' then text.tail else text := by
  cases text with
  | nil => rfl
  | cons c rest =>
      by_cases x : c = 'x'
      · subst x
        simp only [longest, Option.elim_some, decide_true, List.takeWhile_cons_of_pos, List.length_cons,
          Nat.le_add_left, Nat.min_eq_right, List.head?_cons, if_true, List.drop_one]
      · have none : (c :: rest).takeWhile (fun c => decide (c = 'x')) = [] :=
          List.takeWhile_cons_of_neg (by rwa [decide_eq_true_eq])
        have first : ¬ (c :: rest).head? = some 'x' := fun same => x (Option.some.inj same)
        rw [if_neg first, longest, none]
        rfl

/-- Behind a model only white space may follow. -/
theorem firstMatch_model (text : List Char) :
    firstMatch modelPieces text =
      if (text.dropWhile (· ≠ '\n')).all isPySpace then some [text.takeWhile (· ≠ '\n')] else none := by
  have tail : ∀ rest : List Char, firstMatch [.run isPySpace 0 none false, .ending] rest =
      if rest.all isPySpace then some [] else none := by
    intro rest
    rw [suffixed_nil.ending.firstMatch_run (Nat.zero_le _), drop_longest]
    by_cases all : rest.all isPySpace = true
    · rw [if_pos all, List.dropWhile_eq_nil_iff.mpr (List.all_eq_true.mp all)]
      rfl
    · rw [if_neg all, firstMatch, ways, if_neg]
      · rfl
      · rintro (empty | newline)
        · exact all (List.all_eq_true.mpr (List.dropWhile_eq_nil_iff.mp empty))
        · have kept := List.head?_dropWhile_not isPySpace rest
          rw [newline] at kept
          have space : isPySpace '\n' = false := kept
          exact absurd space (by decide)
  rw [modelPieces, suffixed_nil.ending.run.firstMatch_run (Nat.zero_le _), drop_longest, take_longest, tail]
  by_cases all : (text.dropWhile (· ≠ '\n')).all isPySpace = true
  · rw [if_pos all, if_pos all]
    rfl
  · rw [if_neg all, if_neg all]
    rfl

/-- What stands behind the digits, a `x` and the white space around it. -/
def behindX (text : List Char) : List Char :=
  (if (text.dropWhile isPySpace).head? = some 'x' then (text.dropWhile isPySpace).tail
    else text.dropWhile isPySpace).dropWhile isPySpace

theorem matchRequirement_eq (text : List Char) :
    matchRequirement text =
      if (text.dropWhile isPySpace).takeWhile isDecimal = [] then none
      else if ((behindX ((text.dropWhile isPySpace).dropWhile isDecimal)).dropWhile (· ≠ '\n')).all isPySpace then
        some ((text.dropWhile isPySpace).takeWhile isDecimal,
          (behindX ((text.dropWhile isPySpace).dropWhile isDecimal)).takeWhile (· ≠ '\n'))
      else none := by
  rw [← drop_longest isDecimal, ← drop_longest (· ≠ '\n')]
  unfold matchRequirement
  simp only [List.isEmpty_iff]
  rfl

/-- The match is found without giving anything back. -/
theorem firstMatch_eq (text : List Char) :
    firstMatch requirementPattern text = (matchRequirement text).map fun groups => [groups.1, groups.2] := by
  rw [requirementPattern, firstMatch_run_apart (fun _ => space_ne_decimal) Nat.one_pos, matchRequirement_eq]
  by_cases digits : (text.dropWhile isPySpace).takeWhile isDecimal = []
  · have short : longest isDecimal none (text.dropWhile isPySpace) < 1 := by
      rw [longest, Option.elim_none, digits]
      exact Nat.one_pos
    rw [firstMatch_run_short short, if_pos digits]
    rfl
  · have enough : 1 ≤ longest isDecimal none (text.dropWhile isPySpace) := List.length_pos_iff.mpr digits
    rw [suffixed_behind_digits.firstMatch_run enough, drop_longest, take_longest,
      suffixed_model.run.run.firstMatch_run (Nat.zero_le _), drop_longest,
      suffixed_model.run.firstMatch_run (Nat.zero_le _), drop_x,
      suffixed_model.firstMatch_run (Nat.zero_le _), drop_longest, firstMatch_model, if_neg digits, ← behindX]
    generalize behindX ((text.dropWhile isPySpace).dropWhile isDecimal) = model
    by_cases line : (model.dropWhile (· ≠ '\n')).all isPySpace = true
    · rw [if_pos line, if_pos line]
      rfl
    · rw [if_neg line, if_neg line]
      rfl

/-- On the texts that the column holds, no number is too long. -/
theorem parseGpuRequirement_eq {gpuRequirement : Option String}
    (short : ∀ text, gpuRequirement = some text → text.length ≤ Json.maxStrDigits) :
    parseGpuRequirement gpuRequirement = some (ModelService.parseGpuRequirement gpuRequirement) := by
  unfold parseGpuRequirement ModelService.parseGpuRequirement
  cases shown : truthyText gpuRequirement with
  | none => rfl
  | some text =>
      simp only [firstMatch_eq]
      cases found : matchRequirement text.toList with
      | none => rfl
      | some groups =>
          have fits : groups.1.length ≤ Json.maxStrDigits := by
            have stored := (Option.filter_eq_some_iff.mp shown).1
            have taken : groups.1 = (text.toList.dropWhile isPySpace).takeWhile isDecimal := by
              rw [matchRequirement_eq] at found
              split_ifs at found
              cases found
              rfl
            have part := (List.takeWhile_prefix isDecimal).length_le.trans
              (List.dropWhile_suffix (l := text.toList) isPySpace).length_le
            rw [← taken, String.length_toList] at part
            exact part.trans (short text stored)
          simp only [Option.map_some, intOfDigits, if_pos fits]

/-! ## Reading what was written -/

/-- White space only. -/
def Blank (text : String) : Prop := ∀ c ∈ text.toList, isPySpace c = true

instance (text : String) : Decidable (Blank text) :=
  decidable_of_iff (text.toList.all isPySpace = true) List.all_eq_true

/-- The name of a model that can be written: not empty, on one line, without white space
    on either side. -/
structure Name (m : String) : Prop where
  nonempty : m ≠ ""
  oneLine : '\n' ∉ m.toList
  first : ∀ c ∈ m.toList.head?, isPySpace c = false
  last : ∀ c ∈ m.toList.getLast?, isPySpace c = false

theorem Name.letters {m : String} (name : Name m) : m.toList ≠ [] :=
  fun empty => name.nonempty (String.toList_eq_nil_iff.mp empty)

theorem strip_append {m w : List Char} (nonempty : m ≠ []) (first : ∀ c ∈ m.head?, isPySpace c = false)
    (last : ∀ c ∈ m.getLast?, isPySpace c = false) (blank : ∀ c ∈ w, isPySpace c = true) : strip (m ++ w) = m := by
  have start : (m ++ w).dropWhile isPySpace = m ++ w := by
    obtain ⟨c, rest, rfl⟩ := List.exists_cons_of_ne_nil nonempty
    rw [List.cons_append, List.dropWhile_cons_of_neg (by rw [first c rfl]; decide)]
  have back : (w.reverse ++ m.reverse).dropWhile isPySpace = m.reverse := by
    apply dropWhile_append_stop
    · exact fun c inside => blank c (List.mem_reverse.mp inside)
    · rwa [List.head?_reverse]
  rw [strip, stripBy, start, List.reverse_append, back, List.reverse_reverse]

theorem digitOf_of_isDigit {c : Char} (digit : c.isDigit = true) : digitOf c = some (c.toNat - '0'.toNat) := by
  have bounds : 48 ≤ c.toNat ∧ c.toNat ≤ 57 := by
    rw [Char.isDigit, Bool.and_eq_true, decide_eq_true_eq, decide_eq_true_eq] at digit
    exact ⟨UInt32.le_iff_toNat_le.mp digit.1, UInt32.le_iff_toNat_le.mp digit.2⟩
  have here : (decide (0x30 ≤ c.toNat) && decide (c.toNat < 0x30 + 10)) = true := by
    rw [Bool.and_eq_true, decide_eq_true_eq, decide_eq_true_eq]
    omega
  have found : (digitZeros.find? fun base => base ≤ c.toNat && c.toNat < base + 10) = some 0x30 :=
    List.find?_cons_of_pos here
  rw [digitOf, found]
  rfl

theorem isDecimal_of_isDigit {c : Char} (digit : c.isDigit = true) : isDecimal c = true := by
  rw [isDecimal, digitOf_of_isDigit digit]
  rfl

theorem not_space_of_isDigit {c : Char} (digit : c.isDigit = true) : isPySpace c = false := by
  by_contra space
  have none := space_ne_decimal (Bool.not_eq_false _ ▸ space)
  rw [isDecimal_of_isDigit digit] at none
  cases none

theorem isDigit_of_mem {n : Nat} {c : Char} (inside : c ∈ Nat.toDigits 10 n) : c.isDigit = true :=
  Nat.isDigit_of_mem_toDigits (by omega) (by omega) inside

theorem digitsNumber_toDigits (n : Nat) : digitsNumber (Nat.toDigits 10 n) = n := by
  have read : ∀ (digits : List Char) (acc : Nat), (∀ c ∈ digits, c.isDigit = true) →
      digits.foldl (fun acc c => acc * 10 + (digitOf c).getD 0) acc = Nat.ofDigitChars 10 digits acc := by
    intro digits
    induction digits with
    | nil => intros; rw [Nat.ofDigitChars_nil]; rfl
    | cons c rest ih =>
        intro acc all
        rw [List.foldl_cons, Nat.ofDigitChars_cons, digitOf_of_isDigit (all c List.mem_cons_self),
          Option.getD_some, Nat.mul_comm acc, ih _ fun d inside => all d (List.mem_cons_of_mem _ inside)]
  rw [digitsNumber, read _ _ fun _ => isDigit_of_mem, Nat.ofDigitChars_ten_toDigits]

section

variable {m w w' rest : List Char}

/-- White space and an `x` end the digits. -/
theorem stops_digits (blank : ∀ c ∈ w, isPySpace c = true) :
    ∀ c ∈ (w ++ 'x' :: rest).head?, isDecimal c = false := by
  cases w with
  | nil =>
      rintro _ ⟨⟩
      decide
  | cons c more =>
      rintro _ ⟨⟩
      exact space_ne_decimal (blank c List.mem_cons_self)

/-- The `x` that is taken is the one in front of the model, even where the model has one. -/
theorem behindX_written (blank : ∀ c ∈ w, isPySpace c = true) (blank' : ∀ c ∈ w', isPySpace c = true)
    (nonempty : m ≠ []) (first : ∀ c ∈ m.head?, isPySpace c = false) :
    behindX (w ++ 'x' :: (w' ++ (m ++ rest))) = m ++ rest := by
  have front : (w ++ 'x' :: (w' ++ (m ++ rest))).dropWhile isPySpace = 'x' :: (w' ++ (m ++ rest)) := by
    apply dropWhile_append_stop blank
    rintro _ ⟨⟩
    decide
  rw [behindX, front, List.head?_cons, if_pos rfl, List.tail_cons]
  apply dropWhile_append_stop blank'
  obtain ⟨c, more, rfl⟩ := List.exists_cons_of_ne_nil nonempty
  exact first

theorem dropWhile_digits (blank : ∀ c ∈ w, isPySpace c = true) (n : Nat) :
    (w ++ (Nat.toDigits 10 n ++ rest)).dropWhile isPySpace = Nat.toDigits 10 n ++ rest := by
  apply dropWhile_append_stop blank
  obtain ⟨c, more, split⟩ := List.exists_cons_of_ne_nil (Nat.toDigits_ne_nil (n := n) (b := 10))
  rw [split]
  rintro _ ⟨⟩
  exact not_space_of_isDigit (isDigit_of_mem (split ▸ List.mem_cons_self))

end

/-- The match on a written requirement. -/
theorem matchRequirement_written (n : Nat) {m w₁ w₂ w₃ w₄ : String} (name : Name m) (b₁ : Blank w₁) (b₂ : Blank w₂)
    (b₃ : Blank w₃) (b₄ : Blank w₄) :
    matchRequirement (w₁ ++ toString n ++ w₂ ++ "x" ++ w₃ ++ m ++ w₄).toList =
      some (Nat.toDigits 10 n, m.toList ++ w₄.toList.takeWhile (· ≠ '\n')) := by
  have number : (toString n).toList = Nat.toDigits 10 n := Nat.toList_repr
  have x : "x".toList = ['x'] := rfl
  have decimals : ∀ c ∈ Nat.toDigits 10 n, isDecimal c = true := fun _ inside =>
    isDecimal_of_isDigit (isDigit_of_mem inside)
  have line : ∀ c ∈ m.toList, decide (c ≠ '\n') = true := by
    intro c inside
    exact decide_eq_true fun newline => name.oneLine (newline ▸ inside)
  have last : (w₄.toList.dropWhile (· ≠ '\n')).all isPySpace = true :=
    List.all_eq_true.mpr fun c inside => b₄ c ((List.dropWhile_suffix _).subset inside)
  simp only [String.toList_append, number, x, List.append_assoc, List.cons_append, List.nil_append]
  rw [matchRequirement_eq, dropWhile_digits b₁, takeWhile_append_stop decimals (stops_digits b₂),
    dropWhile_append_stop decimals (stops_digits b₂), behindX_written b₂ b₃ name.letters name.first,
    List.takeWhile_append_of_pos line, List.dropWhile_append_of_pos line, if_neg Nat.toDigits_ne_nil, if_pos last]

theorem parseGpuRequirement_written (n : Nat) (positive : 1 ≤ n) {m w₁ w₂ w₃ w₄ : String} (name : Name m)
    (b₁ : Blank w₁) (b₂ : Blank w₂) (b₃ : Blank w₃) (b₄ : Blank w₄) :
    parseGpuRequirement (some (w₁ ++ toString n ++ w₂ ++ "x" ++ w₃ ++ m ++ w₄)) =
      if n < 10 ^ Json.maxStrDigits then some (n, some m) else none := by
  have filled : w₁ ++ toString n ++ w₂ ++ "x" ++ w₃ ++ m ++ w₄ ≠ "" := by
    intro empty
    have letters := congrArg String.toList empty
    simp only [String.toList_append, String.toList_empty, List.append_eq_nil_iff] at letters
    exact name.letters letters.1.2
  have hint : strip (m.toList ++ w₄.toList.takeWhile (· ≠ '\n')) = m.toList :=
    strip_append name.letters name.first name.last fun c inside =>
      b₄ c ((List.takeWhile_prefix _).subset inside)
  have digits : (Nat.toDigits 10 n).length ≤ Json.maxStrDigits ↔ n < 10 ^ Json.maxStrDigits :=
    Nat.length_toDigits_le_iff (by omega) (by decide)
  rw [parseGpuRequirement, truthyText, Option.filter_some, if_pos (decide_eq_true filled)]
  simp only [firstMatch_eq, matchRequirement_written n name b₁ b₂ b₃ b₄, Option.map_some, intOfDigits, digits,
    hint, digitsNumber_toDigits, String.ofList_toList]
  split
  · rw [Option.map_some, max_eq_left positive, truthyText, Option.filter_some,
      if_pos (decide_eq_true name.nonempty)]
  · rfl

/-- Every count is at least one and every hint names something. -/
theorem parseGpuRequirement_bounds {gpuRequirement : Option String} {count : Nat} {hint : Option String}
    (done : parseGpuRequirement gpuRequirement = some (count, hint)) : 1 ≤ count ∧ hint ≠ some "" := by
  have filled : ∀ text, truthyText text ≠ some "" := by
    intro text named
    exact of_decide_eq_true (Option.filter_eq_some_iff.mp named).2 rfl
  unfold parseGpuRequirement at done
  split at done
  · cases done
    exact ⟨le_rfl, fun named => nomatch named⟩
  · rename_i text shown
    split at done
    · obtain ⟨number, _, both⟩ := Option.map_eq_some_iff.mp done
      cases both
      exact ⟨le_max_right _ _, filled _⟩
    · cases done
      exact ⟨le_rfl, fun named => filled _ (shown.trans named)⟩

/-- A requirement that was written is read back as the number and the model, as long as
    the number has at most 4300 digits, beyond which `int` raises; and whatever is read,
    the count is positive and the hint is missing or not empty. -/
theorem parse_undoes_write (n : Nat) (positive : 1 ≤ n) {m w₁ w₂ w₃ w₄ : String} (name : Name m)
    (b₁ : Blank w₁) (b₂ : Blank w₂) (b₃ : Blank w₃) (b₄ : Blank w₄) :
    parseGpuRequirement (some (w₁ ++ toString n ++ w₂ ++ "x" ++ w₃ ++ m ++ w₄)) =
        (if n < 10 ^ Json.maxStrDigits then some (n, some m) else none) ∧
      ∀ gpuRequirement count hint, parseGpuRequirement gpuRequirement = some (count, hint) →
        1 ≤ count ∧ hint ≠ some "" :=
  ⟨parseGpuRequirement_written n positive name b₁ b₂ b₃ b₄, fun _ _ _ done => parseGpuRequirement_bounds done⟩

theorem name_x4 : Name "x4 A100" where
  nonempty := by decide
  oneLine := by decide
  first := by
    rintro _ ⟨⟩
    decide
  last := by
    rintro _ ⟨⟩
    decide

/-- A model that begins with an x and a digit, on a line of its own. -/
theorem two_x4 : parseGpuRequirement (some (" " ++ toString 2 ++ "" ++ "x" ++ "\n" ++ "x4 A100" ++ "\n")) =
    some (2, some "x4 A100") := by
  have read := (parse_undoes_write 2 (by decide) name_x4 (show Blank " " by decide) (show Blank "" by decide)
    (show Blank "\n" by decide) (show Blank "\n" by decide)).1
  rw [if_pos] at read
  · exact read
  · exact lt_of_lt_of_le (by decide) (Nat.pow_le_pow_right (by decide) (by decide : 1 ≤ Json.maxStrDigits))

/-- The first number that is too long. -/
theorem long_number_raises : ¬ ∀ (n : Nat) (m w₁ w₂ w₃ w₄ : String), 1 ≤ n → Name m →
    Blank w₁ → Blank w₂ → Blank w₃ → Blank w₄ →
    parseGpuRequirement (some (w₁ ++ toString n ++ w₂ ++ "x" ++ w₃ ++ m ++ w₄)) = some (n, some m) := by
  intro always
  have blank : Blank "" := by decide
  have positive : 1 ≤ 10 ^ Json.maxStrDigits := Nat.one_le_pow _ _ (by decide)
  have read := always (10 ^ Json.maxStrDigits) "x4 A100" "" "" "" "" positive name_x4 blank blank blank blank
  rw [parseGpuRequirement_written _ positive name_x4 blank blank blank blank, if_neg (lt_irrefl _)] at read
  cases read

end GpuRequirement

end SuitApi
