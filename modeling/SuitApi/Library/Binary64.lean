import SuitApi.Library.Decimal
import SuitApi.Library.Json

/-! # Which numbers binary64 cannot hold

A number is read as an infinity exactly from `2^1024 - 2^970` on: there `2^1024` is the
nearer grid point, or the tie goes to it as the even one.
-/

namespace Binary64

open Decimal

theorem nearest_eq (q unit : ℚ) : nearest q unit = roundHalfEven (q / unit) * unit := by
  unfold nearest roundHalfEven
  simp only
  by_cases low : q / unit - ⌊q / unit⌋ < 1 / 2
  · rw [if_pos (Or.inl low), if_pos low]
  · rw [if_neg low]
    by_cases high : 1 / 2 < q / unit - ⌊q / unit⌋
    · have apart : q / unit - ⌊q / unit⌋ ≠ 1 / 2 := ne_of_gt high
      rw [if_neg (not_or.mpr ⟨low, fun tie => apart tie.1⟩), if_pos high]
      push_cast
      rfl
    · have tie : q / unit - ⌊q / unit⌋ = 1 / 2 := le_antisymm (not_lt.mp high) (not_lt.mp low)
      rw [if_neg high]
      by_cases even : ⌊q / unit⌋ % 2 = 0
      · rw [if_pos (Or.inr ⟨tie, even⟩), if_pos even]
      · rw [if_neg (not_or.mpr ⟨low, fun both => even both.2⟩), if_neg even]
        push_cast
        rfl

/-- Rounding does not cross a whole number. -/
theorem le_roundHalfEven {x : ℚ} {n : ℤ} (le : (n : ℚ) ≤ x) : n ≤ roundHalfEven x := by
  have floor := Int.le_floor.mpr le
  unfold roundHalfEven
  split_ifs <;> omega

/-- The last half below an even number is rounded up to it. -/
theorem le_roundHalfEven_of_half {x : ℚ} {n : ℤ} (even : n % 2 = 0) (le : (n : ℚ) - 1 / 2 ≤ x) :
    n ≤ roundHalfEven x := by
  by_cases full : (n : ℚ) ≤ x
  · exact le_roundHalfEven full
  · have floor : ⌊x⌋ = n - 1 := by
      rw [Int.floor_eq_iff]
      push_cast
      constructor <;> linarith
    unfold roundHalfEven
    rw [floor, if_neg (by push_cast; linarith)]
    split_ifs <;> omega

theorem roundHalfEven_le_of_half {x : ℚ} {n : ℤ} (even : n % 2 = 0) (le : x ≤ (n : ℚ) + 1 / 2) :
    roundHalfEven x ≤ n := by
  by_cases full : x ≤ n
  · exact roundHalfEven_le full
  · by_cases tie : x = n + 1 / 2
    · have floor : ⌊x⌋ = n := by
        rw [Int.floor_eq_iff]
        constructor <;> linarith
      unfold roundHalfEven
      rw [floor, tie, if_neg (by ring_nf; norm_num), if_neg (by ring_nf; norm_num), if_pos even]
    · have floor : ⌊x⌋ = n := by
        rw [Int.floor_eq_iff]
        constructor <;> linarith
      have low : x - n < 1 / 2 := by
        have less := lt_of_le_of_ne le tie
        linarith
      unfold roundHalfEven
      rw [floor, if_pos low]

/-- The distance of two neighbours on the grid around `q`. -/
def unitOf (q : ℚ) : ℚ := 2 ^ (max (Int.log 2 |q|) (-1022) - 52)

theorem unitOf_pos (q : ℚ) : 0 < unitOf q := zpow_pos (by norm_num) _

theorem ofRat_eq (q : ℚ) :
    ofRat q = if 2 ^ (1024 : ℤ) ≤ |nearest q (unitOf q)| then .infinite (nearest q (unitOf q) < 0)
      else .finite (nearest q (unitOf q)) := rfl

/-- The distance of the largest neighbours of the format. -/
def topUnit : ℚ := 2 ^ (971 : ℤ)

theorem topUnit_pos : 0 < topUnit := zpow_pos (by norm_num) _

theorem two_pow_top : (2 : ℚ) ^ (1024 : ℤ) = 2 ^ 53 * topUnit := by
  rw [topUnit, ← zpow_natCast, ← zpow_add₀ (by norm_num)]
  norm_num

/-- The first number that is read as an infinity. -/
def limit : ℚ := 2 ^ (1024 : ℤ) - 2 ^ (970 : ℤ)

theorem limit_eq : limit = 2 ^ 53 * topUnit - topUnit / 2 := by
  have half : (2 : ℚ) ^ (970 : ℤ) = topUnit / 2 := by
    rw [topUnit, show (971 : ℤ) = 970 + 1 by norm_num, zpow_add_one₀ (by norm_num)]
    ring
  rw [limit, two_pow_top, half]

/-- Below the bound the grid point is one of the format. -/
theorem nearest_lt {q : ℚ} (less : |q| < limit) : |nearest q (unitOf q)| < 2 ^ (1024 : ℤ) := by
  have positive := unitOf_pos q
  have near : |nearest q (unitOf q) - q| ≤ unitOf q / 2 := by
    have scaled := roundHalfEven_near (q / unitOf q)
    have same : nearest q (unitOf q) - q = (roundHalfEven (q / unitOf q) - q / unitOf q) * unitOf q := by
      rw [nearest_eq, sub_mul, div_mul_cancel₀ _ positive.ne']
    rw [same, abs_mul, abs_of_pos positive]
    have bound := mul_le_mul_of_nonneg_right scaled positive.le
    linarith
  have top := topUnit_pos
  rw [limit_eq] at less
  have small : unitOf q ≤ topUnit := by
    apply zpow_le_zpow_right₀ (by norm_num)
    have log : Int.log 2 |q| < 1024 := by
      by_cases zero : q = 0
      · rw [zero, abs_zero, Int.log_zero_right]
        norm_num
      · apply (Int.lt_zpow_iff_log_lt (by norm_num) (abs_pos.mpr zero)).mp
        rw [Nat.cast_ofNat, two_pow_top]
        linarith
    omega
  have sum := abs_add_le (nearest q (unitOf q) - q) q
  rw [sub_add_cancel] at sum
  rw [two_pow_top]
  linarith

/-- An even grid point is reached from half a unit below it. -/
theorem le_abs_nearest {q unit : ℚ} (positive : 0 < unit) {n : ℤ} (even : n % 2 = 0)
    (le : (n : ℚ) * unit - unit / 2 ≤ |q|) : (n : ℚ) * unit ≤ |nearest q unit| := by
  have scaled : ((n : ℚ) - 1 / 2) * unit ≤ |q| := by linarith
  rw [nearest_eq, abs_mul, abs_of_pos positive]
  apply mul_le_mul_of_nonneg_right _ positive.le
  rw [← Int.cast_abs, Int.cast_le]
  rcases abs_cases q with ⟨size, _⟩ | ⟨size, _⟩
  · rw [size, ← le_div_iff₀ positive] at scaled
    exact (le_roundHalfEven_of_half even scaled).trans (le_abs_self _)
  · have flipped : q / unit ≤ ((-n : ℤ) : ℚ) + 1 / 2 := by
      rw [div_le_iff₀ positive]
      push_cast
      linarith
    have down := roundHalfEven_le_of_half (by omega) flipped
    exact (Int.le_neg_of_le_neg down).trans (neg_le_abs _)

/-- From the bound on it is not. -/
theorem le_nearest {q : ℚ} (le : limit ≤ |q|) : 2 ^ (1024 : ℤ) ≤ |nearest q (unitOf q)| := by
  have top := topUnit_pos
  have size : 0 < |q| := by
    rw [limit_eq] at le
    linarith
  by_cases large : (1024 : ℤ) ≤ Int.log 2 |q|
  · -- a coarser grid, with the power of two below `q` on it
    have power : (2 : ℚ) ^ Int.log 2 |q| = 2 ^ 52 * unitOf q := by
      have exponent : Int.log 2 |q| = (52 : ℕ) + (Int.log 2 |q| - 52) := by omega
      rw [unitOf, max_eq_left (by omega), ← zpow_natCast, ← zpow_add₀ (by norm_num), ← exponent]
    have below := Int.zpow_log_le_self (b := 2) (by norm_num) size
    rw [Nat.cast_ofNat, power] at below
    have positive := unitOf_pos q
    have reached := le_abs_nearest positive (n := 2 ^ 52) (q := q) (by norm_num) (by push_cast; linarith)
    rw [Int.cast_pow, Int.cast_ofNat, ← power] at reached
    exact (zpow_le_zpow_right₀ (by norm_num) large).trans reached
  · have log : Int.log 2 |q| = 1023 := by
      have least : 2 ^ 52 * topUnit ≤ |q| := by
        rw [limit_eq] at le
        linarith
      have power : (2 : ℚ) ^ (1023 : ℤ) = 2 ^ 52 * topUnit := by
        rw [topUnit, ← zpow_natCast, ← zpow_add₀ (by norm_num)]
        norm_num
      rw [← power] at least
      have bound : (1023 : ℤ) ≤ Int.log 2 |q| := (Int.zpow_le_iff_le_log (by norm_num) size).mp least
      omega
    have unit : unitOf q = topUnit := by
      rw [unitOf, log]
      rfl
    rw [limit_eq] at le
    have reached := le_abs_nearest top (q := q) (n := 2 ^ 53) (by norm_num) (by push_cast; exact le)
    rw [unit, two_pow_top]
    exact_mod_cast reached

theorem ofRat_infinite_iff {q : ℚ} : (∃ negative, ofRat q = .infinite negative) ↔ limit ≤ |q| := by
  rw [ofRat_eq]
  constructor
  · rintro ⟨negative, overflow⟩
    by_contra less
    rw [if_neg (not_le.mpr (nearest_lt (not_le.mp less)))] at overflow
    cases overflow
  · intro le
    exact ⟨_, if_pos (le_nearest le)⟩

end Binary64
