import Mathlib.Data.Int.Log
import Mathlib.Data.Rat.Floor
import Mathlib.Tactic.Linarith
import Mathlib.Tactic.Positivity
import Mathlib.Tactic.FieldSimp
import Mathlib.Tactic.Ring
import Mathlib.Tactic.NormNum
import Mathlib.Tactic.GCongr

/-! # Decimal arithmetic with 28 significant digits

The values are rationals; an arithmetic operation of the default context rounds
its exact result to 28 significant digits, ties to even.  `quantize` rounds to a
fixed number of places, ties away from zero, and fails when the result needs more
digits than the context has.
-/

namespace Decimal

/-- The nearest integer, ties to even. -/
def roundHalfEven (q : ℚ) : ℤ :=
  if q - ⌊q⌋ < 1 / 2 then ⌊q⌋
  else if 1 / 2 < q - ⌊q⌋ then ⌊q⌋ + 1
  else if ⌊q⌋ % 2 = 0 then ⌊q⌋
  else ⌊q⌋ + 1

/-- The nearest integer, ties away from zero. -/
def roundHalfUp (q : ℚ) : ℤ := if 0 ≤ q then ⌊q + 1 / 2⌋ else -⌊-q + 1 / 2⌋

/-- The place of the last digit that the context keeps. -/
def lastPlace (q : ℚ) : ℤ := Int.log 10 |q| - 27

/-- The exact result `q` of an operation, as the context returns it. -/
def context (q : ℚ) : ℚ := roundHalfEven (q / 10 ^ lastPlace q) * 10 ^ lastPlace q

/-- `q` rounded half-up to a number of places, as a value. -/
def halfUp (places : Nat) (q : ℚ) : ℚ := roundHalfUp (q * 10 ^ places) / 10 ^ places

/-- `quantize` with ROUND_HALF_UP, or `none` where it signals InvalidOperation. -/
def quantize (places : Nat) (q : ℚ) : Option ℚ :=
  if |roundHalfUp (q * 10 ^ places)| < 10 ^ 28 then some (halfUp places q) else none

theorem quantize_eq_some {places : Nat} {q c : ℚ} (done : quantize places q = some c) :
    c = halfUp places q := by
  unfold quantize at done
  split at done
  · cases done
    rfl
  · cases done

/-! ## How far rounding moves a value -/

theorem roundHalfEven_near (q : ℚ) : |(roundHalfEven q : ℚ) - q| ≤ 1 / 2 := by
  have below := Int.floor_le q
  have above := Int.lt_floor_add_one q
  unfold roundHalfEven
  rw [abs_le]
  split
  · constructor <;> linarith
  · split
    · push_cast
      constructor <;> linarith
    · split
      · constructor <;> linarith
      · push_cast
        constructor <;> linarith

theorem roundHalfEven_intCast (n : ℤ) : roundHalfEven n = n := by
  unfold roundHalfEven
  rw [Int.floor_intCast, sub_self, if_pos (by norm_num)]

theorem context_near (q : ℚ) : |context q - q| ≤ |q| / 10 ^ 27 := by
  rcases eq_or_ne q 0 with rfl | nonzero
  · have zero : roundHalfEven 0 = 0 := roundHalfEven_intCast 0
    simp [context, zero]
  · have unit : (0 : ℚ) < 10 ^ lastPlace q := zpow_pos (by norm_num) _
    have near := roundHalfEven_near (q / 10 ^ lastPlace q)
    have split : context q - q =
        (roundHalfEven (q / 10 ^ lastPlace q) - q / 10 ^ lastPlace q) * 10 ^ lastPlace q := by
      rw [sub_mul, div_mul_cancel₀ _ unit.ne']
      rfl
    have leading : (10 : ℚ) ^ Int.log 10 |q| ≤ |q| :=
      Int.zpow_log_le_self (by norm_num) (abs_pos.mpr nonzero)
    have small : (10 : ℚ) ^ lastPlace q ≤ |q| / 10 ^ 27 := by
      rw [lastPlace, zpow_sub₀ (by norm_num), zpow_ofNat]
      exact div_le_div_of_nonneg_right leading (by norm_num)
    rw [split, abs_mul, abs_of_pos unit]
    calc |(roundHalfEven (q / 10 ^ lastPlace q) : ℚ) - q / 10 ^ lastPlace q| * 10 ^ lastPlace q
        ≤ 1 / 2 * 10 ^ lastPlace q := mul_le_mul_of_nonneg_right near unit.le
      _ ≤ 10 ^ lastPlace q := by linarith
      _ ≤ |q| / 10 ^ 27 := small

/-- The value has 28 significant digits at most. -/
def Representable (q : ℚ) : Prop := ∃ m e : ℤ, |m| < 10 ^ 28 ∧ q = m * 10 ^ e

theorem context_eq_self {q : ℚ} (short : Representable q) : context q = q := by
  obtain ⟨m, e, bound, rfl⟩ := short
  rcases eq_or_ne m 0 with rfl | nonzero
  · have zero : roundHalfEven 0 = 0 := roundHalfEven_intCast 0
    simp [context, zero]
  · have ten : (10 : ℚ) ≠ 0 := by norm_num
    have unit : (0 : ℚ) < 10 ^ e := zpow_pos (by norm_num) _
    have positive : (0 : ℚ) < |(m : ℚ) * 10 ^ e| := by
      rw [abs_pos]
      exact mul_ne_zero (Int.cast_ne_zero.mpr nonzero) unit.ne'
    have coefficient : |(m : ℚ)| < 10 ^ 28 := by exact_mod_cast bound
    have bounded : |(m : ℚ) * 10 ^ e| < 10 ^ (28 + e) := by
      rw [abs_mul, abs_of_pos unit, zpow_add₀ ten, zpow_ofNat]
      exact mul_lt_mul_of_pos_right coefficient unit
    have leading : Int.log 10 |(m : ℚ) * 10 ^ e| < 28 + e := by
      have first := Int.zpow_log_le_self (R := ℚ) (b := 10) (by norm_num) positive
      exact (zpow_lt_zpow_iff_right₀ (by norm_num)).mp (lt_of_le_of_lt first bounded)
    obtain ⟨gap, here⟩ : ∃ gap : ℕ, e - lastPlace ((m : ℚ) * 10 ^ e) = gap :=
      Int.eq_ofNat_of_zero_le (by unfold lastPlace; omega)
    have shifted : (m : ℚ) * 10 ^ e / 10 ^ lastPlace ((m : ℚ) * 10 ^ e) = ((m * 10 ^ gap : ℤ) : ℚ) := by
      rw [mul_div_assoc, ← zpow_sub₀ ten, here, zpow_natCast]
      push_cast
      rfl
    rw [context, shifted, roundHalfEven_intCast, ← shifted]
    exact div_mul_cancel₀ _ (zpow_pos (by norm_num) _).ne'

/-! ## Rounding half-up -/

theorem roundHalfUp_near (q : ℚ) : |q - roundHalfUp q| ≤ 1 / 2 := by
  unfold roundHalfUp
  rw [abs_le]
  split
  · have below := Int.floor_le (q + 1 / 2)
    have above := Int.lt_floor_add_one (q + 1 / 2)
    constructor <;> linarith
  · have below := Int.floor_le (-q + 1 / 2)
    have above := Int.lt_floor_add_one (-q + 1 / 2)
    push_cast
    constructor <;> linarith

theorem roundHalfUp_eq {q : ℚ} {n : ℤ} (near : |q - n| < 1 / 2) : roundHalfUp q = n := by
  have near := abs_lt.mp near
  unfold roundHalfUp
  split
  · rw [Int.floor_eq_iff]
    constructor <;> linarith
  · rw [neg_eq_iff_eq_neg, Int.floor_eq_iff]
    push_cast
    constructor <;> linarith

/-- `q` is at least `δ` away from every half-way point. -/
def Settled (δ q : ℚ) : Prop := ∀ k : ℤ, δ ≤ |q - (k + 1 / 2)|

/-- A value away from the half-way points survives a smaller error before it is
    rounded half-up. -/
theorem roundHalfUp_eq_of_settled {x y δ : ℚ} (settled : Settled δ x) (near : |y - x| < δ) :
    roundHalfUp y = roundHalfUp x := by
  have center := abs_le.mp (roundHalfUp_near x)
  have above := settled (roundHalfUp x)
  have below := settled (roundHalfUp x - 1)
  push_cast at below
  rw [abs_of_nonpos (by linarith)] at above
  rw [abs_of_nonneg (by linarith)] at below
  have near := abs_lt.mp near
  apply roundHalfUp_eq
  rw [abs_lt]
  constructor <;> linarith

/-! ## A product of two rounded factors -/

/-- Rounding two factors and their product moves a value by less than four units
    of its 27th digit. -/
theorem context_mul_near (a b : ℚ) :
    |context (context a * context b) - a * b| ≤ |a * b| * 4 / 10 ^ 27 := by
  have nearA := context_near a
  have nearB := context_near b
  have nearP := context_near (context a * context b)
  have sizeA : |context a| ≤ |a| * (1 + 1 / 10 ^ 27) := by
    calc |context a| = |context a - a + a| := by rw [sub_add_cancel]
      _ ≤ |context a - a| + |a| := abs_add_le _ _
      _ ≤ |a| * (1 + 1 / 10 ^ 27) := by linarith
  have factors : |context a * context b - a * b| ≤
      |a| * |b| * (2 / 10 ^ 27 + 1 / 10 ^ 54) := by
    have split : context a * context b - a * b =
        context a * (context b - b) + (context a - a) * b := by ring
    calc |context a * context b - a * b|
        ≤ |context a| * |context b - b| + |context a - a| * |b| := by
          rw [split, ← abs_mul, ← abs_mul]
          exact abs_add_le _ _
      _ ≤ |a| * (1 + 1 / 10 ^ 27) * (|b| / 10 ^ 27) + |a| / 10 ^ 27 * |b| := by
          gcongr
      _ = |a| * |b| * (2 / 10 ^ 27 + 1 / 10 ^ 54) := by ring
  have sizeP : |context a * context b| ≤ |a| * |b| * (1 + (2 / 10 ^ 27 + 1 / 10 ^ 54)) := by
    calc |context a * context b|
        = |context a * context b - a * b + a * b| := by rw [sub_add_cancel]
      _ ≤ |context a * context b - a * b| + |a * b| := abs_add_le _ _
      _ ≤ |a| * |b| * (1 + (2 / 10 ^ 27 + 1 / 10 ^ 54)) := by
          rw [abs_mul a b]
          linarith
  have product : 0 ≤ |a| * |b| := mul_nonneg (abs_nonneg a) (abs_nonneg b)
  calc |context (context a * context b) - a * b|
      ≤ |context (context a * context b) - context a * context b| +
          |context a * context b - a * b| := abs_sub_le _ _ _
    _ ≤ |a| * |b| * (1 + (2 / 10 ^ 27 + 1 / 10 ^ 54)) / 10 ^ 27 +
          |a| * |b| * (2 / 10 ^ 27 + 1 / 10 ^ 54) := by
        refine add_le_add (nearP.trans ?_) factors
        exact div_le_div_of_nonneg_right sizeP (by norm_num)
    _ ≤ |a * b| * 4 / 10 ^ 27 := by
        rw [abs_mul]
        linarith

/-- Where every operation is exact, so is the rounded product. -/
theorem context_mul_eq {a b : ℚ} (ha : Representable a) (hb : Representable b)
    (hab : Representable (a * b)) : context (context a * context b) = a * b := by
  rw [context_eq_self ha, context_eq_self hb, context_eq_self hab]

/-! ## Charges on a balance

A balance keeps fewer places than a charge.  What is taken off it is the charge
rounded half-down, since what is left is rounded half-up.
-/

/-- `q` rounded to a number of places, ties downwards. -/
def halfDown (places : Nat) (q : ℚ) : ℚ := ⌈q * 10 ^ places - 1 / 2⌉ / 10 ^ places

/-- The value is a whole number of units of the last of these places. -/
def Whole (places : Nat) (q : ℚ) : Prop := ∃ n : ℤ, q = n / 10 ^ places

theorem halfUp_whole (places : Nat) (q : ℚ) : Whole places (halfUp places q) := ⟨_, rfl⟩

theorem halfDown_whole (places : Nat) (q : ℚ) : Whole places (halfDown places q) := ⟨_, rfl⟩

theorem Whole.mono {places more : Nat} (le : places ≤ more) {q : ℚ} (whole : Whole places q) : Whole more q := by
  obtain ⟨n, rfl⟩ := whole
  refine ⟨n * 10 ^ (more - places), ?_⟩
  have split : (10 : ℚ) ^ more = 10 ^ (more - places) * 10 ^ places := by
    rw [← pow_add, Nat.sub_add_cancel le]
  push_cast
  rw [split]
  field_simp

theorem Whole.sub {places : Nat} {p q : ℚ} (hp : Whole places p) (hq : Whole places q) : Whole places (p - q) := by
  obtain ⟨m, rfl⟩ := hp
  obtain ⟨n, rfl⟩ := hq
  exact ⟨m - n, by push_cast; rw [sub_div]⟩

theorem Whole.add {places : Nat} {p q : ℚ} (hp : Whole places p) (hq : Whole places q) : Whole places (p + q) := by
  obtain ⟨m, rfl⟩ := hp
  obtain ⟨n, rfl⟩ := hq
  exact ⟨m + n, by push_cast; rw [add_div]⟩

theorem Whole.representable {places : Nat} {q : ℚ} (whole : Whole places q) (small : |q| * 10 ^ places < 10 ^ 28) :
    Representable q := by
  obtain ⟨n, rfl⟩ := whole
  have unit : (0 : ℚ) < 10 ^ places := by positivity
  refine ⟨n, -places, ?_, ?_⟩
  · rw [abs_div, abs_of_pos unit, div_mul_cancel₀ _ unit.ne'] at small
    exact_mod_cast small
  · rw [zpow_neg, zpow_natCast, div_eq_mul_inv]

theorem halfUp_eq_self {places : Nat} {q : ℚ} (whole : Whole places q) : halfUp places q = q := by
  obtain ⟨n, rfl⟩ := whole
  have unit : (10 : ℚ) ^ places ≠ 0 := by positivity
  unfold halfUp
  rw [div_mul_cancel₀ _ unit, roundHalfUp_eq (n := n) (by simp)]

/-- What is left of a whole amount after a charge that it covers, rounded half-up, is the
    amount less the charge rounded half-down. -/
theorem halfUp_sub {places : Nat} {p q : ℚ} (whole : Whole places p) (covered : q ≤ p) :
    halfUp places (p - q) = p - halfDown places q := by
  obtain ⟨n, rfl⟩ := whole
  have unit : (0 : ℚ) < 10 ^ places := by positivity
  have shifted : ((n : ℚ) / 10 ^ places - q) * 10 ^ places = n - q * 10 ^ places := by
    field_simp
  have nonneg : 0 ≤ (n : ℚ) - q * 10 ^ places := by
    rw [← shifted]
    exact mul_nonneg (sub_nonneg.mpr covered) unit.le
  have floor : ⌊(n : ℚ) - q * 10 ^ places + 1 / 2⌋ = n - ⌈q * 10 ^ places - 1 / 2⌉ := by
    have regrouped : (n : ℚ) - q * 10 ^ places + 1 / 2 = n + -(q * 10 ^ places - 1 / 2) := by ring
    rw [regrouped, Int.floor_intCast_add, Int.floor_neg]
    rfl
  unfold halfUp halfDown roundHalfUp
  rw [shifted, if_pos nonneg, floor]
  push_cast
  rw [sub_div]

theorem halfDown_nonneg {places : Nat} {q : ℚ} (nonneg : 0 ≤ q) : 0 ≤ halfDown places q := by
  have scaled : (0 : ℚ) ≤ q * 10 ^ places := by positivity
  have ceil : -1 < ⌈q * 10 ^ places - 1 / 2⌉ := by
    rw [Int.lt_ceil]
    push_cast
    linarith
  exact div_nonneg (by exact_mod_cast (by omega : 0 ≤ ⌈q * 10 ^ places - 1 / 2⌉)) (by positivity)

theorem halfDown_le {places : Nat} {p q : ℚ} (whole : Whole places p) (covered : q ≤ p) : halfDown places q ≤ p := by
  obtain ⟨n, rfl⟩ := whole
  have unit : (0 : ℚ) < 10 ^ places := by positivity
  have scaled : q * 10 ^ places ≤ n := by
    calc q * 10 ^ places ≤ n / 10 ^ places * 10 ^ places := mul_le_mul_of_nonneg_right covered unit.le
      _ = n := div_mul_cancel₀ _ unit.ne'
  have ceil : ⌈q * 10 ^ places - 1 / 2⌉ ≤ n := by
    rw [Int.ceil_le]
    linarith
  unfold halfDown
  rw [div_le_div_iff_of_pos_right unit]
  exact_mod_cast ceil

/-- A charge is taken off in full exactly where it is whole itself. -/
theorem halfDown_eq_self_iff {places : Nat} {q : ℚ} : halfDown places q = q ↔ Whole places q := by
  constructor
  · intro same
    exact ⟨_, same.symm⟩
  · rintro ⟨n, rfl⟩
    have unit : (10 : ℚ) ^ places ≠ 0 := by positivity
    have ceil : ⌈(n : ℚ) - 1 / 2⌉ = n := by
      rw [Int.ceil_eq_iff]
      constructor <;> linarith
    unfold halfDown
    rw [div_mul_cancel₀ _ unit, ceil]

/-! ## Signs -/

theorem roundHalfEven_nonneg {q : ℚ} (nonneg : 0 ≤ q) : 0 ≤ roundHalfEven q := by
  have floor : 0 ≤ ⌊q⌋ := Int.floor_nonneg.mpr nonneg
  unfold roundHalfEven
  split
  · exact floor
  · split
    · omega
    · split <;> omega

theorem context_nonneg {q : ℚ} (nonneg : 0 ≤ q) : 0 ≤ context q := by
  have unit : (0 : ℚ) < 10 ^ lastPlace q := zpow_pos (by norm_num) _
  have rounded : 0 ≤ roundHalfEven (q / 10 ^ lastPlace q) := roundHalfEven_nonneg (by positivity)
  exact mul_nonneg (by exact_mod_cast rounded) unit.le

theorem halfUp_nonneg {places : Nat} {q : ℚ} (nonneg : 0 ≤ q) : 0 ≤ halfUp places q := by
  have scaled : (0 : ℚ) ≤ q * 10 ^ places := by positivity
  have rounded : 0 ≤ roundHalfUp (q * 10 ^ places) := by
    rw [roundHalfUp, if_pos scaled]
    exact Int.floor_nonneg.mpr (by linarith)
  exact div_nonneg (by exact_mod_cast rounded) (by positivity)

/-! ## Rounding does not pass a value that it keeps -/

theorem roundHalfEven_le {q : ℚ} {n : ℤ} (le : q ≤ n) : roundHalfEven q ≤ n := by
  have below : ⌊q⌋ ≤ n := Int.floor_le_iff.mpr (by linarith)
  have next : q - ⌊q⌋ ≠ 0 → ⌊q⌋ + 1 ≤ n := by
    intro apart
    have strict : (⌊q⌋ : ℚ) < n := lt_of_lt_of_le (lt_of_le_of_ne (Int.floor_le q) (fun same => apart (by linarith))) le
    exact_mod_cast strict
  unfold roundHalfEven
  split
  · exact below
  · rename_i large
    have apart : q - ⌊q⌋ ≠ 0 := by
      intro zero
      exact large (by rw [zero]; norm_num)
    split
    · exact next apart
    · split
      · exact below
      · exact next apart

/-- An operation whose exact result is at most a value of 28 digits returns no more. -/
theorem context_le {p q : ℚ} (short : Representable p) (nonneg : 0 ≤ q) (le : q ≤ p) : context q ≤ p := by
  rcases nonneg.eq_or_lt with rfl | positive
  · have zero : roundHalfEven 0 = 0 := roundHalfEven_intCast 0
    simpa [context, zero] using le
  · have places : lastPlace q ≤ lastPlace p := by
      have logs := Int.log_mono_right (b := 10) (abs_pos.mpr positive.ne') (abs_le_abs_of_nonneg nonneg le)
      unfold lastPlace
      omega
    have unit : (0 : ℚ) < 10 ^ lastPlace q := zpow_pos (by norm_num) _
    obtain ⟨gap, here⟩ : ∃ gap : ℕ, lastPlace p - lastPlace q = gap := Int.eq_ofNat_of_zero_le (by omega)
    have multiple : p / 10 ^ lastPlace q = ((roundHalfEven (p / 10 ^ lastPlace p) * 10 ^ gap : ℤ) : ℚ) := by
      have kept : p = roundHalfEven (p / 10 ^ lastPlace p) * 10 ^ lastPlace p := (context_eq_self short).symm
      have place : lastPlace p = gap + lastPlace q := by omega
      push_cast
      rw [div_eq_iff unit.ne', mul_assoc, ← zpow_natCast, ← zpow_add₀ (by norm_num), ← place]
      exact kept
    have rounded : roundHalfEven (q / 10 ^ lastPlace q) ≤ roundHalfEven (p / 10 ^ lastPlace p) * 10 ^ gap := by
      apply roundHalfEven_le
      rw [← multiple]
      exact div_le_div_of_nonneg_right le unit.le
    calc context q = roundHalfEven (q / 10 ^ lastPlace q) * 10 ^ lastPlace q := rfl
      _ ≤ p / 10 ^ lastPlace q * 10 ^ lastPlace q := by
          rw [multiple]
          exact mul_le_mul_of_nonneg_right (by exact_mod_cast rounded) unit.le
      _ = p := div_mul_cancel₀ _ unit.ne'

theorem quantize_fits {places : Nat} {q c : ℚ} (done : quantize places q = some c) : |c| * 10 ^ places < 10 ^ 28 := by
  unfold quantize at done
  split at done
  · rename_i fits
    cases done
    have unit : (0 : ℚ) < 10 ^ places := by positivity
    rw [halfUp, abs_div, abs_of_pos unit, div_mul_cancel₀ _ unit.ne']
    exact_mod_cast fits
  · cases done

theorem halfUp_le {places : Nat} {p q : ℚ} (whole : Whole places p) (nonneg : 0 ≤ q) (le : q ≤ p) :
    halfUp places q ≤ p := by
  obtain ⟨n, rfl⟩ := whole
  have unit : (0 : ℚ) < 10 ^ places := by positivity
  have scaled : q * 10 ^ places ≤ n := by
    calc q * 10 ^ places ≤ n / 10 ^ places * 10 ^ places := mul_le_mul_of_nonneg_right le unit.le
      _ = n := div_mul_cancel₀ _ unit.ne'
  have floor : ⌊q * 10 ^ places + 1 / 2⌋ ≤ n := by
    apply Int.floor_le_iff.mpr
    linarith
  unfold halfUp roundHalfUp
  rw [if_pos (by positivity), div_le_div_iff_of_pos_right unit]
  exact_mod_cast floor

end Decimal
