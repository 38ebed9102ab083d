import MediaTiers.Decimal.Arithmetic
import Mathlib.Algebra.Order.Field.Power
import Mathlib.Algebra.Order.Field.Rat
import Mathlib.Tactic.Linarith
import Mathlib.Tactic.Positivity
import Mathlib.Tactic.Ring

/-! The rational number that a finite decimal denotes, and the order of decimals as the order of these
numbers. The leading digit alone settles the order unless both numbers lie in the same decade. -/
namespace MediaTiers.Decimal

def magnitude (a : Nat) (e : Int) : ℚ :=
  a * 10 ^ e

/-- The number that a decimal denotes; what is not finite denotes none, and counts as zero. -/
def rational : Decimal → ℚ
  | .finite negative coefficient exponent =>
    if negative then -magnitude coefficient exponent else magnitude coefficient exponent
  | _ => 0

theorem exists_finite (x : Decimal) (finite : x.isFinite = true) : ∃ n a e, x = .finite n a e := by
  cases x <;> simp_all [isFinite]

theorem tenPow_eq (n : Nat) : tenPow n = 10 ^ n := rfl

theorem magnitude_zero (e : Int) : magnitude 0 e = 0 := by
  simp [magnitude]

theorem magnitude_nonneg (a : Nat) (e : Int) : 0 ≤ magnitude a e := by
  unfold magnitude
  positivity

theorem magnitude_pos (a : Nat) (e : Int) (nonzero : a ≠ 0) : 0 < magnitude a e := by
  have above : (0 : ℚ) < a := by exact_mod_cast Nat.pos_of_ne_zero nonzero
  unfold magnitude
  positivity

theorem magnitude_shift (a n : Nat) (e : Int) : magnitude (a * 10 ^ n) e = magnitude a (e + n) := by
  unfold magnitude
  rw [zpow_add₀ (by norm_num),zpow_natCast]
  push_cast
  ring

theorem magnitude_rescale (a : Nat) (e k : Int) (finer : k ≤ e) :
    magnitude a e = magnitude (a * 10 ^ (e - k).toNat) k := by
  rw [magnitude_shift]
  congr 1
  omega

theorem magnitude_lt_iff (a b : Nat) (e : Int) : magnitude a e < magnitude b e ↔ a < b := by
  have scale : (0 : ℚ) < 10 ^ e := by positivity
  unfold magnitude
  rw [mul_lt_mul_iff_left₀ scale]
  exact_mod_cast Iff.rfl

theorem magnitude_inj (a b : Nat) (e : Int) : magnitude a e = magnitude b e ↔ a = b := by
  have scale : (10 : ℚ) ^ e ≠ 0 := by positivity
  unfold magnitude
  rw [mul_left_inj' scale]
  exact_mod_cast Iff.rfl

theorem digitCount_pos (n : Nat) : 0 < digitCount n :=
  Nat.length_toDigits_pos

theorem digitCount_le_iff (n k : Nat) (positive : 0 < k) : digitCount n ≤ k ↔ n < 10 ^ k :=
  Nat.length_toDigits_le_iff (by norm_num) positive

theorem lt_pow_digitCount (n : Nat) : n < 10 ^ digitCount n :=
  (digitCount_le_iff n _ (digitCount_pos n)).mp le_rfl

theorem pow_digitCount_le (n : Nat) (nonzero : n ≠ 0) : 10 ^ (digitCount n - 1) ≤ n := by
  by_contra small
  have positive := digitCount_pos n
  rcases Nat.eq_zero_or_pos (digitCount n - 1) with single | several
  · rw [single] at small
    omega
  · have fewer := (digitCount_le_iff n _ several).mpr (by omega)
    omega

theorem magnitude_decade (a : Nat) (e : Int) (nonzero : a ≠ 0) :
    10 ^ adjusted a e ≤ magnitude a e ∧ magnitude a e < 10 ^ (adjusted a e + 1) := by
  have positive := digitCount_pos a
  have scale : (0 : ℚ) < 10 ^ e := by positivity
  have low : ((10 : ℚ) ^ (digitCount a - 1)) ≤ a := by exact_mod_cast pow_digitCount_le a nonzero
  have high : (a : ℚ) < 10 ^ digitCount a := by exact_mod_cast lt_pow_digitCount a
  have lower : adjusted a e = ((digitCount a - 1 : Nat) : Int) + e := by unfold adjusted; omega
  have upper : adjusted a e + 1 = (digitCount a : Int) + e := by unfold adjusted; omega
  constructor
  · rw [lower,zpow_add₀ (by norm_num),zpow_natCast]
    exact mul_le_mul_of_nonneg_right low scale.le
  · rw [upper,zpow_add₀ (by norm_num),zpow_natCast]
    exact mul_lt_mul_of_pos_right high scale

theorem magnitude_lt_of_adjusted (a b : Nat) (e f : Int) (aNonzero : a ≠ 0) (bNonzero : b ≠ 0)
    (apart : adjusted a e < adjusted b f) : magnitude a e < magnitude b f := by
  calc
    magnitude a e < 10 ^ (adjusted a e + 1) := (magnitude_decade a e aNonzero).2
    _ ≤ 10 ^ adjusted b f := zpow_le_zpow_right₀ (by norm_num) (by omega)
    _ ≤ magnitude b f := (magnitude_decade b f bNonzero).1

theorem compare_magnitude_scale (a b : Nat) (e : Int) :
    compare (magnitude a e) (magnitude b e) = compare a b := by
  rcases lt_trichotomy a b with below | rfl | above
  · rw [compare_lt_iff_lt.mpr below,compare_lt_iff_lt.mpr ((magnitude_lt_iff a b e).mpr below)]
  · rw [compare_eq_iff_eq.mpr rfl,compare_eq_iff_eq.mpr rfl]
  · rw [compare_gt_iff_gt.mpr above,compare_gt_iff_gt.mpr ((magnitude_lt_iff b a e).mpr above)]

theorem compareMagnitude_eq (a b : Nat) (e f : Int) :
    compareMagnitude a e b f = compare (magnitude a e) (magnitude b f) := by
  unfold compareMagnitude
  split
  next zero =>
    -- With a zero on either side the exponents do not matter.
    have level : compare (magnitude a e) (magnitude b f) = compare (magnitude a 0) (magnitude b 0) := by
      rcases zero with rfl | rfl
      · rcases Nat.eq_zero_or_pos b with rfl | positive
        · simp only [magnitude_zero]
        · rw [magnitude_zero,magnitude_zero,compare_lt_iff_lt.mpr (magnitude_pos b f positive.ne'),
            compare_lt_iff_lt.mpr (magnitude_pos b 0 positive.ne')]
      · rcases Nat.eq_zero_or_pos a with rfl | positive
        · simp only [magnitude_zero]
        · rw [magnitude_zero,magnitude_zero,compare_gt_iff_gt.mpr (magnitude_pos a e positive.ne'),
            compare_gt_iff_gt.mpr (magnitude_pos a 0 positive.ne')]
    rw [level,compare_magnitude_scale]
  next nonzero =>
    obtain ⟨aNonzero,bNonzero⟩ := not_or.mp nonzero
    rcases lt_trichotomy (adjusted a e) (adjusted b f) with below | same | above
    · rw [compare_lt_iff_lt.mpr below,
        compare_lt_iff_lt.mpr (magnitude_lt_of_adjusted a b e f aNonzero bNonzero below)]
    · have left := magnitude_rescale a e (min e f) (min_le_left e f)
      have right := magnitude_rescale b f (min e f) (min_le_right e f)
      have leftScale : (e - min e f).toNat = (e - f).toNat := by omega
      have rightScale : (f - min e f).toNat = (f - e).toNat := by omega
      rw [compare_eq_iff_eq.mpr same,left,right,leftScale,rightScale,compare_magnitude_scale]
      rfl
    · rw [compare_gt_iff_gt.mpr above,
        compare_gt_iff_gt.mpr (magnitude_lt_of_adjusted b a f e bNonzero aNonzero above)]

theorem rational_zero (negative : Bool) (e : Int) : rational (.finite negative 0 e) = 0 := by
  simp [rational,magnitude_zero]

theorem rational_pos (a : Nat) (e : Int) (nonzero : a ≠ 0) : 0 < rational (.finite false a e) := by
  simpa [rational] using magnitude_pos a e nonzero

theorem rational_of_isPositive (x : Decimal) (positive : x.isPositive = true) : x.isFinite = true ∧ 0 < x.rational := by
  cases x with
  | infinite n => simp [isPositive] at positive
  | nan n s p => simp [isPositive] at positive
  | finite n a e =>
    obtain ⟨sign,nonzero⟩ : n = false ∧ a ≠ 0 := by simpa [isPositive] using positive
    subst sign
    exact ⟨rfl,rational_pos a e nonzero⟩

theorem rational_neg (a : Nat) (e : Int) (nonzero : a ≠ 0) : rational (.finite true a e) < 0 := by
  simpa [rational] using magnitude_pos a e nonzero

theorem compare_neg_neg (x y : ℚ) : compare (-x) (-y) = compare y x := by
  rcases lt_trichotomy x y with below | rfl | above
  · rw [compare_gt_iff_gt.mpr (neg_lt_neg below),compare_gt_iff_gt.mpr below]
  · rw [compare_eq_iff_eq.mpr rfl,compare_eq_iff_eq.mpr rfl]
  · rw [compare_lt_iff_lt.mpr (neg_lt_neg above),compare_lt_iff_lt.mpr above]

theorem compareValue_finite (n m : Bool) (a b : Nat) (e f : Int) :
    compareValue (.finite n a e) (.finite m b f) =
      compare (rational (.finite n a e)) (rational (.finite m b f)) := by
  unfold compareValue
  by_cases aZero : a = 0
  · subst aZero
    by_cases bZero : b = 0
    · subst bZero
      simp only [rational_zero,true_and,if_true]
      exact (compare_eq_iff_eq.mpr rfl).symm
    · simp only [bZero,and_false,if_false,if_true,rational_zero]
      cases m with
      | false => exact (compare_lt_iff_lt.mpr (rational_pos b f bZero)).symm
      | true => exact (compare_gt_iff_gt.mpr (rational_neg b f bZero)).symm
  · by_cases bZero : b = 0
    · subst bZero
      simp only [aZero,false_and,if_false,if_true,rational_zero]
      cases n with
      | false => exact (compare_gt_iff_gt.mpr (rational_pos a e aZero)).symm
      | true => exact (compare_lt_iff_lt.mpr (rational_neg a e aZero)).symm
    · simp only [aZero,bZero,false_and,if_false]
      cases n <;> cases m
      · exact compareMagnitude_eq a b e f
      · exact (compare_gt_iff_gt.mpr ((rational_neg b f bZero).trans (rational_pos a e aZero))).symm
      · exact (compare_lt_iff_lt.mpr ((rational_neg a e aZero).trans (rational_pos b f bZero))).symm
      · exact (compareMagnitude_eq b a f e).trans (compare_neg_neg _ _).symm

/-- The order of finite decimals is the order of the numbers they denote. -/
theorem compareValue_eq (x y : Decimal) (xFinite : x.isFinite = true) (yFinite : y.isFinite = true) :
    compareValue x y = compare x.rational y.rational := by
  obtain ⟨n,a,e,rfl⟩ := x.exists_finite xFinite
  obtain ⟨m,b,f,rfl⟩ := y.exists_finite yFinite
  exact compareValue_finite n m a b e f

end MediaTiers.Decimal
