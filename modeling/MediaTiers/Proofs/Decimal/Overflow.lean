import MediaTiers.Decimal.Printer
import MediaTiers.Proofs.Attempt
import MediaTiers.Proofs.Decimal.Rounding

/-! Which decimals can be rounded, and so written. Rounding refuses a signaling NaN, and a number whose rounding
needs a leading digit beyond the range: the least such number lies half a unit above the largest
one that arithmetic holds, because that tie goes up. -/
namespace MediaTiers.Decimal

/-- The magnitude from which on rounding is refused. -/
def roundingLimit : ℚ :=
  (10 ^ precision - 1 / 2) * 10 ^ (maxAdjusted + 1 - precision)

theorem top_eq : (10 : ℚ) ^ (maxAdjusted + 1) = 10 ^ precision * 10 ^ (maxAdjusted + 1 - precision) := by
  rw [← zpow_natCast,← zpow_add₀ (by norm_num)]
  congr 1

theorem roundingLimit_decade :
    10 ^ maxAdjusted < roundingLimit ∧ roundingLimit < 10 ^ (maxAdjusted + 1) := by
  have scale : (0 : ℚ) < 10 ^ (maxAdjusted + 1 - precision) := by positivity
  have top := top_eq
  have decade : (10 : ℚ) ^ (maxAdjusted + 1) = 10 * 10 ^ maxAdjusted := by
    rw [add_comm,zpow_one_add₀ (by norm_num)]
  have long : (10 : ℚ) ≤ 10 ^ precision := by norm_num [precision]
  unfold roundingLimit
  constructor
  · nlinarith
  · nlinarith

/-- An even number is reached by rounding from the tie below it on. -/
theorem le_roundHalfEven_iff (n d m : Nat) (positive : 0 < d) (even : m % 2 = 0) (nonzero : m ≠ 0) :
    m ≤ roundHalfEven n d ↔ 2 * (d * m) ≤ 2 * n + d := by
  have split := Nat.div_add_mod n d
  have small := Nat.mod_lt n positive
  rcases lt_trichotomy (n / d + 1) m with below | rfl | above
  · have far : d * (n / d + 2) ≤ d * m := Nat.mul_le_mul_left d below
    rw [mul_add] at far
    unfold roundHalfEven
    grind
  · rw [mul_add]
    unfold roundHalfEven
    grind
  · have near : d * m ≤ d * (n / d) := Nat.mul_le_mul_left d (by omega)
    unfold roundHalfEven
    grind

theorem roundHalfEven_le (n d : Nat) : roundHalfEven n d ≤ n / d + 1 := by
  unfold roundHalfEven
  grind

theorem digitCount_div_ten (n : Nat) (several : 1 < digitCount n) : digitCount (n / 10) + 1 = digitCount n := by
  have fewer (k : Nat) (positive : 0 < k) : digitCount (n / 10) ≤ k ↔ digitCount n ≤ k + 1 := by
    rw [digitCount_le_iff _ k positive,digitCount_le_iff n _ (by omega),pow_succ,Nat.div_lt_iff_lt_mul (by norm_num)]
  have upper := (fewer (digitCount n - 1) (by omega)).mpr (by omega)
  have lower := (fewer (digitCount (n / 10)) (digitCount_pos _)).mp le_rfl
  omega

/-- The coefficient after rounding, before a carry is taken into account. -/
def rounded (a : Nat) (e : Int) : Nat :=
  if excess a e > digitCount a then 0 else roundHalfEven a (tenPow (excess a e))

theorem fitFinite_ok_iff_rounded (negative : Bool) (a : Nat) (e : Int) :
    (∃ y, fitFinite negative a e = .ok y) ↔
      adjusted a e ≤ maxAdjusted ∧ (rounded a e ≠ 0 → adjusted (rounded a e) (e + excess a e) ≤ maxAdjusted) := by
  unfold fitFinite
  by_cases beyond : adjusted a e > maxAdjusted
  · rw [if_pos beyond]
    simp
    omega
  rw [if_neg beyond]
  simp only
  rw [← rounded]
  have within : adjusted a e ≤ maxAdjusted := not_lt.mp beyond
  -- A carry moves a digit into the exponent and leaves the leading digit where it is.
  by_cases carry : digitCount (rounded a e) > precision
  · have size : precision = 28 := rfl
    have shorter := digitCount_div_ten (rounded a e) (by omega)
    have kept : adjusted (rounded a e / 10) (e + excess a e + 1) = adjusted (rounded a e) (e + excess a e) := by
      unfold adjusted
      omega
    have filled : rounded a e / 10 ≠ 0 := by
      intro zero
      rw [zero] at shorter
      have single : digitCount 0 = 1 := rfl
      omega
    have nonzero : rounded a e ≠ 0 := fun zero => filled (by rw [zero])
    rw [if_pos carry]
    simp only [kept]
    split <;> grind
  · rw [if_neg carry]
    split <;> grind

theorem rounded_digits (a : Nat) (e : Int) (kept : excess a e ≤ digitCount a) :
    rounded a e ≤ 10 ^ (digitCount a - excess a e) := by
  have high := lt_pow_digitCount a
  rw [rounded,if_neg (by omega),tenPow_eq]
  have quotient : a / 10 ^ excess a e < 10 ^ (digitCount a - excess a e) := by
    apply Nat.div_lt_of_lt_mul
    rwa [← pow_add,Nat.add_sub_cancel' kept]
  exact (roundHalfEven_le _ _).trans quotient

theorem adjusted_rounded (a : Nat) (e : Int) (filled : rounded a e ≠ 0) :
    adjusted (rounded a e) (e + excess a e) ≤ adjusted a e + 1 := by
  have kept : excess a e ≤ digitCount a := by
    by_contra dropped
    exact filled (if_pos (by omega))
  have size : digitCount (rounded a e) ≤ digitCount a - excess a e + 1 := by
    rw [digitCount_le_iff _ _ (by omega)]
    exact (rounded_digits a e kept).trans_lt (Nat.pow_lt_pow_right (by norm_num) (by omega))
  unfold adjusted
  omega

theorem short_below_limit (a : Nat) (e : Int) (top : adjusted a e = maxAdjusted) (few : digitCount a ≤ precision) :
    magnitude a e < roundingLimit := by
  have place : maxAdjusted + 1 - precision ≤ e := by
    unfold adjusted at top
    omega
  rw [magnitude_rescale a e _ place,magnitude,roundingLimit]
  generalize zeros : (e - (maxAdjusted + 1 - precision)).toNat = n
  have digits : digitCount a + n = precision := by
    unfold adjusted at top
    omega
  have short : a * 10 ^ n < 10 ^ precision := by
    rw [← digits,pow_add]
    exact Nat.mul_lt_mul_of_pos_right (lt_pow_digitCount a) (by positivity)
  have integral : ((a * 10 ^ n : Nat) : ℚ) + 1 ≤ 10 ^ precision := by exact_mod_cast short
  apply mul_lt_mul_of_pos_right _ (by positivity)
  linarith

theorem magnitude_lt_limit_iff (a n : Nat) (e : Int) (place : e + n = maxAdjusted + 1 - precision) :
    magnitude a e < roundingLimit ↔ ¬2 * (10 ^ n * 10 ^ precision) ≤ 2 * a + 10 ^ n := by
  have scale : (0 : ℚ) < 10 ^ e := by positivity
  have limit : roundingLimit = ((10 ^ precision - 1 / 2) * 10 ^ n) * 10 ^ e := by
    rw [roundingLimit,← place,zpow_add₀ (by norm_num),zpow_natCast]
    ring
  rw [limit,magnitude,mul_lt_mul_iff_left₀ scale,not_le,← Nat.cast_lt (α := ℚ)]
  push_cast
  constructor
  · intro small
    linarith
  · intro small
    linarith

theorem rounded_top (a : Nat) (e : Int) (top : adjusted a e = maxAdjusted) :
    (rounded a e ≠ 0 → adjusted (rounded a e) (e + excess a e) ≤ maxAdjusted) ↔ magnitude a e < roundingLimit := by
  have size : precision = 28 := rfl
  have highest : maxAdjusted = 999999 := rfl
  have lowest : minExponent = -1000026 := rfl
  have dropped : excess a e = digitCount a - precision := by
    unfold excess
    unfold adjusted at top
    omega
  rcases le_or_gt (digitCount a) precision with few | many
  · have whole : excess a e = 0 := by omega
    have same : rounded a e = a := by
      rw [rounded,whole,if_neg (by omega),tenPow_eq,pow_zero,roundHalfEven_of_dvd a 1 (one_dvd a) one_pos,Nat.div_one]
    simp [same,whole,top,short_below_limit a e top few]
  · -- The number is cut to as many digits as fit, and refused if it rounds to the next power of ten.
    have place : e + excess a e = maxAdjusted + 1 - precision := by
      unfold adjusted at top
      omega
    have fits : adjusted (rounded a e) (e + excess a e) ≤ maxAdjusted ↔ rounded a e < 10 ^ precision := by
      rw [← digitCount_le_iff _ _ (by decide),place]
      unfold adjusted
      omega
    have halfway := le_roundHalfEven_iff a (10 ^ excess a e) (10 ^ precision) (by positivity) (by decide) (by decide)
    have value : rounded a e = roundHalfEven a (10 ^ excess a e) := if_neg (by omega)
    rw [fits,magnitude_lt_limit_iff a (excess a e) e place,← halfway,value,not_le]
    constructor
    · intro small
      by_cases zero : roundHalfEven a (10 ^ excess a e) = 0
      · rw [zero]
        positivity
      · exact small zero
    · intro small _
      exact small

theorem fitFinite_ok_iff (negative : Bool) (a : Nat) (e : Int) (nonzero : a ≠ 0) :
    (∃ y, fitFinite negative a e = .ok y) ↔ magnitude a e < roundingLimit := by
  obtain ⟨low,high⟩ := magnitude_decade a e nonzero
  obtain ⟨limitLow,limitHigh⟩ := roundingLimit_decade
  rw [fitFinite_ok_iff_rounded]
  rcases lt_trichotomy (adjusted a e) maxAdjusted with below | top | above
  · have small : magnitude a e < roundingLimit :=
      high.trans ((zpow_le_zpow_right₀ (by norm_num) (by omega)).trans_lt limitLow)
    have shifted := adjusted_rounded a e
    simp only [small,iff_true]
    exact ⟨below.le,fun filled => (shifted filled).trans (by omega)⟩
  · rw [rounded_top a e top,top]
    simp
  · have large : roundingLimit ≤ magnitude a e :=
      limitHigh.le.trans ((zpow_le_zpow_right₀ (by norm_num) (by omega)).trans low)
    simp [not_le.mpr above,not_lt.mpr large]

/-- Rounding succeeds for infinities, quiet NaNs, and numbers below the limit. -/
theorem fit_ok_iff (x : Decimal) :
    (∃ y, fit x = .ok y) ↔ x.isSignaling = false ∧ |x.rational| < roundingLimit := by
  have positive : 0 < roundingLimit := lt_trans (by positivity) roundingLimit_decade.1
  cases x with
  | infinite n => simp [fit,isSignaling,rational,positive]
  | nan n s p => cases s <;> simp [fit,fitNaN,isSignaling,rational,positive]
  | finite n a e =>
    rw [abs_rational]
    by_cases zero : a = 0
    · simp [fit,zero,isSignaling,magnitude_zero,positive]
    · simpa [fit,zero,isSignaling] using fitFinite_ok_iff n a e zero

theorem plain_ok_iff (x : Decimal) :
    (∃ text, x.plain = .ok text) ↔ x.isSignaling = false ∧ |x.rational| < roundingLimit := by
  rw [← fit_ok_iff]
  unfold plain normalize
  cases fit x <;> simp

end MediaTiers.Decimal
