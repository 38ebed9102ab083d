import MediaTiers.Proofs.Decimal.Rational

/-! When arithmetic is exact. A number on a decimal grid that needs no more digits than the precision, inside
the range of exponents, passes through rounding unchanged, so a directed step that denotes such a number
is exact. -/
namespace MediaTiers.Decimal

/-- An integral multiple of `10 ^ k`. -/
def OnGrid (k : Int) (q : ℚ) : Prop :=
  ∃ z : ℤ, q = z * 10 ^ k

namespace OnGrid

variable {k l : Int} {p q : ℚ}

theorem finer (coarse : OnGrid l q) (order : k ≤ l) : OnGrid k q := by
  obtain ⟨z,rfl⟩ := coarse
  refine ⟨z * 10 ^ (l - k).toNat,?_⟩
  have split : l = ((l - k).toNat : Int) + k := by omega
  conv_lhs => rw [split,zpow_add₀ (by norm_num),zpow_natCast]
  push_cast
  ring

theorem add (first : OnGrid k p) (second : OnGrid k q) : OnGrid k (p + q) := by
  obtain ⟨y,rfl⟩ := first
  obtain ⟨z,rfl⟩ := second
  exact ⟨y + z,by push_cast; ring⟩

theorem neg (grid : OnGrid k q) : OnGrid k (-q) := by
  obtain ⟨z,rfl⟩ := grid
  exact ⟨-z,by push_cast; ring⟩

theorem sub (first : OnGrid k p) (second : OnGrid k q) : OnGrid k (p - q) := by
  rw [sub_eq_add_neg]
  exact first.add second.neg

theorem ofMagnitude (a : Nat) (e : Int) : OnGrid e (magnitude a e) :=
  ⟨a,by simp [magnitude]⟩

theorem ofRational (negative : Bool) (a : Nat) (e : Int) : OnGrid e (rational (.finite negative a e)) := by
  cases negative
  · exact ofMagnitude a e
  · exact (ofMagnitude a e).neg

theorem eq_zero_of_small (grid : OnGrid k q) (small : |q| < 10 ^ k) : q = 0 := by
  obtain ⟨z,rfl⟩ := grid
  have scale : (0 : ℚ) < 10 ^ k := by positivity
  rw [abs_mul,abs_of_pos scale,← lt_div_iff₀ scale,div_self scale.ne'] at small
  have none : |z| < 1 := by exact_mod_cast small
  rw [Int.abs_lt_one_iff.mp none]
  simp

end OnGrid

/-- A number that arithmetic holds without rounding: at most `precision` digits, inside the range of exponents. -/
def Representable (q : ℚ) : Prop :=
  (∃ k, minExponent ≤ k ∧ OnGrid k q ∧ |q| < 10 ^ (k + precision)) ∧ |q| < 10 ^ (maxAdjusted + 1)

theorem Representable.neg {q : ℚ} (fits : Representable q) : Representable (-q) := by
  obtain ⟨⟨k,low,grid,digits⟩,high⟩ := fits
  exact ⟨⟨k,low,grid.neg,by rwa [abs_neg]⟩,by rwa [abs_neg]⟩

theorem abs_rational (negative : Bool) (a : Nat) (e : Int) :
    |rational (.finite negative a e)| = magnitude a e := by
  have sign := magnitude_nonneg a e
  cases negative <;> simp [rational,abs_of_nonneg sign]

theorem excess_dvd (a : Nat) (e k : Int) (low : minExponent ≤ k) (grid : OnGrid k (magnitude a e))
    (digits : magnitude a e < 10 ^ (k + precision)) : 10 ^ excess a e ∣ a := by
  unfold excess
  rcases le_or_gt k e with fine | coarse
  · have scaled := magnitude_rescale a e k fine
    have short : a < 10 ^ precision := by
      rw [scaled,add_comm k,zpow_add₀ (by norm_num),zpow_natCast,magnitude,
        mul_lt_mul_iff_left₀ (by positivity)] at digits
      have bound : a * 10 ^ (e - k).toNat < 10 ^ precision := by exact_mod_cast digits
      exact lt_of_le_of_lt (Nat.le_mul_of_pos_right a (by positivity)) bound
    have few := (digitCount_le_iff a precision (by decide)).mpr short
    have none : max (digitCount a - precision) (minExponent - e).toNat = 0 := by omega
    rw [none]
    exact one_dvd a
  · obtain ⟨z,equal⟩ := grid
    have scale : (10 : ℚ) ^ k ≠ 0 := by positivity
    have sign : 0 ≤ z := by
      have above := magnitude_nonneg a e
      rw [equal] at above
      exact_mod_cast nonneg_of_mul_nonneg_left above (by positivity)
    obtain ⟨c,rfl⟩ := Int.eq_ofNat_of_zero_le sign
    have same : magnitude a e = magnitude (c * 10 ^ (k - e).toNat) e := by
      rw [← magnitude_rescale c k e coarse.le,equal]
      simp [magnitude]
    have product := (magnitude_inj _ _ e).mp same
    have short : c < 10 ^ precision := by
      rw [equal,add_comm k,zpow_add₀ (by norm_num),zpow_natCast,mul_lt_mul_iff_left₀ (by positivity)] at digits
      exact_mod_cast digits
    have few : digitCount a ≤ precision + (k - e).toNat := by
      apply (digitCount_le_iff a _ (by unfold precision; omega)).mpr
      rw [product,pow_add]
      exact Nat.mul_lt_mul_of_pos_right short (by positivity)
    have bounded : max (digitCount a - precision) (minExponent - e).toNat ≤ (k - e).toNat := by omega
    have factor : 10 ^ (k - e).toNat ∣ a := ⟨c,by rw [product,Nat.mul_comm]⟩
    exact (pow_dvd_pow 10 bounded).trans factor

theorem roundHalfEven_of_dvd (n d : Nat) (divides : d ∣ n) (positive : 0 < d) : roundHalfEven n d = n / d := by
  have exact : n % d = 0 := Nat.mod_eq_zero_of_dvd divides
  simp [roundHalfEven,exact,positive]

theorem digitCount_kept (a : Nat) (e : Int) : digitCount (a / 10 ^ excess a e) ≤ precision := by
  apply (digitCount_le_iff _ _ (by decide)).mpr
  apply Nat.div_lt_of_lt_mul
  have enough : digitCount a ≤ excess a e + precision := by unfold excess; omega
  calc
    a < 10 ^ digitCount a := lt_pow_digitCount a
    _ ≤ 10 ^ (excess a e + precision) := Nat.pow_le_pow_right (by norm_num) enough
    _ = 10 ^ excess a e * 10 ^ precision := pow_add _ _ _

theorem adjusted_le (a : Nat) (e limit : Int) (nonzero : a ≠ 0) (bound : magnitude a e < 10 ^ (limit + 1)) :
    adjusted a e ≤ limit := by
  have decade := (magnitude_decade a e nonzero).1.trans_lt bound
  have order := (zpow_lt_zpow_iff_right₀ (by norm_num : (1 : ℚ) < 10)).mp decade
  omega

theorem fitFinite_exact (negative : Bool) (a : Nat) (e : Int) (nonzero : a ≠ 0)
    (fits : Representable (rational (.finite negative a e))) :
    ∃ b f, fitFinite negative a e = .ok (.finite negative b f) ∧ magnitude b f = magnitude a e ∧
      minExponent ≤ f := by
  obtain ⟨⟨k,low,grid,digits⟩,high⟩ := fits
  rw [abs_rational] at digits high
  have gridded : OnGrid k (magnitude a e) := by
    cases negative
    · exact grid
    · simpa [rational] using grid.neg
  have divides := excess_dvd a e k low gridded digits
  have small : excess a e ≤ digitCount a := by
    have size := Nat.le_of_dvd (Nat.pos_of_ne_zero nonzero) divides
    have order := (Nat.pow_lt_pow_iff_right (by norm_num : 1 < 10)).mp (size.trans_lt (lt_pow_digitCount a))
    omega
  have kept : magnitude (a / 10 ^ excess a e) (e + excess a e) = magnitude a e := by
    rw [← magnitude_shift,Nat.div_mul_cancel divides]
  have top := adjusted_le a e maxAdjusted nonzero high
  refine ⟨a / 10 ^ excess a e,e + excess a e,?_,kept,by unfold excess; omega⟩
  unfold fitFinite
  rw [if_neg (by omega)]
  simp only [tenPow_eq,if_neg (by omega : ¬excess a e > digitCount a),
    roundHalfEven_of_dvd a _ divides (by positivity),
    if_neg (by have := digitCount_kept a e; omega : ¬digitCount (a / 10 ^ excess a e) > precision)]
  rw [if_neg]
  rintro ⟨some,beyond⟩
  have inside := adjusted_le _ _ maxAdjusted some (kept.trans_lt high)
  omega

theorem fit_finite (negative : Bool) (a : Nat) (e : Int) (fits : Representable (rational (.finite negative a e))) :
    ∃ b f, fit (.finite negative a e) = .ok (.finite negative b f) ∧ magnitude b f = magnitude a e ∧
      minExponent ≤ f := by
  by_cases zero : a = 0
  · subst zero
    exact ⟨0,max minExponent (min e maxAdjusted),by simp [fit],by rw [magnitude_zero,magnitude_zero],
      le_max_left _ _⟩
  · obtain ⟨b,f,fitted,same,low⟩ := fitFinite_exact negative a e zero fits
    exact ⟨b,f,by simpa [fit,zero] using fitted,same,low⟩

theorem fit_exact (x : Decimal) (finite : x.isFinite = true) (fits : Representable x.rational) :
    ∃ y, fit x = .ok y ∧ y.isFinite = true ∧ y.rational = x.rational := by
  obtain ⟨n,a,e,rfl⟩ := x.exists_finite finite
  obtain ⟨b,f,fitted,same,-⟩ := fit_finite n a e fits
  exact ⟨.finite n b f,fitted,rfl,by simp only [rational,same]⟩

def Direction.sign : Direction → ℚ
  | .up => 1
  | .down => -1

theorem directed_eq_fit (x : Decimal) (direction : Direction) (finite : x.isFinite = true) :
    ∃ s, s.isFinite = true ∧ directed direction x = fit s ∧ s.rational = direction.sign * x.rational := by
  obtain ⟨n,a,e,rfl⟩ := x.exists_finite finite
  refine ⟨.finite (xor n (direction == .down)) a e,rfl,rfl,?_⟩
  cases n <;> cases direction <;> simp [rational,Direction.sign]

theorem directed_exact (x : Decimal) (direction : Direction) (finite : x.isFinite = true)
    (fits : Representable x.rational) :
    ∃ y, directed direction x = .ok y ∧ y.isFinite = true ∧ y.rational = direction.sign * x.rational := by
  obtain ⟨s,sFinite,turned,same⟩ := directed_eq_fit x direction finite
  have turnedFits : Representable s.rational := by
    rw [same]
    cases direction with
    | up => simpa [Direction.sign] using fits
    | down => simpa [Direction.sign] using fits.neg
  rw [turned,← same]
  exact fit_exact s sFinite turnedFits

theorem rational_signed (n : Bool) (a : Nat) (e k : Int) (finer : k ≤ e) :
    rational (.finite n a e) = (signed n (a * tenPow (e - k).toNat) : ℚ) * 10 ^ k := by
  have scaled : magnitude a e = (a * tenPow (e - k).toNat : Nat) * 10 ^ k := magnitude_rescale a e k finer
  cases n <;> simp [rational,signed,scaled]

theorem rational_of_int (t k : Int) : rational (.finite (t < 0) t.natAbs k) = t * 10 ^ k := by
  rcases lt_or_ge t 0 with below | above
  · have size : (t.natAbs : ℚ) = -t := by
      rw [Nat.cast_natAbs,abs_of_neg below]
      push_cast
      rfl
    simp [rational,magnitude,below,size]
  · have size : (t.natAbs : ℚ) = t := by
      rw [Nat.cast_natAbs,abs_of_nonneg above]
    simp [rational,magnitude,not_lt.mpr above,size]

theorem sumFinite_rational (n m : Bool) (a b : Nat) (e f : Int) :
    rational (sumFinite n a e m b f) = rational (.finite n a e) + rational (.finite m b f) := by
  have leftScale : (e - min e f).toNat = (e - f).toNat := by omega
  have rightScale : (f - min e f).toNat = (f - e).toNat := by omega
  rw [rational_signed n a e _ (min_le_left e f),rational_signed m b f _ (min_le_right e f),leftScale,rightScale,
    ← add_mul]
  unfold sumFinite
  rw [rational_of_int,Int.cast_add]

/-- At most `precision` significant digits. -/
def FewDigits (q : ℚ) : Prop :=
  ∃ k, OnGrid k q ∧ |q| < 10 ^ (k + precision)

/-- Few digits, and the leading one less than a thousand places away from the units. -/
structure Moderate (q : ℚ) : Prop where
  digits : FewDigits q
  range : q ≠ 0 → 10 ^ (-999 : Int) ≤ |q| ∧ |q| < 10 ^ (1000 : Int)

theorem FewDigits.representable {q : ℚ} (few : FewDigits q) (grid : OnGrid (-1026) q)
    (bound : |q| < 10 ^ (1001 : Int)) : Representable q := by
  have room : (1001 : Int) ≤ maxAdjusted + 1 := by decide
  refine ⟨?_,bound.trans_le (zpow_le_zpow_right₀ (by norm_num) room)⟩
  by_cases zero : q = 0
  · subst zero
    exact ⟨0,by decide,⟨0,by simp⟩,by rw [abs_zero]; positivity⟩
  · obtain ⟨k,fine,digits⟩ := few
    have large : 10 ^ (-1026 : Int) ≤ |q| := not_lt.mp fun small => zero (grid.eq_zero_of_small small)
    have order := (zpow_lt_zpow_iff_right₀ (by norm_num : (1 : ℚ) < 10)).mp (large.trans_lt digits)
    have low : minExponent = -1000026 := rfl
    have size : precision = 28 := rfl
    exact ⟨k,by omega,fine,digits⟩

namespace Moderate

variable {p q : ℚ}

theorem below (moderate : Moderate q) : |q| < 10 ^ (1000 : Int) := by
  by_cases zero : q = 0
  · rw [zero,abs_zero]
    positivity
  · exact (moderate.range zero).2

theorem onGrid (moderate : Moderate q) : OnGrid (-1026) q := by
  by_cases zero : q = 0
  · exact ⟨0,by simp [zero]⟩
  · obtain ⟨k,fine,digits⟩ := moderate.digits
    have order := (zpow_lt_zpow_iff_right₀ (by norm_num : (1 : ℚ) < 10)).mp ((moderate.range zero).1.trans_lt digits)
    have size : precision = 28 := rfl
    exact fine.finer (by omega)

theorem representable (moderate : Moderate q) : Representable q :=
  moderate.digits.representable moderate.onGrid
    (moderate.below.trans (zpow_lt_zpow_right₀ (by norm_num) (by norm_num)))

theorem difference (first : Moderate p) (second : Moderate q) (few : FewDigits (q - p)) :
    Representable (q - p) := by
  have top : (10 : ℚ) ^ (1001 : Int) = 10 * 10 ^ (1000 : Int) := by
    rw [← zpow_one_add₀ (by norm_num)]
    rfl
  have bound : |q - p| < 10 ^ (1001 : Int) := by
    have sum := abs_sub q p
    have pBelow := first.below
    have qBelow := second.below
    rw [top]
    generalize (10 : ℚ) ^ (1000 : Int) = limit at pBelow qBelow
    have sign := abs_nonneg p
    linarith
  exact few.representable (second.onGrid.sub first.onGrid) bound

end Moderate

theorem fewDigits_finite (negative : Bool) (a : Nat) (e : Int) (short : a < 10 ^ precision) :
    FewDigits (rational (.finite negative a e)) := by
  refine ⟨e,OnGrid.ofRational negative a e,?_⟩
  have scale : (0 : ℚ) < 10 ^ e := by positivity
  have bound : (a : ℚ) < 10 ^ precision := by exact_mod_cast short
  rw [abs_rational,magnitude,add_comm,zpow_add₀ (by norm_num),zpow_natCast]
  exact mul_lt_mul_of_pos_right bound scale

theorem moderate_finite (negative : Bool) (a : Nat) (e : Int) (short : a < 10 ^ precision) (low : -999 ≤ e)
    (high : e ≤ 972) : Moderate (rational (.finite negative a e)) := by
  refine ⟨fewDigits_finite negative a e short,?_⟩
  intro nonzero
  have filled : a ≠ 0 := by
    rintro rfl
    exact nonzero (rational_zero negative e)
  have few := (digitCount_le_iff a precision (by decide)).mpr short
  have size : precision = 28 := rfl
  have filledDigits := digitCount_pos a
  obtain ⟨lower,upper⟩ := magnitude_decade a e filled
  rw [abs_rational]
  constructor
  · exact (zpow_le_zpow_right₀ (by norm_num) (by unfold adjusted; omega)).trans lower
  · exact upper.trans_le (zpow_le_zpow_right₀ (by norm_num) (by unfold adjusted; omega))

end MediaTiers.Decimal
