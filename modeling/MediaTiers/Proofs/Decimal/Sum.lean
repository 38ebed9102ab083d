import MediaTiers.Proofs.Decimal.Nearest
import Mathlib

/-! Sums are rounded once. A term far below the other one is replaced by a single unit before the terms are added;
no number that rounding decides by lies so close to the larger term, and so the sum rounds as if it had
been taken in full. -/
namespace MediaTiers.Decimal

theorem OnGrid.gap {k : Int} {p q : ℚ} (first : OnGrid k p) (second : OnGrid k q) (order : p < q) : p + 10 ^ k ≤ q := by
  by_contra short
  have zero := (second.sub first).eq_zero_of_small (by rw [abs_of_pos (by linarith)]; linarith)
  linarith

section Beside

variable {k : Int} {x h t u : ℚ}

theorem beside_above (grid : OnGrid k x) (half : OnGrid k (2 * h)) (positive : 0 < t) (small : 2 * t < 10 ^ k) :
    (x + t < h ↔ x < h) ∧ (h < x + t ↔ h ≤ x) := by
  have double : OnGrid k (2 * x) := two_mul x ▸ grid.add grid
  have apart (order : x < h) : 2 * x + 10 ^ k ≤ 2 * h := double.gap half (by linarith)
  refine ⟨⟨fun order => by linarith,?_⟩,?_,fun order => by linarith⟩
  · intro order
    linarith [apart order]
  · intro order
    by_contra above
    linarith [apart (not_le.mp above)]

/-- Two numbers close to a point of a grid, on the same side of it, lie alike to the halves of the grid. -/
theorem alike_beside (grid : OnGrid k x) (half : OnGrid k (2 * h)) (sameSide : 0 < t * u) (tSmall : 2 * |t| < 10 ^ k)
    (uSmall : 2 * |u| < 10 ^ k) : (x + t < h ↔ x + u < h) ∧ (h < x + t ↔ h < x + u) := by
  rcases pos_and_pos_or_neg_and_neg_of_mul_pos sameSide with ⟨tSign,uSign⟩ | ⟨tSign,uSign⟩
  · rw [abs_of_pos tSign] at tSmall
    rw [abs_of_pos uSign] at uSmall
    obtain ⟨tUnder,tOver⟩ := beside_above grid half tSign tSmall
    obtain ⟨uUnder,uOver⟩ := beside_above grid half uSign uSmall
    exact ⟨tUnder.trans uUnder.symm,tOver.trans uOver.symm⟩
  · rw [abs_of_neg tSign] at tSmall
    rw [abs_of_neg uSign] at uSmall
    have turned : OnGrid k (2 * -h) := by
      rw [mul_neg]
      exact half.neg
    obtain ⟨tUnder,tOver⟩ := beside_above grid.neg turned (neg_pos.mpr tSign) tSmall
    obtain ⟨uUnder,uOver⟩ := beside_above grid.neg turned (neg_pos.mpr uSign) uSmall
    rw [← neg_add,neg_lt_neg_iff] at tUnder tOver uUnder uOver
    exact ⟨tOver.trans uOver.symm,tUnder.trans uUnder.symm⟩

end Beside

/-- Numbers that lie alike to the halves of a fine grid round alike. -/
theorem nearest_congr (k : Int) (p q : ℚ) (pLarge : 10 ^ k ≤ |p|) (qLarge : 10 ^ k ≤ |q|) (coarse : k ≤ unitExponent p)
    (alike : ∀ h, OnGrid k (2 * h) → (p < h ↔ q < h) ∧ (h < p ↔ h < q)) : nearest p = nearest q := by
  have reach (m : Int) : 10 ^ m ≤ |p| ↔ 10 ^ m ≤ |q| := by
    rcases lt_or_ge m k with fine | above
    · have below : (10 : ℚ) ^ m ≤ 10 ^ k := zpow_le_zpow_right₀ (by norm_num) fine.le
      exact ⟨fun _ => below.trans qLarge,fun _ => below.trans pLarge⟩
    · have power : OnGrid k (2 * 10 ^ m) := by
        have twice : OnGrid m (2 * 10 ^ m) := ⟨2,by push_cast; rfl⟩
        exact twice.finer above
      have upper := (alike (10 ^ m) power).1
      have lower := (alike (-10 ^ m) (by rw [mul_neg]; exact power.neg)).2
      rw [← not_lt,← not_lt,abs_lt,abs_lt,lower,upper]
  have positive : 0 < |p| := lt_of_lt_of_le (by positivity) pLarge
  have further : 0 < |q| := lt_of_lt_of_le (by positivity) qLarge
  have level : Int.log 10 |p| = Int.log 10 |q| := by
    have atP := (reach _).mp (decade_of_pos positive).1
    have atQ := (reach _).mpr (decade_of_pos further).1
    apply le_antisymm
    · exact (Int.zpow_le_iff_le_log (b := 10) (by norm_num) further).mp (by exact_mod_cast atP)
    · exact (Int.zpow_le_iff_le_log (b := 10) (by norm_num) positive).mp (by exact_mod_cast atQ)
  have unit : unitExponent p = unitExponent q := by rw [unitExponent,unitExponent,level]
  have scale : (0 : ℚ) < 10 ^ unitExponent q := by positivity
  rw [nearest,nearest,unit,nearestInt_congr]
  intro j
  have half : OnGrid k (2 * (j / 2 * 10 ^ unitExponent q)) := by
    have whole : OnGrid (unitExponent q) (2 * (j / 2 * 10 ^ unitExponent q)) := ⟨j,by ring⟩
    exact whole.finer (unit ▸ coarse)
  rw [div_lt_iff₀ scale,div_lt_iff₀ scale,lt_div_iff₀ scale,lt_div_iff₀ scale]
  exact alike _ half

/-- A term out of sight of rounding counts by its sign alone. -/
theorem nearest_hidden (k top : Int) (x t u : ℚ) (grid : OnGrid k x) (large : 10 ^ top ≤ |x|) (far : k + precision ≤ top)
    (sameSide : 0 < t * u) (tSmall : 2 * |t| < 10 ^ k) (uSmall : 2 * |u| < 10 ^ k) :
    nearest (x + t) = nearest (x + u) := by
  have size : precision = 28 := rfl
  have step : (10 : ℚ) ^ (top - 1) + 10 ^ k ≤ 10 ^ top := by
    have decade : (10 : ℚ) ^ top = 10 * 10 ^ (top - 1) := by
      rw [← zpow_one_add₀ (by norm_num)]
      congr 1
      omega
    have less : (10 : ℚ) ^ k ≤ 10 ^ (top - 1) := zpow_le_zpow_right₀ (by norm_num) (by omega)
    have positive : (0 : ℚ) < 10 ^ (top - 1) := by positivity
    linarith
  have remains (s : ℚ) (small : 2 * |s| < 10 ^ k) : 10 ^ (top - 1) ≤ |x + s| := by
    have split := abs_sub_abs_le_abs_add x s
    have sign := abs_nonneg s
    linarith
  have fine : (10 : ℚ) ^ k ≤ 10 ^ (top - 1) := zpow_le_zpow_right₀ (by norm_num) (by omega)
  apply nearest_congr k
  · exact fine.trans (remains t tSmall)
  · exact fine.trans (remains u uSmall)
  · have positive : 0 < |x + t| := lt_of_lt_of_le (by positivity) (remains t tSmall)
    have reached := (Int.zpow_le_iff_le_log (b := 10) (by norm_num) positive).mp (by exact_mod_cast remains t tSmall)
    unfold unitExponent
    omega
  · intro h half
    exact alike_beside grid half sameSide tSmall uSmall

/-- A term replaced by a visible one gives a sum that rounds alike. -/
theorem visibleTerm_nearest (n m : Bool) (a b : Nat) (e f : Int) (aNonzero : a ≠ 0) :
    nearest (rational (.finite n a e) + rational (.finite m (visibleTerm a e b f).1 (visibleTerm a e b f).2)) =
      nearest (rational (.finite n a e) + rational (.finite m b f)) := by
  unfold visibleTerm
  simp only
  split
  next hidden =>
    obtain ⟨bNonzero,deep⟩ := hidden
    generalize lowest : e + min (-1) ((digitCount a : Int) - precision - 2) = floor at deep
    have unit : (10 : ℚ) ^ (floor + 1) = 10 * 10 ^ floor := by
      rw [add_comm,zpow_one_add₀ (by norm_num)]
    have positive : (0 : ℚ) < 10 ^ floor := by positivity
    have one : magnitude 1 floor = 10 ^ floor := by simp [magnitude]
    have tiny : magnitude b f < 10 ^ floor :=
      (magnitude_decade b f bNonzero).2.trans_le (zpow_le_zpow_right₀ (by norm_num) (by omega))
    have size : precision = 28 := rfl
    apply nearest_hidden (floor + 1) (adjusted a e)
    · exact (OnGrid.ofRational n a e).finer (by omega)
    · rw [abs_rational]
      exact (magnitude_decade a e aNonzero).1
    · unfold adjusted
      omega
    · have product : 0 < magnitude 1 floor * magnitude b f :=
        mul_pos (magnitude_pos 1 floor one_ne_zero) (magnitude_pos b f bNonzero)
      cases m
      · exact product
      · simpa [rational] using product
    · rw [abs_rational,one,unit]
      linarith
    · rw [abs_rational,unit]
      linarith
  next => rfl

theorem add_eq_fit (x y : Decimal) (xFinite : x.isFinite = true) (yFinite : y.isFinite = true) :
    ∃ s, s.isFinite = true ∧ add x y = fit s ∧ nearest s.rational = nearest (x.rational + y.rational) := by
  obtain ⟨n,a,e,rfl⟩ := x.exists_finite xFinite
  obtain ⟨m,b,f,rfl⟩ := y.exists_finite yFinite
  simp only [add,addFinite]
  by_cases aZero : a = 0
  · subst aZero
    rw [rational_zero,zero_add]
    by_cases bZero : b = 0
    · subst bZero
      exact ⟨.finite (n && m) 0 (min e f),rfl,by simp,by rw [rational_zero,rational_zero]⟩
    · exact ⟨.finite m b f,rfl,by simp [bZero],rfl⟩
  by_cases bZero : b = 0
  · subst bZero
    rw [rational_zero,add_zero]
    exact ⟨.finite n a e,rfl,by simp [aZero],rfl⟩
  rw [if_neg aZero,if_neg bZero]
  split
  · refine ⟨sumFinite n a e m (visibleTerm a e b f).1 (visibleTerm a e b f).2,rfl,rfl,?_⟩
    rw [sumFinite_rational,visibleTerm_nearest n m a b e f aZero]
  · refine ⟨sumFinite n (visibleTerm b f a e).1 (visibleTerm b f a e).2 m b f,rfl,rfl,?_⟩
    rw [sumFinite_rational,add_comm,visibleTerm_nearest m n b a f e bZero,add_comm]

theorem nearest_rational (negative : Bool) (a : Nat) (e : Int) (b : Nat) (f : Int)
    (same : magnitude b f = nearest (magnitude a e)) :
    rational (.finite negative b f) = nearest (rational (.finite negative a e)) := by
  cases negative
  · exact same
  · simp only [rational,if_true,same,nearest_neg]

theorem fit_success (x y : Decimal) (finite : x.isFinite = true) (ok : fit x = .ok y) :
    y.isFinite = true ∧ Representable y.rational ∧ y.rational = nearest x.rational := by
  obtain ⟨n,a,e,rfl⟩ := x.exists_finite finite
  obtain ⟨b,f,rfl,same,low,short,high⟩ := fit_nearest n a e y ok
  refine ⟨rfl,⟨⟨f,low,OnGrid.ofRational n b f,?_⟩,by rwa [abs_rational]⟩,nearest_rational n a e b f same⟩
  have coefficient : (b : ℚ) < 10 ^ precision := by exact_mod_cast short
  rw [abs_rational,magnitude,add_comm,zpow_add₀ (by norm_num),zpow_natCast]
  exact mul_lt_mul_of_pos_right coefficient (by positivity)

theorem add_success (x y z : Decimal) (xFinite : x.isFinite = true) (yFinite : y.isFinite = true)
    (ok : add x y = .ok z) :
    z.isFinite = true ∧ Representable z.rational ∧ z.rational = nearest (x.rational + y.rational) := by
  obtain ⟨s,finite,added,same⟩ := add_eq_fit x y xFinite yFinite
  rw [← same]
  exact fit_success s z finite (added.symm.trans ok)

theorem nearest_sign (direction : Direction) (q : ℚ) :
    nearest (direction.sign * q) = direction.sign * nearest q := by
  cases direction with
  | up => simp [Direction.sign]
  | down => simp [Direction.sign,nearest_neg]

theorem directed_success (x y : Decimal) (direction : Direction) (finite : x.isFinite = true)
    (ok : directed direction x = .ok y) : y.isFinite = true ∧ y.rational = direction.sign * nearest x.rational := by
  obtain ⟨s,sFinite,turned,same⟩ := directed_eq_fit x direction finite
  obtain ⟨yFinite,-,value⟩ := fit_success s y sFinite (turned.symm.trans ok)
  exact ⟨yFinite,by rw [value,same,nearest_sign]⟩

/-- The largest number that arithmetic holds. -/
def largest : ℚ :=
  (10 ^ precision - 1) * 10 ^ (maxAdjusted + 1 - precision)

theorem largest_bounds : 10 ^ maxAdjusted ≤ largest ∧ largest < roundingLimit := by
  have scale : (0 : ℚ) < 10 ^ (maxAdjusted + 1 - precision) := by positivity
  have decade : (10 : ℚ) ^ (maxAdjusted + 1) = 10 * 10 ^ maxAdjusted := by
    rw [add_comm,zpow_one_add₀ (by norm_num)]
  have long : (10 : ℚ) ≤ 10 ^ precision := by norm_num [precision]
  rw [top_eq] at decade
  unfold largest roundingLimit
  constructor
  · nlinarith
  · nlinarith

theorem unitExponent_top (q : ℚ) (low : largest ≤ q) (high : q < 10 ^ (maxAdjusted + 1)) :
    unitExponent q = maxAdjusted + 1 - precision := by
  have above := largest_bounds.1.trans low
  have sign : 0 ≤ q := le_trans (by positivity) above
  have size := abs_of_nonneg sign
  rw [unitExponent_decade q maxAdjusted (above.trans_eq size.symm) (size.trans_lt high)]
  decide

theorem nearest_le_largest (q : ℚ) (small : q < roundingLimit) : nearest q ≤ largest := by
  have scale : (0 : ℚ) < 10 ^ (maxAdjusted + 1 - precision) := by positivity
  rcases le_or_gt q largest with below | above
  · -- The largest number lies on its own grid, so that it rounds to itself.
    have unit := unitExponent_top largest le_rfl (largest_bounds.2.trans roundingLimit_decade.2)
    have fixed : nearest largest = largest := by
      apply nearest_of_onGrid
      rw [unit]
      exact ⟨10 ^ precision - 1,by push_cast; rfl⟩
    exact (nearest_mono below).trans_eq fixed
  · have unit := unitExponent_top q above.le (small.trans roundingLimit_decade.2)
    have near : |q / 10 ^ (maxAdjusted + 1 - precision) - ((10 ^ precision - 1 : ℤ) : ℚ)| < 1 / 2 := by
      unfold largest at above
      unfold roundingLimit at small
      rw [← lt_div_iff₀ scale] at above
      rw [← div_lt_iff₀ scale] at small
      push_cast
      rw [abs_lt]
      constructor
      · linarith
      · linarith
    rw [nearest,unit,nearestInt_unique _ _ (.inl near)]
    push_cast
    exact le_rfl

theorem nearest_roundingLimit : nearest roundingLimit = 10 ^ (maxAdjusted + 1) := by
  have scale : (10 : ℚ) ^ (maxAdjusted + 1 - precision) ≠ 0 := by positivity
  have unit := unitExponent_top roundingLimit largest_bounds.2.le roundingLimit_decade.2
  have near : |roundingLimit / 10 ^ (maxAdjusted + 1 - precision) - ((10 ^ precision : ℤ) : ℚ)| = 1 / 2 := by
    rw [roundingLimit,mul_div_cancel_right₀ _ scale]
    push_cast
    rw [abs_of_nonpos (by linarith)]
    ring
  rw [nearest,unit,nearestInt_unique _ _ (.inr ⟨near,by decide⟩),top_eq]
  push_cast
  rfl

theorem abs_nearest (q : ℚ) : |nearest q| = nearest |q| := by
  rcases le_total 0 q with sign | sign
  · rw [abs_of_nonneg sign,abs_of_nonneg (nearest_nonneg sign)]
  · have turned := nearest_nonneg (neg_nonneg.mpr sign)
    rw [nearest_neg] at turned
    rw [abs_of_nonpos sign,nearest_neg,abs_of_nonpos (neg_nonneg.mp turned)]

/-- A number can be rounded exactly if its rounding lies in the range of exponents. -/
theorem lt_roundingLimit_iff (q : ℚ) : |q| < roundingLimit ↔ |nearest q| < 10 ^ (maxAdjusted + 1) := by
  rw [abs_nearest]
  constructor
  · intro small
    exact (nearest_le_largest _ small).trans_lt (largest_bounds.2.trans roundingLimit_decade.2)
  · intro inside
    by_contra large
    have reached := nearest_mono (not_lt.mp large)
    rw [nearest_roundingLimit] at reached
    exact absurd inside (not_lt.mpr reached)

theorem isSignaling_of_finite (x : Decimal) (finite : x.isFinite = true) : x.isSignaling = false := by
  cases x <;> simp_all [isFinite,isSignaling]

theorem fit_error (x : Decimal) (signal : Signal) (finite : x.isFinite = true) (failed : fit x = .error signal) :
    signal = .overflow ∧ roundingLimit ≤ |x.rational| := by
  have large : ¬|x.rational| < roundingLimit := by
    intro small
    obtain ⟨y,ok⟩ := (fit_ok_iff x).mpr ⟨isSignaling_of_finite x finite,small⟩
    rw [failed] at ok
    cases ok
  refine ⟨?_,not_lt.mp large⟩
  obtain ⟨n,a,e,rfl⟩ := x.exists_finite finite
  unfold fit fitFinite at failed
  grind

theorem add_ok (x y : Decimal) (xFinite : x.isFinite = true) (yFinite : y.isFinite = true)
    (small : |x.rational + y.rational| < roundingLimit) : ∃ z, add x y = .ok z := by
  obtain ⟨s,finite,added,same⟩ := add_eq_fit x y xFinite yFinite
  rw [lt_roundingLimit_iff,← same,← lt_roundingLimit_iff] at small
  rw [added]
  exact (fit_ok_iff s).mpr ⟨isSignaling_of_finite s finite,small⟩

theorem add_exact (x y : Decimal) (xFinite : x.isFinite = true) (yFinite : y.isFinite = true)
    (fits : Representable (x.rational + y.rational)) :
    ∃ z, add x y = .ok z ∧ z.isFinite = true ∧ z.rational = x.rational + y.rational := by
  have fixed := nearest_of_representable fits
  have small : |x.rational + y.rational| < roundingLimit := by
    rw [lt_roundingLimit_iff,fixed]
    exact fits.2
  obtain ⟨z,added⟩ := add_ok x y xFinite yFinite small
  obtain ⟨finite,-,value⟩ := add_success x y z xFinite yFinite added
  exact ⟨z,added,finite,value.trans fixed⟩

end MediaTiers.Decimal
