import MediaTiers.Proofs.Decimal.Overflow
import Mathlib

/-! Rounding as a function of the number. The last digit that is kept has a weight given by the leading digit, and
the result is the nearest multiple of that weight, the even one of two. This function is monotone, and what
arithmetic returns is its value. -/
namespace MediaTiers.Decimal

/-- The nearest whole number, the even one of two. -/
def nearestInt (q : ℚ) : ℤ :=
  if Int.fract q < 1 / 2 ∨ Int.fract q = 1 / 2 ∧ Even ⌊q⌋ then ⌊q⌋ else ⌊q⌋ + 1

/-- The exponent of the last digit that rounding keeps. -/
def unitExponent (q : ℚ) : Int :=
  max (Int.log 10 |q| + 1 - precision) minExponent

/-- The number rounded to the precision, as far as the smallest exponent allows. -/
def nearest (q : ℚ) : ℚ :=
  nearestInt (q / 10 ^ unitExponent q) * 10 ^ unitExponent q

theorem nearestInt_near (q : ℚ) :
    |q - nearestInt q| < 1 / 2 ∨ |q - nearestInt q| = 1 / 2 ∧ Even (nearestInt q) := by
  have whole := Int.floor_add_fract q
  have low := Int.fract_nonneg q
  have high := Int.fract_lt_one q
  unfold nearestInt
  split
  next down =>
    have distance : |q - ⌊q⌋| = Int.fract q := by
      rw [Int.self_sub_floor,abs_of_nonneg low]
    rw [distance]
    exact down
  next up =>
    have distance : |q - ((⌊q⌋ + 1 : ℤ) : ℚ)| = 1 - Int.fract q := by
      push_cast
      rw [abs_of_nonpos (by linarith)]
      linarith
    rw [distance]
    obtain ⟨short,odd⟩ := not_or.mp up
    rcases lt_or_eq_of_le (not_lt.mp short) with past | tie
    · left
      linarith
    · right
      refine ⟨by linarith,?_⟩
      exact (Int.not_even_iff_odd.mp fun even => odd ⟨tie.symm,even⟩).add_one

theorem nearestInt_unique (q : ℚ) (z : ℤ) (near : |q - z| < 1 / 2 ∨ |q - z| = 1 / 2 ∧ Even z) : nearestInt q = z := by
  have apart (y w : ℤ) (yNear : |q - y| ≤ 1 / 2) (wNear : |q - w| < 1 / 2) : y = w := by
    have distance : |((y - w : ℤ) : ℚ)| < 1 := by
      push_cast
      calc
        |(y : ℚ) - w| = |(q - w) - (q - y)| := by congr 1; ring
        _ ≤ |q - w| + |q - y| := abs_sub _ _
        _ < 1 := by linarith
    have none : |y - w| < 1 := by exact_mod_cast distance
    have zero := Int.abs_lt_one_iff.mp none
    omega
  rcases nearestInt_near q with inside | ⟨edge,even⟩
  · rcases near with close | ⟨tie,-⟩
    · exact apart _ _ inside.le close
    · exact (apart _ _ tie.le inside).symm
  · rcases near with close | ⟨tie,zEven⟩
    · exact apart _ _ edge.le close
    · -- Two even numbers at the same distance of a half differ by less than two.
      have distance : |((nearestInt q - z : ℤ) : ℚ)| ≤ 1 := by
        push_cast
        calc
          |(nearestInt q : ℚ) - z| = |(q - z) - (q - nearestInt q)| := by congr 1; ring
          _ ≤ |q - z| + |q - nearestInt q| := abs_sub _ _
          _ ≤ 1 := by linarith
      have close : |nearestInt q - z| ≤ 1 := by exact_mod_cast distance
      obtain ⟨c,evenC⟩ := even
      obtain ⟨d,evenD⟩ := zEven
      rw [abs_le] at close
      omega

theorem nearestInt_intCast (z : ℤ) : nearestInt z = z := by
  apply nearestInt_unique
  simp

theorem nearestInt_neg (q : ℚ) : nearestInt (-q) = -nearestInt q := by
  apply nearestInt_unique
  have turned : |-q - ((-nearestInt q : ℤ) : ℚ)| = |q - nearestInt q| := by
    push_cast
    rw [← abs_neg]
    congr 1
    ring
  rw [turned,even_neg]
  exact nearestInt_near q

theorem nearestInt_mono {p q : ℚ} (order : p ≤ q) : nearestInt p ≤ nearestInt q := by
  have floors := Int.floor_le_floor order
  have pWhole := Int.floor_add_fract p
  have qWhole := Int.floor_add_fract q
  rcases lt_or_eq_of_le floors with below | same
  · unfold nearestInt
    split <;> split <;> omega
  · rw [same] at pWhole
    have parts : Int.fract p ≤ Int.fract q := by linarith
    unfold nearestInt
    rw [same]
    split
    · split <;> omega
    next up =>
      obtain ⟨short,odd⟩ := not_or.mp up
      rw [if_neg]
      intro down
      rcases down with less | ⟨tie,even⟩
      · exact short (parts.trans_lt less)
      · have level : Int.fract p = 1 / 2 := le_antisymm (tie ▸ parts) (not_lt.mp short)
        exact odd ⟨level,even⟩

/-- Numbers that lie alike to all halves of whole numbers round alike. -/
theorem nearestInt_congr (p q : ℚ) (alike : ∀ j : ℤ, (p < j / 2 ↔ q < j / 2) ∧ ((j : ℚ) / 2 < p ↔ (j : ℚ) / 2 < q)) :
    nearestInt p = nearestInt q := by
  symm
  apply nearestInt_unique
  obtain ⟨above,beyond⟩ := alike (2 * nearestInt p + 1)
  obtain ⟨under,below⟩ := alike (2 * nearestInt p - 1)
  push_cast at above beyond under below
  rcases nearestInt_near p with inside | ⟨edge,even⟩
  · left
    rw [abs_lt] at inside ⊢
    have first := above.mp (by linarith)
    have second := below.mp (by linarith)
    constructor <;> linarith
  · right
    refine ⟨?_,even⟩
    rcases abs_eq (by norm_num) |>.mp edge with high | low
    · have first := not_lt.mp (mt above.mpr (by linarith))
      have second := not_lt.mp (mt beyond.mpr (by linarith))
      rw [abs_eq (by norm_num)]
      left
      linarith
    · have first := not_lt.mp (mt under.mpr (by linarith))
      have second := not_lt.mp (mt below.mpr (by linarith))
      rw [abs_eq (by norm_num)]
      right
      linarith

theorem roundHalfEven_eq (n d : Nat) (positive : 0 < d) : (roundHalfEven n d : ℤ) = nearestInt (n / d) := by
  have scale : (0 : ℚ) < d := by exact_mod_cast positive
  have floor : ⌊(n : ℚ) / d⌋ = (n / d : Nat) := by
    rw [← Nat.floor_div_eq_div (K := ℚ) n d]
    exact (Int.natCast_floor_eq_floor (by positivity)).symm
  have fract : Int.fract ((n : ℚ) / d) = (n % d : Nat) / d := by
    have split : (n : ℚ) = d * (n / d : Nat) + (n % d : Nat) := by exact_mod_cast (Nat.div_add_mod n d).symm
    rw [Int.fract,floor,Int.cast_natCast,eq_div_iff scale.ne',sub_mul,div_mul_cancel₀ _ scale.ne']
    linarith
  have half : Int.fract ((n : ℚ) / d) < 1 / 2 ↔ 2 * (n % d) < d := by
    rw [fract,div_lt_div_iff₀ scale (by norm_num),one_mul,mul_comm]
    exact_mod_cast Iff.rfl
  have tie : Int.fract ((n : ℚ) / d) = 1 / 2 ↔ 2 * (n % d) = d := by
    rw [fract,div_eq_div_iff scale.ne' (by norm_num),one_mul,mul_comm]
    exact_mod_cast Iff.rfl
  have parity : Even (((n / d : Nat) : ℤ)) ↔ n / d % 2 = 0 := by
    rw [Int.even_coe_nat,Nat.even_iff]
  simp only [nearestInt,roundHalfEven,half,tie,floor,parity]
  grind

theorem nearest_neg (q : ℚ) : nearest (-q) = -nearest q := by
  have same : unitExponent (-q) = unitExponent q := by rw [unitExponent,unitExponent,abs_neg]
  rw [nearest,nearest,same,neg_div,nearestInt_neg]
  push_cast
  ring

theorem nearest_le {q h : ℚ} (grid : OnGrid (unitExponent q) h) (order : q ≤ h) : nearest q ≤ h := by
  obtain ⟨z,rfl⟩ := grid
  have scale : (0 : ℚ) < 10 ^ unitExponent q := by positivity
  have scaled : nearestInt (q / 10 ^ unitExponent q) ≤ z := by
    rw [← nearestInt_intCast z]
    exact nearestInt_mono ((div_le_iff₀ scale).mpr order)
  exact mul_le_mul_of_nonneg_right (by exact_mod_cast scaled) scale.le

theorem le_nearest {q h : ℚ} (grid : OnGrid (unitExponent q) h) (order : h ≤ q) : h ≤ nearest q := by
  have same : unitExponent (-q) = unitExponent q := by rw [unitExponent,unitExponent,abs_neg]
  have turned := nearest_le (same ▸ grid.neg) (neg_le_neg order)
  rw [nearest_neg] at turned
  exact neg_le_neg_iff.mp turned

theorem nearest_of_onGrid {q : ℚ} (grid : OnGrid (unitExponent q) q) : nearest q = q :=
  le_antisymm (nearest_le grid le_rfl) (le_nearest grid le_rfl)

theorem nearest_nonneg {q : ℚ} (sign : 0 ≤ q) : 0 ≤ nearest q :=
  le_nearest ⟨0,by simp⟩ sign

theorem unitExponent_decade (q : ℚ) (top : Int) (low : 10 ^ top ≤ |q|) (high : |q| < 10 ^ (top + 1)) :
    unitExponent q = max (top + 1 - precision) minExponent := by
  have positive : 0 < |q| := lt_of_lt_of_le (by positivity) low
  have reached := (Int.zpow_le_iff_le_log (b := 10) (by norm_num) positive).mp (by exact_mod_cast low)
  have under := (Int.lt_zpow_iff_log_lt (b := 10) (by norm_num) positive).mp (by exact_mod_cast high)
  have level : Int.log 10 |q| = top := by omega
  rw [unitExponent,level]

theorem decade_of_pos {q : ℚ} (positive : 0 < |q|) :
    10 ^ Int.log 10 |q| ≤ |q| ∧ |q| < 10 ^ (Int.log 10 |q| + 1) := by
  have low := Int.zpow_log_le_self (b := 10) (by norm_num) positive
  have high := Int.lt_zpow_succ_log_self (b := 10) (by norm_num) |q|
  exact ⟨by exact_mod_cast low,by exact_mod_cast high⟩

theorem nearest_mono_of_pos {p q : ℚ} (positive : 0 < p) (order : p ≤ q) : nearest p ≤ nearest q := by
  have further := positive.trans_le order
  have logs : Int.log 10 |p| ≤ Int.log 10 |q| := by
    rw [abs_of_pos positive,abs_of_pos further]
    exact Int.log_mono_right positive order
  have units : unitExponent p ≤ unitExponent q := by
    unfold unitExponent
    omega
  rcases lt_or_eq_of_le units with finer | same
  · -- A power of ten between the numbers lies on both grids.
    obtain ⟨qLow,-⟩ := decade_of_pos (abs_pos.mpr further.ne')
    obtain ⟨-,pHigh⟩ := decade_of_pos (abs_pos.mpr positive.ne')
    have size : precision = 28 := rfl
    have pivot : OnGrid (unitExponent q) (10 ^ Int.log 10 |q|) := by
      have itself : OnGrid (Int.log 10 |q|) (10 ^ Int.log 10 |q|) := ⟨1,by simp⟩
      apply itself.finer
      unfold unitExponent at finer ⊢
      omega
    have between : p ≤ 10 ^ Int.log 10 |q| := by
      have apart : Int.log 10 |p| + 1 ≤ Int.log 10 |q| := by
        unfold unitExponent at finer
        omega
      calc
        p ≤ |p| := le_abs_self p
        _ ≤ 10 ^ (Int.log 10 |p| + 1) := pHigh.le
        _ ≤ 10 ^ Int.log 10 |q| := zpow_le_zpow_right₀ (by norm_num) apart
    exact (nearest_le (pivot.finer finer.le) between).trans (le_nearest pivot (qLow.trans_eq (abs_of_pos further)))
  · have scale : (0 : ℚ) < 10 ^ unitExponent q := by positivity
    have scaled := nearestInt_mono (div_le_div_of_nonneg_right order scale.le)
    rw [nearest,nearest,same]
    exact mul_le_mul_of_nonneg_right (by exact_mod_cast scaled) scale.le

theorem nearest_mono {p q : ℚ} (order : p ≤ q) : nearest p ≤ nearest q := by
  rcases lt_or_ge 0 p with positive | pSign
  · exact nearest_mono_of_pos positive order
  rcases lt_or_ge q 0 with negative | qSign
  · have turned := nearest_mono_of_pos (neg_pos.mpr negative) (neg_le_neg order)
    rw [nearest_neg,nearest_neg] at turned
    exact neg_le_neg_iff.mp turned
  · have below := nearest_nonneg (neg_nonneg.mpr pSign)
    rw [nearest_neg] at below
    exact (neg_nonneg.mp below).trans (nearest_nonneg qSign)

theorem nearest_of_representable {q : ℚ} (fits : Representable q) : nearest q = q := by
  obtain ⟨⟨k,low,grid,digits⟩,-⟩ := fits
  by_cases zero : q = 0
  · exact nearest_of_onGrid ⟨0,by simp [zero]⟩
  · obtain ⟨reached,-⟩ := decade_of_pos (abs_pos.mpr zero)
    have order := (zpow_lt_zpow_iff_right₀ (by norm_num : (1 : ℚ) < 10)).mp (reached.trans_lt digits)
    apply nearest_of_onGrid (grid.finer _)
    unfold unitExponent
    omega

theorem nearest_magnitude_of_small (a : Nat) (e : Int) (nonzero : a ≠ 0) (small : excess a e > digitCount a) :
    nearest (magnitude a e) = 0 := by
  have filled := digitCount_pos a
  obtain ⟨low,high⟩ := magnitude_decade a e nonzero
  have sign := magnitude_nonneg a e
  have unit : unitExponent (magnitude a e) = minExponent := by
    rw [unitExponent_decade _ (adjusted a e) (by rwa [abs_of_nonneg sign]) (by rwa [abs_of_nonneg sign])]
    unfold adjusted
    unfold excess at small
    omega
  have tenth : magnitude a e ≤ 10 ^ minExponent * (1 / 10) := by
    have below : adjusted a e + 1 ≤ minExponent + -1 := by
      unfold adjusted
      unfold excess at small
      omega
    calc
      magnitude a e ≤ 10 ^ (adjusted a e + 1) := high.le
      _ ≤ 10 ^ (minExponent + -1) := zpow_le_zpow_right₀ (by norm_num) below
      _ = 10 ^ minExponent * (1 / 10) := by
        rw [zpow_add₀ (by norm_num)]
        norm_num
  have scale : (0 : ℚ) < 10 ^ minExponent := by positivity
  have near : |magnitude a e / 10 ^ minExponent - (0 : ℤ)| < 1 / 2 := by
    rw [Int.cast_zero,sub_zero,abs_of_nonneg (by positivity),div_lt_iff₀ scale]
    linarith
  rw [nearest,unit,nearestInt_unique _ 0 (.inl near)]
  simp

/-- What is kept of a number is the nearest one of few digits. -/
theorem rounded_nearest (a : Nat) (e : Int) (nonzero : a ≠ 0) :
    magnitude (rounded a e) (e + excess a e) = nearest (magnitude a e) := by
  by_cases small : excess a e > digitCount a
  · rw [nearest_magnitude_of_small a e nonzero small,rounded,if_pos small,magnitude_zero]
  rw [rounded,if_neg small,tenPow_eq]
  obtain ⟨low,high⟩ := magnitude_decade a e nonzero
  have sign := magnitude_nonneg a e
  have unit : unitExponent (magnitude a e) = max (adjusted a e + 1 - precision) minExponent :=
    unitExponent_decade _ _ (by rwa [abs_of_nonneg sign]) (by rwa [abs_of_nonneg sign])
  rcases Nat.eq_zero_or_pos (excess a e) with whole | cut
  · rw [whole,pow_zero,roundHalfEven_of_dvd a 1 (one_dvd a) one_pos,Nat.div_one,Nat.cast_zero,add_zero]
    refine (nearest_of_onGrid ((OnGrid.ofMagnitude a e).finer ?_)).symm
    rw [unit]
    unfold adjusted
    unfold excess at whole
    omega
  · have place : unitExponent (magnitude a e) = e + excess a e := by
      rw [unit]
      unfold adjusted
      unfold excess at cut ⊢
      omega
    have quotient : magnitude a e / 10 ^ (e + excess a e : Int) = a / (10 ^ excess a e : Nat) := by
      rw [magnitude,zpow_add₀ (by norm_num),zpow_natCast]
      push_cast
      field_simp
    rw [nearest,place,quotient,← roundHalfEven_eq a _ (by positivity),magnitude,Int.cast_natCast]

/-- Rounding returns the nearest number, with a coefficient and an exponent in their ranges. -/
theorem fit_nearest (negative : Bool) (a : Nat) (e : Int) (y : Decimal) (ok : fit (.finite negative a e) = .ok y) :
    ∃ b f, y = .finite negative b f ∧ magnitude b f = nearest (magnitude a e) ∧ minExponent ≤ f ∧
      b < 10 ^ precision ∧ magnitude b f < 10 ^ (maxAdjusted + 1) := by
  by_cases zero : a = 0
  · subst zero
    have given : fit (.finite negative 0 e) = .ok (.finite negative 0 (max minExponent (min e maxAdjusted))) := by
      simp [fit]
    obtain rfl := Except.ok.inj (given.symm.trans ok)
    refine ⟨0,_,rfl,?_,le_max_left _ _,by positivity,by rw [magnitude_zero]; positivity⟩
    rw [magnitude_zero,magnitude_zero,nearest_of_onGrid ⟨0,by simp⟩]
  have made : fitFinite negative a e = .ok y := by simpa [fit,zero] using ok
  have kept := rounded_nearest a e zero
  have low : minExponent ≤ e + excess a e := by
    unfold excess
    omega
  have small (b : Nat) (f : Int) (inside : ¬(b ≠ 0 ∧ adjusted b f > maxAdjusted)) :
      magnitude b f < 10 ^ (maxAdjusted + 1) := by
    by_cases none : b = 0
    · rw [none,magnitude_zero]
      positivity
    · have top : adjusted b f ≤ maxAdjusted := not_lt.mp fun beyond => inside ⟨none,beyond⟩
      exact (magnitude_decade b f none).2.trans_le (zpow_le_zpow_right₀ (by norm_num) (by omega))
  unfold fitFinite at made
  split at made
  · cases made
  simp only at made
  rw [← rounded] at made
  by_cases carry : digitCount (rounded a e) > precision
  · -- A carry makes the next power of ten, from which a zero goes into the exponent.
    have many : 10 ^ precision ≤ rounded a e := by
      rw [← not_lt,← digitCount_le_iff _ _ (by decide)]
      omega
    have part : excess a e ≤ digitCount a := by
      by_contra dropped
      rw [rounded,if_pos (by omega)] at many
      exact absurd many (by decide)
    have room : digitCount a - excess a e ≤ precision := by
      unfold excess
      omega
    have full : rounded a e = 10 ^ precision :=
      le_antisymm ((rounded_digits a e part).trans (Nat.pow_le_pow_right (by norm_num) room)) many
    rw [if_pos carry] at made
    simp only at made
    split at made
    · cases made
    next inside =>
      obtain rfl := Except.ok.inj made
      refine ⟨_,_,rfl,?_,by omega,?_,small _ _ inside⟩
      · rw [← kept,full,← Nat.cast_one,← magnitude_shift]
        rfl
      · rw [full]
        decide
  · rw [if_neg carry] at made
    simp only at made
    split at made
    · cases made
    next inside =>
      obtain rfl := Except.ok.inj made
      exact ⟨_,_,rfl,kept,low,(digitCount_le_iff _ _ (by decide)).mp (by omega),small _ _ inside⟩

end MediaTiers.Decimal
