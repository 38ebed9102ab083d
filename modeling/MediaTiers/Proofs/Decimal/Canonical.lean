import MediaTiers.Proofs.Decimal.Sum
import MediaTiers.Proofs.Grammar
import MediaTiers.Proofs.Registry.Sound

/-! Plain notation is canonical. Rounding and the removal of trailing zeros leave one coefficient and one exponent for
each number, so that the text shows the number and nothing of how it was spelled. -/
namespace MediaTiers.Decimal

/-- The number with as many significant digits as the precision allows; of two candidates at the same distance the one
with an even last digit. -/
def significant (q : ℚ) : ℚ :=
  nearestInt (q / 10 ^ (Int.log 10 |q| + 1 - precision)) * 10 ^ (Int.log 10 |q| + 1 - precision)

/-- How plain notation writes a number: a minus sign if it lies below zero, a whole part without superfluous zeros in
front, and, if it needs one, a point and a fraction that does not end in zero. -/
inductive Canonical (q : ℚ) : List Char → Prop
  | intro (whole fraction : List Char) (filled : whole ≠ []) (digits : ∀ d ∈ whole ++ fraction, d.isDigit = true)
      (lead : whole.head? = some '0' → whole = ['0']) (last : fraction.getLast? ≠ some '0')
      (value : |q| = magnitude (Nat.ofDigitChars 10 (whole ++ fraction) 0) (-(fraction.length : Int))) :
      Canonical q (signText (q < 0) ++ pointed whole fraction)

/-- Finite, and zero or with a leading digit inside the range of exponents. -/
def Ordinary : Decimal → Prop
  | .finite _ coefficient exponent =>
    coefficient = 0 ∨ -maxAdjusted < adjusted coefficient exponent ∧ adjusted coefficient exponent < maxAdjusted
  | _ => False

/-- A coefficient that does not end in zero, or zero itself with the exponent zero. -/
def Stripped (coefficient : Nat) (exponent : Int) : Prop :=
  coefficient % 10 ≠ 0 ∨ coefficient = 0 ∧ exponent = 0

theorem significant_of_fewDigits {q : ℚ} (few : FewDigits q) : significant q = q := by
  by_cases zero : q = 0
  · subst zero
    have none : nearestInt 0 = 0 := nearestInt_intCast 0
    simp [significant,none]
  obtain ⟨k,grid,digits⟩ := few
  obtain ⟨reached,-⟩ := decade_of_pos (abs_pos.mpr zero)
  have order := (zpow_lt_zpow_iff_right₀ (by norm_num : (1 : ℚ) < 10)).mp (reached.trans_lt digits)
  obtain ⟨z,place⟩ : OnGrid (Int.log 10 |q| + 1 - precision) q := grid.finer (by omega)
  have scale : (10 : ℚ) ^ (Int.log 10 |q| + 1 - precision) ≠ 0 := by positivity
  have whole : q / 10 ^ (Int.log 10 |q| + 1 - precision) = z := (div_eq_iff scale).mpr place
  rw [significant,whole,nearestInt_intCast]
  exact place.symm

theorem nearest_eq_significant {q : ℚ} (normal : minExponent ≤ Int.log 10 |q| + 1 - precision) :
    nearest q = significant q := by
  have unit : unitExponent q = Int.log 10 |q| + 1 - precision := max_eq_left normal
  rw [nearest,unit,significant]

theorem Ordinary.isFinite {x : Decimal} (ordinary : x.Ordinary) : x.isFinite = true := by
  cases x with
  | finite n a e => rfl
  | infinite n => exact ordinary.elim
  | nan n s p => exact ordinary.elim

theorem Ordinary.lt_roundingLimit {x : Decimal} (ordinary : x.Ordinary) : |x.rational| < roundingLimit := by
  have limit := roundingLimit_decade.1
  obtain ⟨n,a,e,rfl⟩ := x.exists_finite ordinary.isFinite
  rw [abs_rational]
  by_cases zero : a = 0
  · rw [zero,magnitude_zero]
    exact lt_trans (by positivity) limit
  · obtain ⟨-,top⟩ := ordinary.resolve_left zero
    calc
      magnitude a e < 10 ^ (adjusted a e + 1) := (magnitude_decade a e zero).2
      _ ≤ 10 ^ maxAdjusted := zpow_le_zpow_right₀ (by norm_num) (by omega)
      _ < roundingLimit := limit

/-- Inside the range, the smallest exponent does not interfere with rounding. -/
theorem Ordinary.nearest_eq {x : Decimal} (ordinary : x.Ordinary) : nearest x.rational = significant x.rational := by
  apply nearest_eq_significant
  have low : minExponent = -1000026 := rfl
  have size : precision = 28 := rfl
  have top : maxAdjusted = 999999 := rfl
  obtain ⟨n,a,e,rfl⟩ := x.exists_finite ordinary.isFinite
  rw [abs_rational]
  by_cases zero : a = 0
  · rw [zero,magnitude_zero,Int.log_zero_right]
    omega
  · obtain ⟨above,-⟩ := ordinary.resolve_left zero
    have decade := (magnitude_decade a e zero).1
    have reached := (Int.zpow_le_iff_le_log (b := 10) (by norm_num) (magnitude_pos a e zero)).mp (by exact_mod_cast decade)
    omega

theorem stripZeros_stripped (a : Nat) (e : Int) : Stripped (stripZeros a e).1 (stripZeros a e).2 := by
  fun_induction stripZeros a e with
  | case1 e => exact .inr ⟨rfl,rfl⟩
  | case2 a e nonzero divisible ih => exact ih
  | case3 a e nonzero other => exact .inl other

theorem normalize_stripped (x : Decimal) (n : Bool) (a : Nat) (e : Int) (ok : normalize x = .ok (.finite n a e)) :
    Stripped a e := by
  obtain ⟨y,-,made⟩ := Attempt.bind_success _ _ _ ok
  cases y with
  | finite m b f =>
    cases made
    exact stripZeros_stripped b f
  | infinite m => cases made
  | nan m s p => cases made

theorem Stripped.unique {a b : Nat} {e f : Int} (first : Stripped a e) (second : Stripped b f)
    (same : magnitude a e = magnitude b f) : a = b ∧ e = f := by
  have finer (a b : Nat) (e f : Int) (first : Stripped a e) (second : Stripped b f)
      (same : magnitude a e = magnitude b f) (order : e < f) : False := by
    rw [magnitude_rescale b f e order.le,magnitude_inj] at same
    obtain ⟨n,shift⟩ : ∃ n, (f - e).toNat = n + 1 := ⟨(f - e).toNat - 1,by omega⟩
    rw [shift,pow_succ,← mul_assoc] at same
    rcases first with ending | ⟨none,zero⟩
    · omega
    · rcases second with ending | ⟨-,level⟩
      · have positive : 0 < b * 10 ^ n := by
          apply Nat.mul_pos _ (by positivity)
          omega
        omega
      · omega
  rcases lt_trichotomy e f with below | rfl | above
  · exact (finer a b e f first second same below).elim
  · exact ⟨(magnitude_inj a b e).mp same,rfl⟩
  · exact (finer b a f e second first same.symm above).elim

theorem rational_lt_zero_iff (n : Bool) (a : Nat) (e : Int) (nonzero : a ≠ 0) :
    rational (.finite n a e) < 0 ↔ n = true := by
  cases n with
  | false => simpa using (rational_pos a e nonzero).le
  | true => simpa using rational_neg a e nonzero

theorem plainText_canonical (n : Bool) (a : Nat) (e : Int) (stripped : Stripped a e) :
    Canonical (rational (.finite n a e)) (plainText (.finite n a e)) := by
  by_cases zero : a = 0
  · obtain rfl : e = 0 := (stripped.resolve_left fun ending => ending (by rw [zero])).2
    have canonical : Canonical 0 (signText ((0 : ℚ) < 0) ++ pointed ['0'] []) :=
      .intro ['0'] [] (by simp) (List.forall_mem_singleton.mpr rfl) (fun _ => rfl) (by simp)
        (abs_zero.trans (magnitude_zero 0).symm)
    have written : plainText (.finite n 0 0) = ['0'] := rfl
    rw [zero,rational_zero,written]
    simpa [signText,pointed] using canonical
  · obtain ⟨whole,fraction,text,filled,-,digits,number,lead,last⟩ := plainDigits_pointed a e
    have ending : a % 10 ≠ 0 := stripped.resolve_right fun none => zero none.1
    have sign : decide (rational (.finite n a e) < 0) = n := by
      rw [Bool.eq_iff_iff,decide_eq_true_iff,rational_lt_zero_iff n a e zero]
    rw [Text.numberOf_ascii _ digits] at number
    have value := (abs_rational n a e).trans number.symm
    have canonical := Canonical.intro whole fraction filled digits (lead zero) (last ending) value
    rw [sign,← text] at canonical
    simpa [plainText,zero] using canonical

theorem Canonical.ne_signed_zero {q : ℚ} {text : List Char} (canonical : Canonical q text) : text ≠ ['-', '0'] := by
  obtain ⟨whole,fraction,filled,digits,-,-,value⟩ := canonical
  obtain ⟨d,ws,rfl⟩ := List.exists_cons_of_ne_nil filled
  intro same
  by_cases below : q < 0
  · have bare : pointed (d :: ws) fraction = ['0'] := by simpa [signText,below] using same
    obtain ⟨rfl,rfl,rfl⟩ : d = '0' ∧ ws = [] ∧ fraction = [] := by
      unfold pointed at bare
      split at bare <;> simp_all
    have none : |q| = 0 := value.trans (magnitude_zero 0)
    exact below.ne (abs_eq_zero.mp none)
  · have first : d = '-' := by
      simp only [signText,below,decide_false,Bool.false_eq_true,if_false,List.nil_append,pointed,List.cons_append] at same
      exact (List.cons.inj same).1
    have digit := digits d (by simp)
    rw [first] at digit
    exact absurd digit (by decide)

/-- What plain notation writes is the stripped form of the rounded number. -/
theorem plain_stripped (x : Decimal) (finite : x.isFinite = true) (small : |x.rational| < roundingLimit) :
    ∃ n a e, x.plain = .ok (String.ofList (plainText (.finite n a e))) ∧ Stripped a e ∧
      rational (.finite n a e) = nearest x.rational ∧ minExact ≤ e ∧ adjusted a e ≤ maxExact := by
  obtain ⟨y,fitted⟩ := (fit_ok_iff x).mpr ⟨isSignaling_of_finite x finite,small⟩
  obtain ⟨n,a,e,rfl⟩ := x.exists_finite finite
  obtain ⟨b,f,rfl,same,low,-,high⟩ := fit_nearest n a e y fitted
  obtain ⟨c,g,normal,kept,floor,top⟩ := normalize_fitted _ n b f fitted low high
  have range : minExact ≤ minExponent ∧ maxAdjusted ≤ maxExact := by decide
  refine ⟨n,c,g,?_,normalize_stripped _ n c g normal,?_,range.1.trans floor,top.trans range.2⟩
  · rw [plain,normal]
    rfl
  · exact nearest_rational n a e c g (kept.trans same)

theorem plain_congr (x y : Decimal) (xFinite : x.isFinite = true) (yFinite : y.isFinite = true)
    (small : |x.rational| < roundingLimit) (same : x.rational = y.rational) : x.plain = y.plain := by
  obtain ⟨n,a,e,xText,xStripped,xValue,-⟩ := plain_stripped x xFinite small
  obtain ⟨m,b,f,yText,yStripped,yValue,-⟩ := plain_stripped y yFinite (same ▸ small)
  have level : rational (.finite n a e) = rational (.finite m b f) := by rw [xValue,yValue,same]
  have sizes := congrArg abs level
  rw [abs_rational,abs_rational] at sizes
  obtain ⟨rfl,rfl⟩ := xStripped.unique yStripped sizes
  rw [xText,yText]
  by_cases zero : a = 0
  · simp [plainText,zero]
  · have sign : n = m := by
      rw [Bool.eq_iff_iff,← rational_lt_zero_iff n a e zero,← rational_lt_zero_iff m a e zero,level]
    rw [sign]

theorem plain_inj (x y : Decimal) (xFinite : x.isFinite = true) (yFinite : y.isFinite = true)
    (xSmall : |x.rational| < roundingLimit) (ySmall : |y.rational| < roundingLimit) (same : x.plain = y.plain) :
    nearest x.rational = nearest y.rational := by
  obtain ⟨n,a,e,xText,-,xValue,xLow,xHigh⟩ := plain_stripped x xFinite xSmall
  obtain ⟨m,b,f,yText,-,yValue,yLow,yHigh⟩ := plain_stripped y yFinite ySmall
  obtain ⟨-,u,xRead,-,uValue⟩ := read_plainText n a e xLow xHigh
  obtain ⟨-,v,yRead,-,vValue⟩ := read_plainText m b f yLow yHigh
  rw [xText,yText,Except.ok.injEq,String.ofList_inj] at same
  rw [same] at xRead
  obtain rfl := Option.some.inj (xRead.symm.trans yRead)
  rw [← xValue,← yValue,← uValue,← vValue]

theorem Representable.lt_roundingLimit {q : ℚ} (fits : Representable q) : |q| < roundingLimit := by
  rw [lt_roundingLimit_iff,nearest_of_representable fits]
  exact fits.2

theorem plain_representable (x : Decimal) (finite : x.isFinite = true) (fits : Representable x.rational) :
    ∃ text, x.plain = .ok text ∧ Canonical x.rational text.toList := by
  obtain ⟨n,a,e,text,stripped,value,-⟩ := plain_stripped x finite fits.lt_roundingLimit
  have canonical := plainText_canonical n a e stripped
  rw [value,nearest_of_representable fits] at canonical
  exact ⟨_,text,by rwa [String.toList_ofList]⟩

/-- Inside the range of exponents, the text of a number is its canonical notation, rounded to the precision if it has
more digits; numbers of few digits have the same text exactly if they are equal. -/
theorem plain_canonical (x : Decimal) (ordinary : x.Ordinary) :
    (∃ text, x.plain = .ok text ∧ Canonical (significant x.rational) text.toList ∧ text ≠ "-0") ∧
    (FewDigits x.rational → significant x.rational = x.rational) ∧
    ∀ y : Decimal, y.Ordinary → FewDigits x.rational → FewDigits y.rational →
      (x.plain = y.plain ↔ x.equal y = .ok true) := by
  refine ⟨?_,significant_of_fewDigits,?_⟩
  · obtain ⟨n,a,e,text,stripped,value,-⟩ := plain_stripped x ordinary.isFinite ordinary.lt_roundingLimit
    have canonical := plainText_canonical n a e stripped
    rw [value,ordinary.nearest_eq] at canonical
    refine ⟨_,text,by rwa [String.toList_ofList],?_⟩
    intro signed
    rw [← String.toList_inj,String.toList_ofList] at signed
    exact canonical.ne_signed_zero signed
  · intro y other xFew yFew
    rw [equal_finite x y ordinary.isFinite other.isFinite,Except.ok.injEq,decide_eq_true_iff]
    constructor
    · intro same
      have level := plain_inj x y ordinary.isFinite other.isFinite ordinary.lt_roundingLimit other.lt_roundingLimit same
      rwa [ordinary.nearest_eq,other.nearest_eq,significant_of_fewDigits xFew,significant_of_fewDigits yFew] at level
    · exact plain_congr x y ordinary.isFinite other.isFinite ordinary.lt_roundingLimit

/-- A tie that is carried through all digits, and one number in two spellings. -/
theorem plain_canonical_carry :
    let x : Decimal := .finite true 99999999999999999999999999995 (-27)
    let y : Decimal := .finite false 8050 (-2)
    let z : Decimal := .finite false 805 (-1)
    (x.Ordinary ∧ x.plain = .ok "-100" ∧ Canonical (significant x.rational) "-100".toList) ∧
      (y.Ordinary ∧ z.Ordinary ∧ FewDigits y.rational ∧ FewDigits z.rational) ∧ y.plain = z.plain := by
  intro x y z
  have xOrdinary : x.Ordinary := .inr (by decide +kernel)
  have yOrdinary : y.Ordinary := .inr (by decide)
  have zOrdinary : z.Ordinary := .inr (by decide)
  have yFew : FewDigits y.rational := fewDigits_finite false 8050 (-2) (by decide)
  have zFew : FewDigits z.rational := fewDigits_finite false 805 (-1) (by decide)
  have carried : x.plain = .ok "-100" := by decide +kernel
  have level : y.equal z = .ok true := by decide +kernel
  obtain ⟨⟨text,written,canonical,-⟩,-⟩ := plain_canonical x xOrdinary
  obtain rfl := Except.ok.inj (carried.symm.trans written)
  obtain ⟨-,-,alike⟩ := plain_canonical y yOrdinary
  exact ⟨⟨xOrdinary,carried,canonical⟩,⟨yOrdinary,zOrdinary,yFew,zFew⟩,(alike z zOrdinary yFew zFew).mpr level⟩

end MediaTiers.Decimal
