import MediaTiers.Proofs.Decimal.Rational
import Mathlib.Order.WithBot

/-! Equality of decimals as equality of places. A decimal lies on the line of numbers or at one of its two ends,
however it is spelled; a NaN lies nowhere, and equals nothing, not even itself. -/
namespace MediaTiers.Decimal

/-- Where a decimal lies on the line with its two ends. -/
def place? : Decimal → Option (WithBot (WithTop ℚ))
  | .infinite negative => some (if negative then ⊥ else (⊤ : WithTop ℚ))
  | .nan .. => none
  | x => some ((x.rational : WithTop ℚ) : WithBot (WithTop ℚ))

theorem place_isSome (x : Decimal) : x.place?.isSome = !x.isNaN := by
  cases x <;> rfl

theorem place_finite (x : Decimal) (finite : x.isFinite = true) :
    x.place? = some ((x.rational : WithTop ℚ) : WithBot (WithTop ℚ)) := by
  obtain ⟨n,a,e,rfl⟩ := x.exists_finite finite
  rfl

theorem equal_of_isNaN (x y : Decimal) (missing : x.isNaN = true ∨ y.isNaN = true) : x.equal y ≠ .ok true := by
  unfold equal
  split
  · simp
  · rcases missing with first | second
    · simp [first]
    · simp [second]

theorem compareValue_eq_iff (x y : Decimal) (xOrdered : x.isNaN = false) (yOrdered : y.isNaN = false) :
    compareValue x y = .eq ↔ x.place? = y.place? := by
  cases x with
  | nan n s p => simp [isNaN] at xOrdered
  | infinite n =>
    cases y with
    | nan m s p => simp [isNaN] at yOrdered
    | infinite m => cases n <;> cases m <;> simp [compareValue,place?]
    | finite m b f => cases n <;> simp [compareValue,place?]
  | finite n a e =>
    cases y with
    | nan m s p => simp [isNaN] at yOrdered
    | infinite m => cases m <;> simp [compareValue,place?]
    | finite m b f => simp [compareValue_finite,place?]

/-- Two decimals are found equal exactly if they lie at one place. -/
theorem equal_iff (x y : Decimal) : x.equal y = .ok true ↔ ∃ p, x.place? = some p ∧ y.place? = some p := by
  by_cases missing : x.isNaN = true ∨ y.isNaN = true
  · have nowhere : ¬∃ p, x.place? = some p ∧ y.place? = some p := by
      rintro ⟨p,xPlace,yPlace⟩
      have xSome := x.place_isSome
      have ySome := y.place_isSome
      rw [xPlace] at xSome
      rw [yPlace] at ySome
      simp_all
    simp [equal_of_isNaN x y missing,nowhere]
  · obtain ⟨xOrdered,yOrdered⟩ : x.isNaN = false ∧ y.isNaN = false := by simpa using missing
    have quiet (z : Decimal) (ordered : z.isNaN = false) : z.isSignaling = false := by
      cases z <;> simp_all [isNaN,isSignaling]
    obtain ⟨p,place⟩ : ∃ p, x.place? = some p := Option.isSome_iff_exists.mp (by rw [place_isSome,xOrdered]; rfl)
    have order := compareValue_eq_iff x y xOrdered yOrdered
    have found : x.equal y = .ok (compareValue x y == .eq) := by
      simp [equal,xOrdered,yOrdered,quiet x xOrdered,quiet y yOrdered]
    rw [found,Except.ok.injEq,beq_iff_eq,order,place]
    constructor
    · intro same
      exact ⟨p,rfl,same.symm⟩
    · rintro ⟨q,first,second⟩
      rw [first,second]

end MediaTiers.Decimal
